import MongoConfig.Driver.Credential
import MongoConfig.Driver.HostList
import MongoConfig.Settings.Basic
/-! The options that a driver takes, and what becomes of settings that have no option.
Options are made from valid settings with listed hosts. Settings that a driver has no option for
are left to its own behaviour; their names are listed if they were changed.
-/

namespace MongoConfig.Driver

structure Options where
  hosts : List Host
  applicationName : Option String
  credential : Option Credential
  readPreference : ReadPreference
  readConcern : Option ReadConcern
  writeConcern : WriteConcern
  retryReads : Bool
  retryWrites : Bool
  replicaSet : Option String
  directConnection : Option Bool
  loadBalanced : Option Bool
  localThreshold : Duration
  serverSelectionTimeout : Duration
  connectTimeout : Option Duration
  heartbeatFrequency : Duration
  maxPoolSize : UInt32
  minPoolSize : UInt32
  maxConnecting : Option UInt32
  maxIdleTime : Option Duration
  tlsEnabled : Bool
  defaultDatabase : Option String
deriving DecidableEq, Repr

namespace Options

/-- The level that reads ask for, unless the server is to choose. -/
def readLevel? (concern : ReadConcern) : Option ReadConcern :=
  if concern = .default then none else some concern

/-- The options for settings whose host list the driver reads as `found`. -/
def ofHostList (settings : Settings) (found : HostList) : Except Error Options := do
  let credential ← Credential.ofCredential? settings.credential
  .ok
    {
      hosts := found.hosts,
      applicationName := settings.applicationName,
      credential,
      readPreference := settings.readPreference,
      readConcern := readLevel? settings.readConcern,
      writeConcern := settings.writeConcern,
      retryReads := settings.retryReads,
      retryWrites := settings.retryWrites,
      replicaSet := settings.cluster.requiredReplicaSet,
      directConnection :=
        if settings.cluster.srvHost.isNone && settings.cluster.mode == .single then
          some true
        else
          found.options.directConnection,
      loadBalanced := found.options.loadBalanced,
      localThreshold := settings.cluster.localThreshold,
      serverSelectionTimeout := settings.cluster.serverSelectionTimeout,
      connectTimeout := settings.socket.connectTimeout.nonZero?,
      heartbeatFrequency := settings.server.heartbeatFrequency,
      maxPoolSize := settings.pool.maxSize,
      minPoolSize := settings.pool.minSize,
      maxConnecting := found.options.maxConnecting,
      maxIdleTime := settings.pool.maxConnectionIdleTime.nonZero?,
      tlsEnabled := settings.tls.enabled,
      defaultDatabase := found.database
    }

/-- The options for settings, with the text of the hosts read in some way. -/
def ofSettingsBy (read : String → Except Fault HostList) (settings : Settings)
    : Except Error Options := do
  let found ← (read (HostList.text settings.cluster.hosts)).mapError .rejected
  ofHostList settings found

/-- The options for settings. -/
def ofSettings (settings : Settings) : Except Error Options :=
  ofSettingsBy HostList.read settings

/-- The values that have to go together. -/
def combination (options : Options) : Combination :=
  {
    hostCount := options.hosts.length,
    directConnection := options.directConnection,
    loadBalanced := options.loadBalanced,
    replicaSet := options.replicaSet.isSome,
    acknowledgment := options.writeConcern.acknowledgment,
    journal := options.writeConcern.journal,
    maxPoolSize := some options.maxPoolSize,
    maxConnecting := options.maxConnecting,
    maxStaleness := none,
    heartbeatFrequency := some options.heartbeatFrequency
  }

/-- Checks that a client can be created with the options. -/
def check (options : Options) : Except Error Unit :=
  options.combination.check.mapError .rejected

end Options

/-- Whether the context of enabled transport security allows only some of the versions. -/
def pinsVersion (tls : TlsSettings) : Bool :=
  tls.enabled && tls.context.any fun context => context.versions != TlsVersion.all

/-- The settings without an option, each with whether it was changed from `default`. -/
def unexpressedChanges (settings default : Settings) : List (Bool × String) :=
  [
    (settings.socket.readTimeout != default.socket.readTimeout, "Socket read timeout"),
    (
      settings.socket.receiveBufferSize != default.socket.receiveBufferSize
        || settings.socket.sendBufferSize != default.socket.sendBufferSize,
      "Socket buffer size"
    ),
    (
      settings.server.minHeartbeatFrequency != default.server.minHeartbeatFrequency,
      "Min heartbeat frequency"
    ),
    (settings.cluster.requiredType != default.cluster.requiredType, "Required cluster type"),
    (
      settings.cluster.maxWaitQueueSize != default.cluster.maxWaitQueueSize,
      "Cluster wait queue size"
    ),
    (settings.pool.maxWaitQueueSize != default.pool.maxWaitQueueSize, "Pool wait queue size"),
    (settings.pool.maxWaitTime != default.pool.maxWaitTime, "Pool max wait time"),
    (
      settings.pool.maxConnectionLifetime != default.pool.maxConnectionLifetime,
      "Pool max connection lifetime"
    ),
    (
      settings.pool.maintenanceInitialDelay != default.pool.maintenanceInitialDelay
        || settings.pool.maintenanceFrequency != default.pool.maintenanceFrequency,
      "Pool maintenance schedule"
    ),
    (pinsVersion settings.tls, "Pinned TLS protocol version"),
    (settings.tls.invalidHostnameAllowed, "Allowing invalid hostnames"),
    (settings.codecRegistry != default.codecRegistry, "Custom codec registry"),
    (settings.streamFactory.isSome, "Stream factory"),
    (settings.autoEncryption.isSome, "Auto encryption")
  ]

/-- The names of the changed settings that a driver has no option for. -/
def unexpressed (settings : Settings) : List String :=
  ((unexpressedChanges settings .defaults).filter (·.1)).map (·.2)

end MongoConfig.Driver

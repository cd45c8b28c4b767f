import MongoConfig.FlatSettings.Setter
/-! The factory of settings: values that are copied from defaults and set one after another, until
they are assembled.
-/

namespace MongoConfig

/-- The values that have been set so far, or copied from the defaults. Durations are in
milliseconds. -/
structure SettingsFactory where
  defaults : Settings
  applicationName : Option String
  autoEncryption : Option AutoEncryption
  codecRegistry : CodecRegistry
  readConcern : ReadConcern
  readPreference : ReadPreference
  retryReads : Option Bool
  retryWrites : Option Bool
  streamFactory : Option StreamFactory
  writeConcern : WriteConcern
  socketConnectTimeout : UInt64
  socketReadTimeout : UInt64
  socketReceiveBufferSize : UInt32
  socketSendBufferSize : UInt32
  serverHeartbeatFrequency : UInt64
  serverMinHeartbeatFrequency : UInt64
  clusterSrvHost : Option String
  clusterHosts : List Address
  clusterMode : ConnectionMode
  clusterType : ClusterType
  clusterReplicaSet : Option String
  clusterLocalThreshold : UInt64
  clusterServerSelectionTimeout : UInt64
  clusterMaxWaitQueueSize : UInt32
  poolMaxSize : UInt32
  poolMinSize : UInt32
  poolMaxWaitQueueSize : UInt32
  poolMaxWaitTime : UInt64
  poolMaxConnectionLifetime : UInt64
  poolMaxConnectionIdleTime : UInt64
  poolMaintenanceInitialDelay : UInt64
  poolMaintenanceFrequency : UInt64
  tlsEnabled : Bool
  tlsInvalidHostnameAllowed : Bool
  tlsProvider : String
deriving Repr

namespace SettingsFactory

-----------------------------------------------------------------------------------------
-- Values
-----------------------------------------------------------------------------------------

/-- A factory with the values of the defaults. The name of the application, the encryption settings,
the retry flags and the factory of streams are not copied. -/
def ofDefaults (default : Settings) : SettingsFactory :=
  {
    defaults := default,
    applicationName := none,
    autoEncryption := none,
    codecRegistry := default.codecRegistry,
    readConcern := default.readConcern,
    readPreference := default.readPreference,
    retryReads := none,
    retryWrites := none,
    streamFactory := none,
    writeConcern := default.writeConcern,
    socketConnectTimeout := default.socket.connectTimeout.toMillis,
    socketReadTimeout := default.socket.readTimeout.toMillis,
    socketReceiveBufferSize := default.socket.receiveBufferSize,
    socketSendBufferSize := default.socket.sendBufferSize,
    serverHeartbeatFrequency := default.server.heartbeatFrequency.toMillis,
    serverMinHeartbeatFrequency := default.server.minHeartbeatFrequency.toMillis,
    clusterSrvHost := default.cluster.srvHost,
    clusterHosts := default.cluster.hosts,
    clusterMode := default.cluster.mode,
    clusterType := default.cluster.requiredType,
    clusterReplicaSet := default.cluster.requiredReplicaSet,
    clusterLocalThreshold := default.cluster.localThreshold.toMillis,
    clusterServerSelectionTimeout := default.cluster.serverSelectionTimeout.toMillis,
    clusterMaxWaitQueueSize := default.cluster.maxWaitQueueSize,
    poolMaxSize := default.pool.maxSize,
    poolMinSize := default.pool.minSize,
    poolMaxWaitQueueSize := default.pool.maxWaitQueueSize,
    poolMaxWaitTime := default.pool.maxWaitTime.toMillis,
    poolMaxConnectionLifetime := default.pool.maxConnectionLifetime.toMillis,
    poolMaxConnectionIdleTime := default.pool.maxConnectionIdleTime.toMillis,
    poolMaintenanceInitialDelay := default.pool.maintenanceInitialDelay.toMillis,
    poolMaintenanceFrequency := default.pool.maintenanceFrequency.toMillis,
    tlsEnabled := default.tls.enabled,
    tlsInvalidHostnameAllowed := default.tls.invalidHostnameAllowed,
    tlsProvider :=
      ((default.tls.context.filter fun _ => default.tls.enabled).map (·.provider)).getD ""
  }

/-- The factory in which a field has the given value and every other field what it had. -/
def put : (field : FlatSettings.Field) → field.Value → SettingsFactory → SettingsFactory
  | .applicationName, value, factory => { factory with applicationName := some value }
  | .readPreference, value, factory => { factory with readPreference := value }
  | .readConcern, value, factory => { factory with readConcern := value }
  | .writeConcern, value, factory => { factory with writeConcern := value }
  | .retryReads, value, factory => { factory with retryReads := some value }
  | .retryWrites, value, factory => { factory with retryWrites := some value }
  | .socketConnectTimeout, value, factory => { factory with socketConnectTimeout := value }
  | .socketReadTimeout, value, factory => { factory with socketReadTimeout := value }
  | .socketReceiveBufferSize, value, factory => { factory with socketReceiveBufferSize := value }
  | .socketSendBufferSize, value, factory => { factory with socketSendBufferSize := value }
  | .serverHeartbeatFrequency, value, factory => { factory with serverHeartbeatFrequency := value }
  | .serverMinHeartbeatFrequency, value, factory =>
      { factory with serverMinHeartbeatFrequency := value }
  | .clusterSrvHost, value, factory => { factory with clusterSrvHost := some value }
  | .clusterHosts, value, factory => { factory with clusterHosts := value }
  | .clusterMode, value, factory => { factory with clusterMode := value }
  | .clusterType, value, factory => { factory with clusterType := value }
  | .clusterReplicaSet, value, factory => { factory with clusterReplicaSet := some value }
  | .clusterLocalThreshold, value, factory => { factory with clusterLocalThreshold := value }
  | .clusterServerSelectionTimeout, value, factory =>
      { factory with clusterServerSelectionTimeout := value }
  | .clusterMaxWaitQueueSize, value, factory => { factory with clusterMaxWaitQueueSize := value }
  | .poolMaxSize, value, factory => { factory with poolMaxSize := value }
  | .poolMinSize, value, factory => { factory with poolMinSize := value }
  | .poolMaxWaitQueueSize, value, factory => { factory with poolMaxWaitQueueSize := value }
  | .poolMaxWaitTime, value, factory => { factory with poolMaxWaitTime := value }
  | .poolMaxConnectionLifetime, value, factory =>
      { factory with poolMaxConnectionLifetime := value }
  | .poolMaxConnectionIdleTime, value, factory =>
      { factory with poolMaxConnectionIdleTime := value }
  | .poolMaintenanceInitialDelay, value, factory =>
      { factory with poolMaintenanceInitialDelay := value }
  | .poolMaintenanceFrequency, value, factory =>
      { factory with poolMaintenanceFrequency := value }
  | .tlsEnabled, value, factory => { factory with tlsEnabled := value }
  | .tlsInvalidHostnameAllowed, value, factory =>
      { factory with tlsInvalidHostnameAllowed := value }
  | .tlsProvider, value, factory => { factory with tlsProvider := value }
  | .autoEncryption, value, factory => { factory with autoEncryption := some value }
  | .codecRegistry, value, factory => { factory with codecRegistry := value }
  | .streamFactory, value, factory => { factory with streamFactory := some value }

/-- Takes a retry flag back. -/
def clear : FlatSettings.Field → SettingsFactory → SettingsFactory
  | .retryReads, factory => { factory with retryReads := none }
  | .retryWrites, factory => { factory with retryWrites := none }
  | _, factory => factory

def set (factory : SettingsFactory) (setter : FlatSettings.Setter) : SettingsFactory :=
  match setter.value with
  | some value => factory.put setter.field value
  | none => factory.clear setter.field

-----------------------------------------------------------------------------------------
-- Settings
-----------------------------------------------------------------------------------------

/-- No hosts at all and a blank SRV host leave those of the defaults. -/
def cluster (factory : SettingsFactory) : ClusterSettings :=
  let default := factory.defaults.cluster
  {
    srvHost :=
      match factory.clusterSrvHost with
      | some host => if Text.isAllBlank host then default.srvHost else some host
      | none => default.srvHost,
    hosts := if factory.clusterHosts.isEmpty then default.hosts else factory.clusterHosts,
    mode := factory.clusterMode,
    requiredType := factory.clusterType,
    requiredReplicaSet := factory.clusterReplicaSet,
    localThreshold := .ofMillis factory.clusterLocalThreshold,
    serverSelectionTimeout := .ofMillis factory.clusterServerSelectionTimeout,
    maxWaitQueueSize := factory.clusterMaxWaitQueueSize
  }

def pool (factory : SettingsFactory) : PoolSettings :=
  {
    maxSize := factory.poolMaxSize,
    minSize := factory.poolMinSize,
    maxWaitQueueSize := factory.poolMaxWaitQueueSize,
    maxWaitTime := .ofMillis factory.poolMaxWaitTime,
    maxConnectionLifetime := .ofMillis factory.poolMaxConnectionLifetime,
    maxConnectionIdleTime := .ofMillis factory.poolMaxConnectionIdleTime,
    maintenanceInitialDelay := .ofMillis factory.poolMaintenanceInitialDelay,
    maintenanceFrequency := .ofMillis factory.poolMaintenanceFrequency
  }

def server (factory : SettingsFactory) : ServerSettings :=
  {
    heartbeatFrequency := .ofMillis factory.serverHeartbeatFrequency,
    minHeartbeatFrequency := .ofMillis factory.serverMinHeartbeatFrequency
  }

def socket (factory : SettingsFactory) : SocketSettings :=
  {
    connectTimeout := .ofMillis factory.socketConnectTimeout,
    readTimeout := .ofMillis factory.socketReadTimeout,
    receiveBufferSize := factory.socketReceiveBufferSize,
    sendBufferSize := factory.socketSendBufferSize
  }

/-- Transport security. Only if it is enabled is the provider looked up and the rule for host
names taken over. -/
def tls (factory : SettingsFactory) : Except UnsupportedProvider TlsSettings :=
  if factory.tlsEnabled then
    (SecurityContext.ofProvider factory.tlsProvider).map fun context =>
      {
        enabled := true,
        invalidHostnameAllowed := factory.tlsInvalidHostnameAllowed,
        context := some context
      }
  else
    .ok { factory.defaults.tls with enabled := false }

/-- The settings that the values make up with `tls`, before they are validated. Values that may be
missing leave what the defaults have; only the name of the application and the encryption settings
are taken over in any case. -/
def draft (factory : SettingsFactory) (tls : TlsSettings) : Settings :=
  {
    factory.defaults with
      applicationName := factory.applicationName,
      autoEncryption := factory.autoEncryption,
      codecRegistry := factory.codecRegistry,
      readConcern := factory.readConcern,
      readPreference := factory.readPreference,
      retryReads := factory.retryReads.getD factory.defaults.retryReads,
      retryWrites := factory.retryWrites.getD factory.defaults.retryWrites,
      streamFactory := factory.streamFactory.or factory.defaults.streamFactory,
      writeConcern := factory.writeConcern,
      cluster := factory.cluster,
      pool := factory.pool,
      server := factory.server,
      socket := factory.socket,
      tls
  }

/-- The settings that the values make up. -/
def build (factory : SettingsFactory) : Except AssemblyError Settings := do
  let tls ← factory.tls.mapError .securityContext
  (factory.draft tls).build.mapError .settings

end SettingsFactory

namespace FlatSettings

/-- Sets the values that there are, one after another. -/
def applyTo (config : FlatSettings) (factory : SettingsFactory) : SettingsFactory :=
  config.setters.foldl SettingsFactory.set factory

/-- The settings that the values make up together with defaults. -/
def assemble (config : FlatSettings) (default : Settings) : Except AssemblyError Settings :=
  (config.applyTo (.ofDefaults default)).build

end FlatSettings

end MongoConfig

import MongoConfig.ConnectionString.Application
import MongoConfig.Settings.Overlay
/-! The single values of settings.
A field names one of them, in whatever group it stands. Settings are known by their fields, and
what an overlay or a connection string does to settings it does to each field by itself.
-/

namespace MongoConfig

namespace Settings

/-- A single value of settings. -/
inductive Field where
  | applicationName
  | autoEncryption
  | codecRegistry
  | credential
  | readConcern
  | readPreference
  | retryReads
  | retryWrites
  | streamFactory
  | writeConcern
  | srvHost
  | hosts
  | mode
  | requiredType
  | requiredReplicaSet
  | localThreshold
  | serverSelectionTimeout
  | serverWaitQueueSize
  | maxPoolSize
  | minPoolSize
  | poolWaitQueueSize
  | maxWaitTime
  | maxConnectionLifetime
  | maxConnectionIdleTime
  | maintenanceInitialDelay
  | maintenanceFrequency
  | heartbeatFrequency
  | minHeartbeatFrequency
  | connectTimeout
  | readTimeout
  | receiveBufferSize
  | sendBufferSize
  | tlsEnabled
  | invalidHostnameAllowed
  | securityContext
deriving DecidableEq, Repr

namespace Field

def Value : Field → Type
  | applicationName => Option String
  | autoEncryption => Option AutoEncryption
  | codecRegistry => CodecRegistry
  | credential => Option Credential
  | readConcern => ReadConcern
  | readPreference => ReadPreference
  | retryReads | retryWrites | tlsEnabled | invalidHostnameAllowed => Bool
  | streamFactory => Option StreamFactory
  | writeConcern => WriteConcern
  | srvHost | requiredReplicaSet => Option String
  | hosts => List Address
  | mode => ConnectionMode
  | requiredType => ClusterType
  | securityContext => Option SecurityContext
  | serverWaitQueueSize | maxPoolSize | minPoolSize | poolWaitQueueSize | receiveBufferSize
  | sendBufferSize => UInt32
  | localThreshold | serverSelectionTimeout | maxWaitTime | maxConnectionLifetime
  | maxConnectionIdleTime | maintenanceInitialDelay | maintenanceFrequency | heartbeatFrequency
  | minHeartbeatFrequency | connectTimeout | readTimeout => Duration

/-- Values are compared as settings compare them. -/
instance (field : Field) : BEq field.Value :=
  match field with
  | applicationName => inferInstanceAs (BEq (Option String))
  | autoEncryption => inferInstanceAs (BEq (Option AutoEncryption))
  | codecRegistry => inferInstanceAs (BEq CodecRegistry)
  | credential => inferInstanceAs (BEq (Option Credential))
  | readConcern => inferInstanceAs (BEq ReadConcern)
  | readPreference => inferInstanceAs (BEq ReadPreference)
  | retryReads | retryWrites | tlsEnabled | invalidHostnameAllowed => inferInstanceAs (BEq Bool)
  | streamFactory => inferInstanceAs (BEq (Option StreamFactory))
  | writeConcern => inferInstanceAs (BEq WriteConcern)
  | srvHost | requiredReplicaSet => inferInstanceAs (BEq (Option String))
  | hosts => inferInstanceAs (BEq (List Address))
  | mode => inferInstanceAs (BEq ConnectionMode)
  | requiredType => inferInstanceAs (BEq ClusterType)
  | securityContext => inferInstanceAs (BEq (Option SecurityContext))
  | serverWaitQueueSize | maxPoolSize | minPoolSize | poolWaitQueueSize | receiveBufferSize
  | sendBufferSize => inferInstanceAs (BEq UInt32)
  | localThreshold | serverSelectionTimeout | maxWaitTime | maxConnectionLifetime
  | maxConnectionIdleTime | maintenanceInitialDelay | maintenanceFrequency | heartbeatFrequency
  | minHeartbeatFrequency | connectTimeout | readTimeout => inferInstanceAs (BEq Duration)

/-- The value of a field in settings. -/
def get : (field : Field) → Settings → field.Value
  | applicationName, settings => settings.applicationName
  | autoEncryption, settings => settings.autoEncryption
  | codecRegistry, settings => settings.codecRegistry
  | credential, settings => settings.credential
  | readConcern, settings => settings.readConcern
  | readPreference, settings => settings.readPreference
  | retryReads, settings => settings.retryReads
  | retryWrites, settings => settings.retryWrites
  | streamFactory, settings => settings.streamFactory
  | writeConcern, settings => settings.writeConcern
  | srvHost, settings => settings.cluster.srvHost
  | hosts, settings => settings.cluster.hosts
  | mode, settings => settings.cluster.mode
  | requiredType, settings => settings.cluster.requiredType
  | requiredReplicaSet, settings => settings.cluster.requiredReplicaSet
  | localThreshold, settings => settings.cluster.localThreshold
  | serverSelectionTimeout, settings => settings.cluster.serverSelectionTimeout
  | serverWaitQueueSize, settings => settings.cluster.maxWaitQueueSize
  | maxPoolSize, settings => settings.pool.maxSize
  | minPoolSize, settings => settings.pool.minSize
  | poolWaitQueueSize, settings => settings.pool.maxWaitQueueSize
  | maxWaitTime, settings => settings.pool.maxWaitTime
  | maxConnectionLifetime, settings => settings.pool.maxConnectionLifetime
  | maxConnectionIdleTime, settings => settings.pool.maxConnectionIdleTime
  | maintenanceInitialDelay, settings => settings.pool.maintenanceInitialDelay
  | maintenanceFrequency, settings => settings.pool.maintenanceFrequency
  | heartbeatFrequency, settings => settings.server.heartbeatFrequency
  | minHeartbeatFrequency, settings => settings.server.minHeartbeatFrequency
  | connectTimeout, settings => settings.socket.connectTimeout
  | readTimeout, settings => settings.socket.readTimeout
  | receiveBufferSize, settings => settings.socket.receiveBufferSize
  | sendBufferSize, settings => settings.socket.sendBufferSize
  | tlsEnabled, settings => settings.tls.enabled
  | invalidHostnameAllowed, settings => settings.tls.invalidHostnameAllowed
  | securityContext, settings => settings.tls.context

end Field

/-- Settings are made up of their fields. -/
theorem eq_of_get_eq {a b : Settings} (h : ∀ field : Field, field.get a = field.get b)
    : a = b := by
  have hcluster : a.cluster = b.cluster :=
    ClusterSettings.ext (h .srvHost) (h .hosts) (h .mode) (h .requiredType)
      (h .requiredReplicaSet) (h .localThreshold) (h .serverSelectionTimeout)
      (h .serverWaitQueueSize)
  have hpool : a.pool = b.pool :=
    PoolSettings.ext (h .maxPoolSize) (h .minPoolSize) (h .poolWaitQueueSize) (h .maxWaitTime)
      (h .maxConnectionLifetime) (h .maxConnectionIdleTime) (h .maintenanceInitialDelay)
      (h .maintenanceFrequency)
  have hserver : a.server = b.server :=
    ServerSettings.ext (h .heartbeatFrequency) (h .minHeartbeatFrequency)
  have hsocket : a.socket = b.socket :=
    SocketSettings.ext (h .connectTimeout) (h .readTimeout) (h .receiveBufferSize)
      (h .sendBufferSize)
  have htls : a.tls = b.tls :=
    TlsSettings.ext (h .tlsEnabled) (h .invalidHostnameAllowed) (h .securityContext)
  exact
    Settings.ext (h .applicationName) (h .autoEncryption) (h .codecRegistry) (h .credential)
      (h .readConcern) (h .readPreference) (h .retryReads) (h .retryWrites) (h .streamFactory)
      (h .writeConcern) hcluster hpool hserver hsocket htls

/-- The settings whose fields have the given values. -/
def ofFields (value : (field : Field) → field.Value) : Settings :=
  {
    applicationName := value .applicationName,
    autoEncryption := value .autoEncryption,
    codecRegistry := value .codecRegistry,
    credential := value .credential,
    readConcern := value .readConcern,
    readPreference := value .readPreference,
    retryReads := value .retryReads,
    retryWrites := value .retryWrites,
    streamFactory := value .streamFactory,
    writeConcern := value .writeConcern,
    cluster :=
      {
        srvHost := value .srvHost,
        hosts := value .hosts,
        mode := value .mode,
        requiredType := value .requiredType,
        requiredReplicaSet := value .requiredReplicaSet,
        localThreshold := value .localThreshold,
        serverSelectionTimeout := value .serverSelectionTimeout,
        maxWaitQueueSize := value .serverWaitQueueSize
      },
    pool :=
      {
        maxSize := value .maxPoolSize,
        minSize := value .minPoolSize,
        maxWaitQueueSize := value .poolWaitQueueSize,
        maxWaitTime := value .maxWaitTime,
        maxConnectionLifetime := value .maxConnectionLifetime,
        maxConnectionIdleTime := value .maxConnectionIdleTime,
        maintenanceInitialDelay := value .maintenanceInitialDelay,
        maintenanceFrequency := value .maintenanceFrequency
      },
    server :=
      {
        heartbeatFrequency := value .heartbeatFrequency,
        minHeartbeatFrequency := value .minHeartbeatFrequency
      },
    socket :=
      {
        connectTimeout := value .connectTimeout,
        readTimeout := value .readTimeout,
        receiveBufferSize := value .receiveBufferSize,
        sendBufferSize := value .sendBufferSize
      },
    tls :=
      {
        enabled := value .tlsEnabled,
        invalidHostnameAllowed := value .invalidHostnameAllowed,
        context := value .securityContext
      }
  }

theorem get_ofFields (value : (field : Field) → field.Value) (field : Field)
    : field.get (ofFields value) = value field := by
  cases field <;> rfl

/-- Comparison looks at all values; encryption settings and codec registries have a comparison of
their own, and for the others it is equality. -/
theorem beq_iff {a b : Settings}
    : (a == b) = true
      ↔ a.applicationName = b.applicationName
        ∧ (a.autoEncryption == b.autoEncryption) = true
        ∧ (a.codecRegistry == b.codecRegistry) = true
        ∧ a.credential = b.credential
        ∧ a.readConcern = b.readConcern
        ∧ a.readPreference = b.readPreference
        ∧ a.retryReads = b.retryReads
        ∧ a.retryWrites = b.retryWrites
        ∧ a.streamFactory = b.streamFactory
        ∧ a.writeConcern = b.writeConcern
        ∧ a.cluster = b.cluster
        ∧ a.pool = b.pool
        ∧ a.server = b.server
        ∧ a.socket = b.socket
        ∧ a.tls = b.tls := by
  change instBEqSettings.beq a b = true ↔ _
  cases a
  cases b
  simp only [instBEqSettings.beq, Bool.and_eq_true, beq_iff_eq]

/-- An overlay chooses field by field. -/
theorem get_overlay (field : Field) (lower upper default : Settings)
    : field.get (lower.overlay upper default)
      = changedOr (field.get upper) (field.get default) (field.get lower) := by
  cases field <;> rfl

end Settings

-----------------------------------------------------------------------------------------
-- What a connection string gives
-----------------------------------------------------------------------------------------

/-- A connection string asks for one server if it says so itself, or if it names one only and no
replica set. -/
def ConnectionString.AsksForOneServer (connection : ConnectionString) : Prop :=
  connection.srv = false
  ∧ (connection.options.directConnection = some true
    ∨ connection.options.directConnection = none
      ∧ connection.hosts.length = 1
      ∧ connection.options.replicaSet = none)

instance (connection : ConnectionString) : Decidable connection.AsksForOneServer :=
  inferInstanceAs (Decidable (_ ∧ _))

/-- The value that a connection string gives to a field. What it says about the deployment it says
always; the options may be left out. -/
def Settings.Field.given? : (field : Field) → ConnectionString → Option field.Value
  | srvHost, connection =>
      if connection.srv then some (connection.hosts.head?.map (·.host)) else none
  | hosts, connection => if connection.srv then none else some connection.hosts
  | mode, connection =>
      some (if connection.AsksForOneServer then ConnectionMode.single else .multiple)
  | credential, connection => connection.credential.map some
  | applicationName, connection => connection.options.applicationName.map some
  | requiredReplicaSet, connection => connection.options.replicaSet.map some
  | localThreshold, connection => connection.options.localThreshold
  | serverSelectionTimeout, connection => connection.options.serverSelectionTimeout
  | maxPoolSize, connection => connection.options.maxPoolSize
  | minPoolSize, connection => connection.options.minPoolSize
  | maxConnectionIdleTime, connection => connection.options.maxIdleTime
  | maxConnectionLifetime, connection => connection.options.maxLifeTime
  | maxWaitTime, connection => connection.options.waitQueueTimeout
  | heartbeatFrequency, connection => connection.options.heartbeatFrequency
  | connectTimeout, connection => connection.options.connectTimeout
  | readTimeout, connection => connection.options.socketTimeout
  | tlsEnabled, connection => connection.options.tlsEnabled
  | invalidHostnameAllowed, connection => connection.options.tlsAllowInvalidHostnames
  | readConcern, connection => connection.options.readConcern
  | readPreference, connection => connection.options.readPreference
  | retryReads, connection => connection.options.retryReads
  | retryWrites, connection => connection.options.retryWrites
  | writeConcern, connection => connection.options.writeConcern
  | autoEncryption, _ | codecRegistry, _ | streamFactory, _ | requiredType, _
  | serverWaitQueueSize, _ | poolWaitQueueSize, _ | maintenanceInitialDelay, _
  | maintenanceFrequency, _ | minHeartbeatFrequency, _ | receiveBufferSize, _
  | sendBufferSize, _ | securityContext, _ => none

namespace ConnectionString

/-- The mode is that which the connection string asks for. -/
theorem mode_of_not_srv {connection : ConnectionString} (hsrv : connection.srv = false)
    : connection.mode = if connection.AsksForOneServer then .single else .multiple := by
  cases hdirect : connection.options.directConnection with
  | none => simp [AsksForOneServer, mode, hsrv, hdirect]
  | some direct => cases direct <;> simp [AsksForOneServer, mode, hsrv, hdirect]

/-- A connection string replaces what tells where the deployment is, and leaves the rest of the
cluster alone. -/
theorem applyHosts_eq (connection : ConnectionString) (cluster : ClusterSettings)
    : connection.applyHosts cluster
      = {
          cluster with
            srvHost := (Settings.Field.srvHost.given? connection).getD cluster.srvHost,
            hosts := (Settings.Field.hosts.given? connection).getD cluster.hosts,
            mode := (Settings.Field.mode.given? connection).getD cluster.mode
        } := by
  rw [applyHosts]
  cases hsrv : connection.srv with
  | true =>
      have hmany : ¬connection.AsksForOneServer := by
        intro hone
        exact Bool.noConfusion (hsrv.symm.trans hone.1)
      simp only [Settings.Field.given?, hsrv, hmany, if_true]
      rfl
  | false =>
      simp only [Settings.Field.given?, hsrv, mode_of_not_srv hsrv]
      rfl

end ConnectionString

namespace Settings

theorem getD_map_some {α : Type} (given value : Option α)
    : (given.map some).getD value = given.or value := by
  cases given <;> rfl

/-- A connection string replaces the fields that it gives a value, and no others. -/
theorem get_withConnection (field : Field) (settings : Settings) (connection : ConnectionString)
    : field.get (settings.withConnection connection)
      = (field.given? connection).getD (field.get settings) := by
  rw [withConnection, ConnectionString.applyHosts_eq]
  cases field with
  | credential => exact (getD_map_some connection.credential settings.credential).symm
  | applicationName =>
      exact (getD_map_some connection.options.applicationName settings.applicationName).symm
  | requiredReplicaSet =>
      exact
        (getD_map_some connection.options.replicaSet settings.cluster.requiredReplicaSet).symm
  | _ => rfl

end Settings

end MongoConfig

import MongoConfig.FlatSettings.Basic
/-! Setting values one after another.
A field names one of the flat settings, and a setter carries a value for its field. A retry flag can
also be set to nothing, which leaves it to the defaults again.
-/

namespace MongoConfig.FlatSettings

/-- A single value of flat settings. -/
inductive Field where
  | applicationName
  | readPreference
  | readConcern
  | writeConcern
  | retryReads
  | retryWrites
  | socketConnectTimeout
  | socketReadTimeout
  | socketReceiveBufferSize
  | socketSendBufferSize
  | serverHeartbeatFrequency
  | serverMinHeartbeatFrequency
  | clusterSrvHost
  | clusterHosts
  | clusterMode
  | clusterType
  | clusterReplicaSet
  | clusterLocalThreshold
  | clusterServerSelectionTimeout
  | clusterMaxWaitQueueSize
  | poolMaxSize
  | poolMinSize
  | poolMaxWaitQueueSize
  | poolMaxWaitTime
  | poolMaxConnectionLifetime
  | poolMaxConnectionIdleTime
  | poolMaintenanceInitialDelay
  | poolMaintenanceFrequency
  | tlsEnabled
  | tlsInvalidHostnameAllowed
  | tlsProvider
  | autoEncryption
  | codecRegistry
  | streamFactory
deriving DecidableEq, Repr

namespace Field

def Value : Field → Type
  | applicationName | clusterSrvHost | clusterReplicaSet | tlsProvider => String
  | readPreference => ReadPreference
  | readConcern => ReadConcern
  | writeConcern => WriteConcern
  | retryReads | retryWrites | tlsEnabled | tlsInvalidHostnameAllowed => Bool
  | socketConnectTimeout | socketReadTimeout | serverHeartbeatFrequency
  | serverMinHeartbeatFrequency | clusterLocalThreshold | clusterServerSelectionTimeout
  | poolMaxWaitTime | poolMaxConnectionLifetime | poolMaxConnectionIdleTime
  | poolMaintenanceInitialDelay | poolMaintenanceFrequency => UInt64
  | socketReceiveBufferSize | socketSendBufferSize | clusterMaxWaitQueueSize | poolMaxSize
  | poolMinSize | poolMaxWaitQueueSize => UInt32
  | clusterHosts => List Address
  | clusterMode => ConnectionMode
  | clusterType => ClusterType
  | autoEncryption => AutoEncryption
  | codecRegistry => CodecRegistry
  | streamFactory => StreamFactory

def all : List Field :=
  [
    .applicationName, .readPreference, .readConcern, .writeConcern, .retryReads, .retryWrites,
    .socketConnectTimeout, .socketReadTimeout, .socketReceiveBufferSize, .socketSendBufferSize,
    .serverHeartbeatFrequency, .serverMinHeartbeatFrequency, .clusterSrvHost, .clusterHosts,
    .clusterMode, .clusterType, .clusterReplicaSet, .clusterLocalThreshold,
    .clusterServerSelectionTimeout, .clusterMaxWaitQueueSize, .poolMaxSize, .poolMinSize,
    .poolMaxWaitQueueSize, .poolMaxWaitTime, .poolMaxConnectionLifetime,
    .poolMaxConnectionIdleTime, .poolMaintenanceInitialDelay, .poolMaintenanceFrequency,
    .tlsEnabled, .tlsInvalidHostnameAllowed, .tlsProvider, .autoEncryption, .codecRegistry,
    .streamFactory
  ]

/-- The value of a field, if there is one. -/
def get : (field : Field) → FlatSettings → Option field.Value
  | applicationName, flat => flat.applicationName
  | readPreference, flat => flat.readPreference
  | readConcern, flat => flat.readConcern
  | writeConcern, flat => flat.writeConcern
  | retryReads, flat => flat.retryReads
  | retryWrites, flat => flat.retryWrites
  | socketConnectTimeout, flat => flat.socketConnectTimeout
  | socketReadTimeout, flat => flat.socketReadTimeout
  | socketReceiveBufferSize, flat => flat.socketReceiveBufferSize
  | socketSendBufferSize, flat => flat.socketSendBufferSize
  | serverHeartbeatFrequency, flat => flat.serverHeartbeatFrequency
  | serverMinHeartbeatFrequency, flat => flat.serverMinHeartbeatFrequency
  | clusterSrvHost, flat => flat.clusterSrvHost
  | clusterHosts, flat => flat.clusterHosts
  | clusterMode, flat => flat.clusterMode
  | clusterType, flat => flat.clusterType
  | clusterReplicaSet, flat => flat.clusterReplicaSet
  | clusterLocalThreshold, flat => flat.clusterLocalThreshold
  | clusterServerSelectionTimeout, flat => flat.clusterServerSelectionTimeout
  | clusterMaxWaitQueueSize, flat => flat.clusterMaxWaitQueueSize
  | poolMaxSize, flat => flat.poolMaxSize
  | poolMinSize, flat => flat.poolMinSize
  | poolMaxWaitQueueSize, flat => flat.poolMaxWaitQueueSize
  | poolMaxWaitTime, flat => flat.poolMaxWaitTime
  | poolMaxConnectionLifetime, flat => flat.poolMaxConnectionLifetime
  | poolMaxConnectionIdleTime, flat => flat.poolMaxConnectionIdleTime
  | poolMaintenanceInitialDelay, flat => flat.poolMaintenanceInitialDelay
  | poolMaintenanceFrequency, flat => flat.poolMaintenanceFrequency
  | tlsEnabled, flat => flat.tlsEnabled
  | tlsInvalidHostnameAllowed, flat => flat.tlsInvalidHostnameAllowed
  | tlsProvider, flat => flat.tlsProvider
  | autoEncryption, flat => flat.autoEncryption
  | codecRegistry, flat => flat.codecRegistry
  | streamFactory, flat => flat.streamFactory

end Field

/-- Sets the value of a field. Only the retry flags can be set to nothing. -/
structure Setter where
  field : Field
  value : Option field.Value
  isSome_or_retry : value.isSome ∨ field = .retryReads ∨ field = .retryWrites

namespace Setter

def of (field : Field) (value : field.Value) : Setter :=
  { field, value := some value, isSome_or_retry := .inl rfl }

def retryReads (flag : Option Bool) : Setter :=
  { field := .retryReads, value := flag, isSome_or_retry := .inr (.inl rfl) }

def retryWrites (flag : Option Bool) : Setter :=
  { field := .retryWrites, value := flag, isSome_or_retry := .inr (.inr rfl) }

end Setter

/-- The setters of all values that there are, one for each. -/
def setters (config : FlatSettings) : List Setter :=
  Field.all.filterMap fun field => (field.get config).map (Setter.of field)

end MongoConfig.FlatSettings

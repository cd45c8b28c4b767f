import MongoConfig.Settings.Validation
/-! Flat settings: single configuration values, each of which may be absent. -/

namespace MongoConfig

/-- Configuration values. Durations are in milliseconds. -/
structure FlatSettings where
  applicationName : Option String := none
  readPreference : Option ReadPreference := none
  readConcern : Option ReadConcern := none
  writeConcern : Option WriteConcern := none
  retryReads : Option Bool := none
  retryWrites : Option Bool := none
  socketConnectTimeout : Option UInt64 := none
  socketReadTimeout : Option UInt64 := none
  socketReceiveBufferSize : Option UInt32 := none
  socketSendBufferSize : Option UInt32 := none
  serverHeartbeatFrequency : Option UInt64 := none
  serverMinHeartbeatFrequency : Option UInt64 := none
  clusterSrvHost : Option String := none
  clusterHosts : Option (List Address) := none
  clusterMode : Option ConnectionMode := none
  clusterType : Option ClusterType := none
  clusterReplicaSet : Option String := none
  clusterLocalThreshold : Option UInt64 := none
  clusterServerSelectionTimeout : Option UInt64 := none
  clusterMaxWaitQueueSize : Option UInt32 := none
  poolMaxSize : Option UInt32 := none
  poolMinSize : Option UInt32 := none
  poolMaxWaitQueueSize : Option UInt32 := none
  poolMaxWaitTime : Option UInt64 := none
  poolMaxConnectionLifetime : Option UInt64 := none
  poolMaxConnectionIdleTime : Option UInt64 := none
  poolMaintenanceInitialDelay : Option UInt64 := none
  poolMaintenanceFrequency : Option UInt64 := none
  tlsEnabled : Option Bool := none
  tlsInvalidHostnameAllowed : Option Bool := none
  tlsProvider : Option String := none
  autoEncryption : Option AutoEncryption := none
  codecRegistry : Option CodecRegistry := none
  streamFactory : Option StreamFactory := none
deriving BEq, Repr

/-- Why settings could not be assembled. -/
inductive AssemblyError where
  | securityContext (cause : UnsupportedProvider)
  | settings (fault : SettingsFault)
deriving DecidableEq, Repr

def AssemblyError.report : AssemblyError → ErrorReport
  | securityContext cause => .because cause.message { message := cause.message }
  | settings fault => fault.report

end MongoConfig

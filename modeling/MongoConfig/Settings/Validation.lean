import MongoConfig.ErrorReport
import MongoConfig.Settings.Basic
/-! Which settings go together.
All faults of a group of settings are listed in a fixed order, and the first one is reported. A
replica set name without a required type of cluster makes the replica set the required type; no
fault can come of that.
-/

namespace MongoConfig

/-- The lengths of time that must not be zero. -/
inductive TimedSetting where
  | maintenanceFrequency
  | heartbeatFrequency
  | minHeartbeatFrequency
deriving DecidableEq, Repr

def TimedSetting.name : TimedSetting → String
  | maintenanceFrequency => "maintenance_frequency"
  | heartbeatFrequency => "heartbeat_frequency"
  | minHeartbeatFrequency => "min_heartbeat_frequency"

/-- Settings that do not go together. -/
inductive SettingsFault where
  | replicaSetInOtherCluster (type : ClusterType)
  | srvHostWithPort (host : String)
  | srvHostInSingleMode
  | manyHostsInSingleMode
  | poolMinAboveMax (minSize maxSize : UInt32)
  | zeroDuration (setting : TimedSetting)
deriving DecidableEq, Repr

def SettingsFault.message : SettingsFault → String
  | replicaSetInOtherCluster type =>
      "When specifying a replica set name, only UNKNOWN and REPLICA_SET cluster types are valid, "
        ++ "not " ++ type.name
  | srvHostWithPort host => "The SRV host `" ++ host ++ "` can not specify a port"
  | srvHostInSingleMode =>
      "An SRV host name was provided but the connection mode is not MULTIPLE"
  | manyHostsInSingleMode =>
      "Multiple hosts cannot be specified when using the SINGLE connection mode"
  | poolMinAboveMax minSize maxSize =>
      "Connection pool min size " ++ Text.unsignedText minSize.toNat ++ " is larger than max size "
        ++ Text.unsignedText maxSize.toNat
  | zeroDuration setting => "`" ++ setting.name ++ "` must be greater than zero"

def SettingsFault.report (fault : SettingsFault) : ErrorReport :=
  { message := fault.message }

/-- The fault, if the condition holds. -/
def faultIf (condition : Bool) (fault : SettingsFault) : List SettingsFault :=
  if condition then [fault] else []

@[simp]
theorem faultIf_false (fault : SettingsFault) : faultIf false fault = [] :=
  rfl

namespace ClusterSettings

def replicaSetFaults (cluster : ClusterSettings) : List SettingsFault :=
  faultIf
    (cluster.requiredReplicaSet.isSome
      && cluster.requiredType != .unknown && cluster.requiredType != .replicaSet)
    (.replicaSetInOtherCluster cluster.requiredType)

def hostFaults (cluster : ClusterSettings) : List SettingsFault :=
  match cluster.srvHost with
  | some host =>
      faultIf (':' ∈ host.toList) (.srvHostWithPort host)
        ++ faultIf (cluster.mode == .single) .srvHostInSingleMode
  | none =>
      faultIf (cluster.mode == .single && cluster.hosts.length > 1) .manyHostsInSingleMode

/-- A replica set name asks for a replica set. -/
def promoted (cluster : ClusterSettings) : ClusterSettings :=
  if cluster.requiredReplicaSet.isSome && cluster.requiredType == .unknown then
    { cluster with requiredType := .replicaSet }
  else
    cluster

end ClusterSettings

def PoolSettings.faults (pool : PoolSettings) : List SettingsFault :=
  faultIf (0 < pool.maxSize && pool.maxSize < pool.minSize)
      (.poolMinAboveMax pool.minSize pool.maxSize)
    ++ faultIf pool.maintenanceFrequency.isZero (.zeroDuration .maintenanceFrequency)

def ServerSettings.faults (server : ServerSettings) : List SettingsFault :=
  faultIf server.heartbeatFrequency.isZero (.zeroDuration .heartbeatFrequency)
    ++ faultIf server.minHeartbeatFrequency.isZero (.zeroDuration .minHeartbeatFrequency)

namespace Settings

/-- All faults in the order in which they are reported. -/
def faults (settings : Settings) : List SettingsFault :=
  settings.cluster.replicaSetFaults ++ settings.cluster.hostFaults ++ settings.pool.faults
    ++ settings.server.faults

/-- The settings with the type of cluster that they ask for, or their first fault. -/
def build (settings : Settings) : Except SettingsFault Settings :=
  match settings.faults with
  | [] => .ok { settings with cluster := settings.cluster.promoted }
  | fault :: _ => .error fault

end Settings

end MongoConfig

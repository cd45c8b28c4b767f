import MongoConfig.Spelling
/-! The shapes of a deployment: how a client connects to it and what kind of cluster it is. -/

namespace MongoConfig

/-- Whether a client talks to one server or to every member that it discovers. -/
inductive ConnectionMode where
  | single
  | multiple
deriving DecidableEq, Repr

namespace ConnectionMode

def name : ConnectionMode → String
  | single => "SINGLE"
  | multiple => "MULTIPLE"

def table : List (String × ConnectionMode) :=
  [("single", single), ("multiple", multiple)]

def read (text : String) : Except TextError ConnectionMode :=
  readName .connectionMode table text

end ConnectionMode

/-- The kind of cluster that a deployment has to be. With `unknown` any kind will do. -/
inductive ClusterType where
  | standalone
  | replicaSet
  | sharded
  | unknown
deriving DecidableEq, Repr

namespace ClusterType

def name : ClusterType → String
  | standalone => "STANDALONE"
  | replicaSet => "REPLICA_SET"
  | sharded => "SHARDED"
  | unknown => "UNKNOWN"

def table : List (String × ClusterType) :=
  [
    ("standalone", standalone),
    ("replicaset", replicaSet),
    ("sharded", sharded),
    ("unknown", unknown)
  ]

def read (text : String) : Except TextError ClusterType :=
  readName .clusterType table text

end ClusterType

end MongoConfig

import MongoConfig.Address
import MongoConfig.Credential.Basic
import MongoConfig.ReadRouting
import MongoConfig.WriteConcern
/-! Connection strings: URIs that tell where a deployment is and how to talk to it. -/

namespace MongoConfig

/-- The options that the query of a connection string can give. -/
structure ConnectionOptions where
  replicaSet : Option String := none
  applicationName : Option String := none
  tlsEnabled : Option Bool := none
  tlsAllowInvalidHostnames : Option Bool := none
  directConnection : Option Bool := none
  connectTimeout : Option Duration := none
  socketTimeout : Option Duration := none
  maxPoolSize : Option UInt32 := none
  minPoolSize : Option UInt32 := none
  maxIdleTime : Option Duration := none
  maxLifeTime : Option Duration := none
  waitQueueTimeout : Option Duration := none
  serverSelectionTimeout : Option Duration := none
  localThreshold : Option Duration := none
  heartbeatFrequency : Option Duration := none
  retryWrites : Option Bool := none
  retryReads : Option Bool := none
  readPreference : Option ReadPreference := none
  readConcern : Option ReadConcern := none
  writeConcern : Option WriteConcern := none
deriving DecidableEq, Repr

/-- A connection string and its parts. With `srv` the one host is the name under which the servers
are looked up. -/
structure ConnectionString where
  raw : String
  srv : Bool
  hosts : List Address
  database : Option String
  credential : Option Credential
  options : ConnectionOptions
deriving DecidableEq, Repr

end MongoConfig

import MongoConfig.Address
import MongoConfig.AutoEncryption
import MongoConfig.CodecRegistry
import MongoConfig.Credential.Basic
import MongoConfig.ReadRouting
import MongoConfig.SecurityContext
import MongoConfig.Topology
import MongoConfig.WriteConcern
/-! The settings of a client, in groups. A value that nothing configures has the default that its
field names.
-/

namespace MongoConfig

/-- Time limits and buffers of a socket. A zero time limit is none, and a zero buffer size leaves
the choice to the operating system. -/
@[ext]
structure SocketSettings where
  connectTimeout : Duration := .ofMillis 10000
  readTimeout : Duration := .zero
  receiveBufferSize : UInt32 := 0
  sendBufferSize : UInt32 := 0
deriving DecidableEq, Repr

/-- How often the state of a server is asked for. -/
@[ext]
structure ServerSettings where
  heartbeatFrequency : Duration := .ofMillis 10000
  minHeartbeatFrequency : Duration := .ofMillis 500
deriving DecidableEq, Repr

/-- Where the servers are and which of them is chosen. With an SRV host the hosts are looked up and
the listed ones do not count. -/
@[ext]
structure ClusterSettings where
  srvHost : Option String := none
  hosts : List Address := [.localServer]
  mode : ConnectionMode := .single
  requiredType : ClusterType := .unknown
  requiredReplicaSet : Option String := none
  localThreshold : Duration := .ofMillis 15
  serverSelectionTimeout : Duration := .ofMillis 30000
  maxWaitQueueSize : UInt32 := 500
deriving DecidableEq, Repr

/-- How many connections are kept and for how long. A zero lifetime or idle time is unlimited, and
so is a zero maximum size. -/
@[ext]
structure PoolSettings where
  maxSize : UInt32 := 100
  minSize : UInt32 := 0
  maxWaitQueueSize : UInt32 := 500
  maxWaitTime : Duration := .ofMillis 120000
  maxConnectionLifetime : Duration := .zero
  maxConnectionIdleTime : Duration := .zero
  maintenanceInitialDelay : Duration := .zero
  maintenanceFrequency : Duration := .ofMillis 60000
deriving DecidableEq, Repr

/-- Transport security. -/
@[ext]
structure TlsSettings where
  enabled : Bool := false
  invalidHostnameAllowed : Bool := false
  context : Option SecurityContext := none
deriving DecidableEq, Repr

/-- All settings of a client. -/
@[ext]
structure Settings where
  applicationName : Option String := none
  autoEncryption : Option AutoEncryption := none
  codecRegistry : CodecRegistry := .standard
  credential : Option Credential := none
  readConcern : ReadConcern := .default
  readPreference : ReadPreference := .primary
  retryReads : Bool := true
  retryWrites : Bool := true
  streamFactory : Option StreamFactory := none
  writeConcern : WriteConcern := .acknowledged
  cluster : ClusterSettings := {}
  pool : PoolSettings := {}
  server : ServerSettings := {}
  socket : SocketSettings := {}
  tls : TlsSettings := {}
deriving BEq, Repr

namespace Settings

/-- The settings of a client for which nothing is configured. -/
def defaults : Settings :=
  {}

end Settings

end MongoConfig

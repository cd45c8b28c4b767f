import MongoConfig.ConnectionString.Basic
import MongoConfig.Settings.Basic
/-! Applying a connection string to settings. Hosts and connection mode are those of the connection
string; of the options, those that it gives replace what was there.
-/

namespace MongoConfig

namespace ConnectionString

/-- A single host without a replica set name is talked to directly, unless the string says so
itself. -/
def mode (connection : ConnectionString) : ConnectionMode :=
  match connection.options.directConnection with
  | some true => .single
  | some false => .multiple
  | none =>
      if connection.hosts.length = 1 ∧ connection.options.replicaSet.isNone then
        .single
      else
        .multiple

/-- The cluster with the deployment that the connection string points to. -/
def applyHosts (connection : ConnectionString) (cluster : ClusterSettings) : ClusterSettings :=
  if connection.srv then
    {
      cluster with
        srvHost := connection.hosts.head?.map (·.host),
        mode := .multiple
    }
  else
    {
      cluster with
        hosts := connection.hosts,
        mode := connection.mode
    }

end ConnectionString

namespace ConnectionOptions

def applyToCluster (options : ConnectionOptions) (cluster : ClusterSettings)
    : ClusterSettings :=
  {
    cluster with
      requiredReplicaSet := options.replicaSet.or cluster.requiredReplicaSet,
      serverSelectionTimeout :=
        options.serverSelectionTimeout.getD cluster.serverSelectionTimeout,
      localThreshold := options.localThreshold.getD cluster.localThreshold
  }

def applyToPool (options : ConnectionOptions) (pool : PoolSettings) : PoolSettings :=
  {
    pool with
      maxSize := options.maxPoolSize.getD pool.maxSize,
      minSize := options.minPoolSize.getD pool.minSize,
      maxConnectionIdleTime := options.maxIdleTime.getD pool.maxConnectionIdleTime,
      maxConnectionLifetime := options.maxLifeTime.getD pool.maxConnectionLifetime,
      maxWaitTime := options.waitQueueTimeout.getD pool.maxWaitTime
  }

def applyToServer (options : ConnectionOptions) (server : ServerSettings) : ServerSettings :=
  {
    server with
      heartbeatFrequency := options.heartbeatFrequency.getD server.heartbeatFrequency
  }

def applyToSocket (options : ConnectionOptions) (socket : SocketSettings) : SocketSettings :=
  {
    socket with
      connectTimeout := options.connectTimeout.getD socket.connectTimeout,
      readTimeout := options.socketTimeout.getD socket.readTimeout
  }

def applyToTls (options : ConnectionOptions) (tls : TlsSettings) : TlsSettings :=
  {
    tls with
      enabled := options.tlsEnabled.getD tls.enabled,
      invalidHostnameAllowed :=
        options.tlsAllowInvalidHostnames.getD tls.invalidHostnameAllowed
  }

end ConnectionOptions

/-- The settings after a connection string was applied to them. -/
def Settings.withConnection (settings : Settings) (connection : ConnectionString) : Settings :=
  let options := connection.options
  {
    settings with
      applicationName := options.applicationName.or settings.applicationName,
      credential := connection.credential.or settings.credential,
      readConcern := options.readConcern.getD settings.readConcern,
      readPreference := options.readPreference.getD settings.readPreference,
      retryReads := options.retryReads.getD settings.retryReads,
      retryWrites := options.retryWrites.getD settings.retryWrites,
      writeConcern := options.writeConcern.getD settings.writeConcern,
      cluster := options.applyToCluster (connection.applyHosts settings.cluster),
      pool := options.applyToPool settings.pool,
      server := options.applyToServer settings.server,
      socket := options.applyToSocket settings.socket,
      tls := options.applyToTls settings.tls
  }

end MongoConfig

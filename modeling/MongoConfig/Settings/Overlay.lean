import MongoConfig.Settings.Basic
/-! Laying settings over others. Each single value that was changed from its default replaces the
one below; a value that was left at its default lets the one below show.
-/

namespace MongoConfig

/-- The upper value if it was changed, and the lower one otherwise. -/
def changedOr {α : Type} [BEq α] (upper default lower : α) : α :=
  if upper != default then upper else lower

/-- A value that was not changed lets the lower one show. -/
theorem changedOr_default {α : Type} [BEq α] [ReflBEq α] (default lower : α)
    : changedOr default default lower = lower := by
  simp [changedOr, bne]

/-- Laying a value over itself changes nothing. -/
theorem changedOr_same {α : Type} [BEq α] (value default : α)
    : changedOr value default value = value := by
  simp [changedOr]

def ClusterSettings.overlay (lower upper default : ClusterSettings) : ClusterSettings :=
  {
    srvHost := changedOr upper.srvHost default.srvHost lower.srvHost,
    hosts := changedOr upper.hosts default.hosts lower.hosts,
    mode := changedOr upper.mode default.mode lower.mode,
    requiredType := changedOr upper.requiredType default.requiredType lower.requiredType,
    requiredReplicaSet :=
      changedOr upper.requiredReplicaSet default.requiredReplicaSet lower.requiredReplicaSet,
    localThreshold := changedOr upper.localThreshold default.localThreshold lower.localThreshold,
    serverSelectionTimeout :=
      changedOr upper.serverSelectionTimeout default.serverSelectionTimeout
        lower.serverSelectionTimeout,
    maxWaitQueueSize :=
      changedOr upper.maxWaitQueueSize default.maxWaitQueueSize lower.maxWaitQueueSize
  }

def PoolSettings.overlay (lower upper default : PoolSettings) : PoolSettings :=
  {
    maxSize := changedOr upper.maxSize default.maxSize lower.maxSize,
    minSize := changedOr upper.minSize default.minSize lower.minSize,
    maxWaitQueueSize :=
      changedOr upper.maxWaitQueueSize default.maxWaitQueueSize lower.maxWaitQueueSize,
    maxWaitTime := changedOr upper.maxWaitTime default.maxWaitTime lower.maxWaitTime,
    maxConnectionLifetime :=
      changedOr upper.maxConnectionLifetime default.maxConnectionLifetime
        lower.maxConnectionLifetime,
    maxConnectionIdleTime :=
      changedOr upper.maxConnectionIdleTime default.maxConnectionIdleTime
        lower.maxConnectionIdleTime,
    maintenanceInitialDelay :=
      changedOr upper.maintenanceInitialDelay default.maintenanceInitialDelay
        lower.maintenanceInitialDelay,
    maintenanceFrequency :=
      changedOr upper.maintenanceFrequency default.maintenanceFrequency
        lower.maintenanceFrequency
  }

def ServerSettings.overlay (lower upper default : ServerSettings) : ServerSettings :=
  {
    heartbeatFrequency :=
      changedOr upper.heartbeatFrequency default.heartbeatFrequency lower.heartbeatFrequency,
    minHeartbeatFrequency :=
      changedOr upper.minHeartbeatFrequency default.minHeartbeatFrequency
        lower.minHeartbeatFrequency
  }

def SocketSettings.overlay (lower upper default : SocketSettings) : SocketSettings :=
  {
    connectTimeout := changedOr upper.connectTimeout default.connectTimeout lower.connectTimeout,
    readTimeout := changedOr upper.readTimeout default.readTimeout lower.readTimeout,
    receiveBufferSize :=
      changedOr upper.receiveBufferSize default.receiveBufferSize lower.receiveBufferSize,
    sendBufferSize := changedOr upper.sendBufferSize default.sendBufferSize lower.sendBufferSize
  }

def TlsSettings.overlay (lower upper default : TlsSettings) : TlsSettings :=
  {
    enabled := changedOr upper.enabled default.enabled lower.enabled,
    invalidHostnameAllowed :=
      changedOr upper.invalidHostnameAllowed default.invalidHostnameAllowed
        lower.invalidHostnameAllowed,
    context := changedOr upper.context default.context lower.context
  }

/-- Lays `upper` over `lower`; a value of `upper` counts if it differs from that of `default`. -/
def Settings.overlay (lower upper default : Settings) : Settings :=
  {
    applicationName :=
      changedOr upper.applicationName default.applicationName lower.applicationName,
    autoEncryption := changedOr upper.autoEncryption default.autoEncryption lower.autoEncryption,
    codecRegistry := changedOr upper.codecRegistry default.codecRegistry lower.codecRegistry,
    credential := changedOr upper.credential default.credential lower.credential,
    readConcern := changedOr upper.readConcern default.readConcern lower.readConcern,
    readPreference := changedOr upper.readPreference default.readPreference lower.readPreference,
    retryReads := changedOr upper.retryReads default.retryReads lower.retryReads,
    retryWrites := changedOr upper.retryWrites default.retryWrites lower.retryWrites,
    streamFactory := changedOr upper.streamFactory default.streamFactory lower.streamFactory,
    writeConcern := changedOr upper.writeConcern default.writeConcern lower.writeConcern,
    cluster := lower.cluster.overlay upper.cluster default.cluster,
    pool := lower.pool.overlay upper.pool default.pool,
    server := lower.server.overlay upper.server default.server,
    socket := lower.socket.overlay upper.socket default.socket,
    tls := lower.tls.overlay upper.tls default.tls
  }

end MongoConfig

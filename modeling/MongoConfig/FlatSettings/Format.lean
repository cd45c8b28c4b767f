import MongoConfig.FlatSettings.Basic
/-! Flat settings as a document: one key for each value, all of which may be left out. -/

namespace MongoConfig.FlatSettings

def fields : List (Json.Field FlatSettings) :=
  [
    .optional "application-name" Json.Decoder.string fun value flat =>
      { flat with applicationName := value },
    .optional "read-preference" (Json.Decoder.ofText ReadPreference.read) fun value flat =>
      { flat with readPreference := value },
    .optional "read-concern" (Json.Decoder.ofText ReadConcern.read) fun value flat =>
      { flat with readConcern := value },
    .optional "write-concern" (Json.Decoder.ofText WriteConcern.read) fun value flat =>
      { flat with writeConcern := value },
    .optional "retry-reads" Json.Decoder.bool fun value flat =>
      { flat with retryReads := value },
    .optional "retry-writes" Json.Decoder.bool fun value flat =>
      { flat with retryWrites := value },
    .optional "socket-connect-timeout-ms" Json.Decoder.uint64 fun value flat =>
      { flat with socketConnectTimeout := value },
    .optional "socket-read-timeout-ms" Json.Decoder.uint64 fun value flat =>
      { flat with socketReadTimeout := value },
    .optional "socket-receive-buffer-size" Json.Decoder.uint32 fun value flat =>
      { flat with socketReceiveBufferSize := value },
    .optional "socket-send-buffer-size" Json.Decoder.uint32 fun value flat =>
      { flat with socketSendBufferSize := value },
    .optional "server-heartbeat-frequency-ms" Json.Decoder.uint64 fun value flat =>
      { flat with serverHeartbeatFrequency := value },
    .optional "server-min-heartbeat-frequency-ms" Json.Decoder.uint64 fun value flat =>
      { flat with serverMinHeartbeatFrequency := value },
    .optional "cluster-srv-host" Json.Decoder.string fun value flat =>
      { flat with clusterSrvHost := value },
    .optional "cluster-hosts" (Json.Decoder.list (Json.Decoder.ofText Address.read))
      fun value flat => { flat with clusterHosts := value },
    .optional "cluster-connection-mode" (Json.Decoder.ofText ConnectionMode.read) fun value flat =>
      { flat with clusterMode := value },
    .optional "cluster-type" (Json.Decoder.ofText ClusterType.read) fun value flat =>
      { flat with clusterType := value },
    .optional "cluster-replica-set-name" Json.Decoder.string fun value flat =>
      { flat with clusterReplicaSet := value },
    .optional "cluster-local-threshold-ms" Json.Decoder.uint64 fun value flat =>
      { flat with clusterLocalThreshold := value },
    .optional "cluster-server-selection-timeout-ms" Json.Decoder.uint64 fun value flat =>
      { flat with clusterServerSelectionTimeout := value },
    .optional "cluster-max-wait-queue-size" Json.Decoder.uint32 fun value flat =>
      { flat with clusterMaxWaitQueueSize := value },
    .optional "pool-max-size" Json.Decoder.uint32 fun value flat =>
      { flat with poolMaxSize := value },
    .optional "pool-min-size" Json.Decoder.uint32 fun value flat =>
      { flat with poolMinSize := value },
    .optional "pool-max-wait-queue-size" Json.Decoder.uint32 fun value flat =>
      { flat with poolMaxWaitQueueSize := value },
    .optional "pool-max-wait-time-ms" Json.Decoder.uint64 fun value flat =>
      { flat with poolMaxWaitTime := value },
    .optional "pool-max-connection-lifetime-ms" Json.Decoder.uint64 fun value flat =>
      { flat with poolMaxConnectionLifetime := value },
    .optional "pool-max-connection-idle-time-ms" Json.Decoder.uint64 fun value flat =>
      { flat with poolMaxConnectionIdleTime := value },
    .optional "pool-maintenance-initial-delay-ms" Json.Decoder.uint64 fun value flat =>
      { flat with poolMaintenanceInitialDelay := value },
    .optional "pool-maintenance-frequency-ms" Json.Decoder.uint64 fun value flat =>
      { flat with poolMaintenanceFrequency := value },
    .optional "ssl-enabled" Json.Decoder.bool fun value flat =>
      { flat with tlsEnabled := value },
    .optional "ssl-invalid-hostname-allowed" Json.Decoder.bool fun value flat =>
      { flat with tlsInvalidHostnameAllowed := value },
    .optional "ssl-provider" Json.Decoder.string fun value flat =>
      { flat with tlsProvider := value },
    .optional "auto-encryption" AutoEncryption.format.decoder fun value flat =>
      { flat with autoEncryption := value }
  ]

def format : Json.RecordFormat FlatSettings :=
  {
    name := "ClientSettingsConfig",
    fields,
    blank := {}
  }

def ofText (text : String) : Except Json.Problem FlatSettings :=
  Json.decodeText format.decoder text

end MongoConfig.FlatSettings

import MongoConfig.Proofs.FlatSettings.OrElse
import MongoConfig.SettingsFactory
/-! What a factory of settings holds and what it makes.
A factory holds flat settings that are laid on the values copied from the defaults: setting a value
in the factory is setting it in these. So a factory makes what the values that were set make up
together with the defaults, and it does not matter that the others were copied beforehand.
-/

namespace MongoConfig

/-- A duration that was given in milliseconds, or else that of the defaults in whole ones. -/
def millisOr (value : Option UInt64) (default : Duration) : Duration :=
  .ofMillis (value.getD default.toMillis)

namespace FlatSettings

/-- The factory in which the values are laid on those that were there. -/
def laidOn (flat : FlatSettings) (factory : SettingsFactory) : SettingsFactory :=
  {
    defaults := factory.defaults,
    applicationName := flat.applicationName.or factory.applicationName,
    autoEncryption := flat.autoEncryption.or factory.autoEncryption,
    codecRegistry := flat.codecRegistry.getD factory.codecRegistry,
    readConcern := flat.readConcern.getD factory.readConcern,
    readPreference := flat.readPreference.getD factory.readPreference,
    retryReads := flat.retryReads.or factory.retryReads,
    retryWrites := flat.retryWrites.or factory.retryWrites,
    streamFactory := flat.streamFactory.or factory.streamFactory,
    writeConcern := flat.writeConcern.getD factory.writeConcern,
    socketConnectTimeout := flat.socketConnectTimeout.getD factory.socketConnectTimeout,
    socketReadTimeout := flat.socketReadTimeout.getD factory.socketReadTimeout,
    socketReceiveBufferSize := flat.socketReceiveBufferSize.getD factory.socketReceiveBufferSize,
    socketSendBufferSize := flat.socketSendBufferSize.getD factory.socketSendBufferSize,
    serverHeartbeatFrequency :=
      flat.serverHeartbeatFrequency.getD factory.serverHeartbeatFrequency,
    serverMinHeartbeatFrequency :=
      flat.serverMinHeartbeatFrequency.getD factory.serverMinHeartbeatFrequency,
    clusterSrvHost := flat.clusterSrvHost.or factory.clusterSrvHost,
    clusterHosts := flat.clusterHosts.getD factory.clusterHosts,
    clusterMode := flat.clusterMode.getD factory.clusterMode,
    clusterType := flat.clusterType.getD factory.clusterType,
    clusterReplicaSet := flat.clusterReplicaSet.or factory.clusterReplicaSet,
    clusterLocalThreshold := flat.clusterLocalThreshold.getD factory.clusterLocalThreshold,
    clusterServerSelectionTimeout :=
      flat.clusterServerSelectionTimeout.getD factory.clusterServerSelectionTimeout,
    clusterMaxWaitQueueSize := flat.clusterMaxWaitQueueSize.getD factory.clusterMaxWaitQueueSize,
    poolMaxSize := flat.poolMaxSize.getD factory.poolMaxSize,
    poolMinSize := flat.poolMinSize.getD factory.poolMinSize,
    poolMaxWaitQueueSize := flat.poolMaxWaitQueueSize.getD factory.poolMaxWaitQueueSize,
    poolMaxWaitTime := flat.poolMaxWaitTime.getD factory.poolMaxWaitTime,
    poolMaxConnectionLifetime :=
      flat.poolMaxConnectionLifetime.getD factory.poolMaxConnectionLifetime,
    poolMaxConnectionIdleTime :=
      flat.poolMaxConnectionIdleTime.getD factory.poolMaxConnectionIdleTime,
    poolMaintenanceInitialDelay :=
      flat.poolMaintenanceInitialDelay.getD factory.poolMaintenanceInitialDelay,
    poolMaintenanceFrequency :=
      flat.poolMaintenanceFrequency.getD factory.poolMaintenanceFrequency,
    tlsEnabled := flat.tlsEnabled.getD factory.tlsEnabled,
    tlsInvalidHostnameAllowed :=
      flat.tlsInvalidHostnameAllowed.getD factory.tlsInvalidHostnameAllowed,
    tlsProvider := flat.tlsProvider.getD factory.tlsProvider
  }

-----------------------------------------------------------------------------------------
-- Setting values
-----------------------------------------------------------------------------------------

variable {flat config : FlatSettings} {factory : SettingsFactory} {order : List Setter}

theorem put_laidOn (field : Field) (value : field.Value)
    : (flat.laidOn factory).put field value = (field.put (some value) flat).laidOn factory := by
  cases field <;> rfl

theorem laidOn_laidOn (upper lower : FlatSettings) (factory : SettingsFactory)
    : upper.laidOn (lower.laidOn factory) = (upper.orElse lower).laidOn factory := by
  simp only [laidOn, orElse, Option.getD_or, Option.or_assoc]

/-- If each setter changes only what is laid on a factory, all do, by induction on them. -/
theorem foldl_set_laidOn
    (hset
      : ∀ setter ∈ order, ∀ flat : FlatSettings,
          (flat.laidOn factory).set setter = (flat.set setter).laidOn factory)
    (flat : FlatSettings)
    : order.foldl SettingsFactory.set (flat.laidOn factory)
      = (order.foldl set flat).laidOn factory := by
  induction order generalizing flat with
  | nil => rfl
  | cons setter rest ih =>
      rw [List.foldl_cons, List.foldl_cons, hset setter List.mem_cons_self]
      exact ih (fun other hother => hset other (List.mem_cons_of_mem _ hother)) _

theorem foldl_set_eq_laidOn (horder : order.Perm config.setters) (factory : SettingsFactory)
    : order.foldl SettingsFactory.set factory = config.laidOn factory := by
  have hset
      : ∀ setter ∈ order, ∀ flat : FlatSettings,
          (flat.laidOn factory).set setter = (flat.set setter).laidOn factory := by
    intro setter hmem flat
    obtain ⟨field, value, -, rfl⟩ := mem_setters_iff.1 (horder.mem_iff.1 hmem)
    exact put_laidOn field value
  have hrun : order.foldl SettingsFactory.set (laidOn {} factory) = _ := foldl_set_laidOn hset {}
  rwa [← orElse_eq_foldl_set horder, orElse_none] at hrun

theorem applyTo_eq_laidOn (config : FlatSettings) (factory : SettingsFactory)
    : config.applyTo factory = config.laidOn factory :=
  foldl_set_eq_laidOn (.refl _) factory

/-- Applying values to a factory is setting them in any order. -/
theorem applyTo_eq_foldl_set (horder : order.Perm config.setters) (factory : SettingsFactory)
    : config.applyTo factory = order.foldl SettingsFactory.set factory := by
  rw [applyTo_eq_laidOn, foldl_set_eq_laidOn horder]

theorem applyTo_applyTo (upper lower : FlatSettings) (factory : SettingsFactory)
    : upper.applyTo (lower.applyTo factory) = (upper.orElse lower).applyTo factory := by
  rw [applyTo_eq_laidOn, applyTo_eq_laidOn, applyTo_eq_laidOn, laidOn_laidOn]

/-- Over defaults a retry flag can be taken back too, for none is copied. -/
theorem set_laidOn_ofDefaults (flat : FlatSettings) (setter : Setter) (default : Settings)
    : (flat.laidOn (.ofDefaults default)).set setter
      = (flat.set setter).laidOn (.ofDefaults default) := by
  obtain ⟨field, value?, hvalue⟩ := setter
  cases value? with
  | some value => exact put_laidOn field value
  | none =>
      rcases hvalue with hsome | rfl | rfl
      · cases hsome
      · rfl
      · rfl

/-- Whatever is set in a new factory is laid on the defaults. -/
theorem foldl_set_ofDefaults (setters : List Setter) (default : Settings)
    : setters.foldl SettingsFactory.set (.ofDefaults default)
      = (configured setters).laidOn (.ofDefaults default) :=
  foldl_set_laidOn (fun setter _ flat => set_laidOn_ofDefaults flat setter default) {}

-----------------------------------------------------------------------------------------
-- Drafts
-----------------------------------------------------------------------------------------

/-- An empty list of hosts and a blank SRV host are not configured at all. -/
def cluster (flat : FlatSettings) (default : ClusterSettings) : ClusterSettings :=
  {
    srvHost := (flat.clusterSrvHost.filter (!Text.isAllBlank ·)).or default.srvHost,
    hosts := (flat.clusterHosts.filter (!·.isEmpty)).getD default.hosts,
    mode := flat.clusterMode.getD default.mode,
    requiredType := flat.clusterType.getD default.requiredType,
    requiredReplicaSet := flat.clusterReplicaSet.or default.requiredReplicaSet,
    localThreshold := millisOr flat.clusterLocalThreshold default.localThreshold,
    serverSelectionTimeout :=
      millisOr flat.clusterServerSelectionTimeout default.serverSelectionTimeout,
    maxWaitQueueSize := flat.clusterMaxWaitQueueSize.getD default.maxWaitQueueSize
  }

def pool (flat : FlatSettings) (default : PoolSettings) : PoolSettings :=
  {
    maxSize := flat.poolMaxSize.getD default.maxSize,
    minSize := flat.poolMinSize.getD default.minSize,
    maxWaitQueueSize := flat.poolMaxWaitQueueSize.getD default.maxWaitQueueSize,
    maxWaitTime := millisOr flat.poolMaxWaitTime default.maxWaitTime,
    maxConnectionLifetime :=
      millisOr flat.poolMaxConnectionLifetime default.maxConnectionLifetime,
    maxConnectionIdleTime :=
      millisOr flat.poolMaxConnectionIdleTime default.maxConnectionIdleTime,
    maintenanceInitialDelay :=
      millisOr flat.poolMaintenanceInitialDelay default.maintenanceInitialDelay,
    maintenanceFrequency := millisOr flat.poolMaintenanceFrequency default.maintenanceFrequency
  }

def server (flat : FlatSettings) (default : ServerSettings) : ServerSettings :=
  {
    heartbeatFrequency := millisOr flat.serverHeartbeatFrequency default.heartbeatFrequency,
    minHeartbeatFrequency :=
      millisOr flat.serverMinHeartbeatFrequency default.minHeartbeatFrequency
  }

def socket (flat : FlatSettings) (default : SocketSettings) : SocketSettings :=
  {
    connectTimeout := millisOr flat.socketConnectTimeout default.connectTimeout,
    readTimeout := millisOr flat.socketReadTimeout default.readTimeout,
    receiveBufferSize := flat.socketReceiveBufferSize.getD default.receiveBufferSize,
    sendBufferSize := flat.socketSendBufferSize.getD default.sendBufferSize
  }

/-- The name of the provider that the defaults use; without transport security they use none. -/
def defaultProvider (default : TlsSettings) : String :=
  match default.enabled, default.context with
  | true, some context => context.provider
  | _, _ => ""

/-- Transport security. Only if it is enabled is the provider looked up and the rule for host
names taken over. -/
def tls (flat : FlatSettings) (default : TlsSettings)
    : Except UnsupportedProvider TlsSettings :=
  if flat.tlsEnabled.getD default.enabled then
    (SecurityContext.ofProvider (flat.tlsProvider.getD (defaultProvider default))).map
      fun context =>
        {
          enabled := true,
          invalidHostnameAllowed :=
            flat.tlsInvalidHostnameAllowed.getD default.invalidHostnameAllowed,
          context := some context
        }
  else
    .ok { default with enabled := false }

/-- The settings that the values make up with `tls`, before they are validated. The name of the
application and the encryption settings never come from the defaults. -/
def draft (flat : FlatSettings) (default : Settings) (tls : TlsSettings) : Settings :=
  {
    applicationName := flat.applicationName,
    autoEncryption := flat.autoEncryption,
    codecRegistry := flat.codecRegistry.getD default.codecRegistry,
    credential := default.credential,
    readConcern := flat.readConcern.getD default.readConcern,
    readPreference := flat.readPreference.getD default.readPreference,
    retryReads := flat.retryReads.getD default.retryReads,
    retryWrites := flat.retryWrites.getD default.retryWrites,
    streamFactory := flat.streamFactory.or default.streamFactory,
    writeConcern := flat.writeConcern.getD default.writeConcern,
    cluster := flat.cluster default.cluster,
    pool := flat.pool default.pool,
    server := flat.server default.server,
    socket := flat.socket default.socket,
    tls
  }

-----------------------------------------------------------------------------------------
-- What is made
-----------------------------------------------------------------------------------------

theorem srvHost_laidOn (host? default : Option String)
    : (match host?.or default with
        | some host => if Text.isAllBlank host then default else some host
        | none => default)
      = (host?.filter (!Text.isAllBlank ·)).or default := by
  cases host? with
  | none =>
      cases default with
      | none => rfl
      | some host => exact ite_self (some host)
  | some host =>
      rw [Option.some_or, Option.filter_some]
      dsimp only
      cases Text.isAllBlank host <;> rfl

theorem hosts_laidOn (hosts? : Option (List Address)) (default : List Address)
    : (if (hosts?.getD default).isEmpty then default else hosts?.getD default)
      = (hosts?.filter (!·.isEmpty)).getD default := by
  cases hosts? with
  | none => exact ite_self default
  | some hosts => cases hosts <;> rfl

theorem cluster_laidOn (flat : FlatSettings) (default : Settings)
    : (flat.laidOn (.ofDefaults default)).cluster = flat.cluster default.cluster :=
  ClusterSettings.ext (srvHost_laidOn _ _) (hosts_laidOn _ _) rfl rfl rfl rfl rfl rfl

theorem tlsProvider_ofDefaults (default : Settings)
    : (SettingsFactory.ofDefaults default).tlsProvider = defaultProvider default.tls := by
  rw [SettingsFactory.ofDefaults, defaultProvider]
  cases default.tls.enabled <;> cases default.tls.context <;> rfl

theorem tls_laidOn (flat : FlatSettings) (default : Settings)
    : (flat.laidOn (.ofDefaults default)).tls = flat.tls default.tls := by
  rw [tls, ← tlsProvider_ofDefaults]
  rfl

theorem draft_laidOn (flat : FlatSettings) (default : Settings) (tls : TlsSettings)
    : (flat.laidOn (.ofDefaults default)).draft tls = flat.draft default tls := by
  rw [draft, ← cluster_laidOn]
  refine Settings.ext ?_ ?_ rfl rfl rfl rfl ?_ ?_ ?_ rfl rfl rfl rfl rfl rfl
  all_goals simp [SettingsFactory.draft, laidOn, SettingsFactory.ofDefaults]

/-- A factory that copied defaults drafts what the values make up together with them. -/
theorem build_laidOn (flat : FlatSettings) (default : Settings)
    : (flat.laidOn (.ofDefaults default)).build
      = (flat.tls default.tls).mapError .securityContext >>= fun tls =>
          (flat.draft default tls).build.mapError .settings := by
  rw [SettingsFactory.build, tls_laidOn]
  simp only [draft_laidOn]

theorem assemble_eq (flat : FlatSettings) (default : Settings)
    : flat.assemble default
      = (flat.tls default.tls).mapError .securityContext >>= fun tls =>
          (flat.draft default tls).build.mapError .settings := by
  rw [assemble, applyTo_eq_laidOn, build_laidOn]

/-- Setting values in a new factory one by one makes what they make when they are put together
first. -/
theorem build_foldl_set (setters : List Setter) (default : Settings)
    : (setters.foldl SettingsFactory.set (.ofDefaults default)).build
      = (configured setters).assemble default := by
  rw [foldl_set_ofDefaults, assemble, applyTo_eq_laidOn]

end FlatSettings

end MongoConfig

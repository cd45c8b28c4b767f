import MongoConfig.Proofs.FlatSettings.Untouched
/-! What is made of flat settings that are laid over others.
Each value that there is reaches the settings under its own name, and layers can be put together
before or after they are laid over what is below them.
-/

namespace MongoConfig.FlatSettings

theorem untouched_orElse (flat : FlatSettings) : untouched.orElse flat = flat :=
  rfl

-----------------------------------------------------------------------------------------
-- Where values go
-----------------------------------------------------------------------------------------

/-- What the value of a field is in settings that were made with it. No hosts at all and a blank SRV
host count for nothing, and the rules of transport security only where it is enabled. A cluster of
any type becomes a replica set if that has a name. -/
def Field.Reaches : (field : Field) → field.Value → Settings → Prop
  | .applicationName, name, made => made.applicationName = some name
  | .readPreference, preference, made => made.readPreference = preference
  | .readConcern, concern, made => made.readConcern = concern
  | .writeConcern, concern, made => made.writeConcern = concern
  | .retryReads, flag, made => made.retryReads = flag
  | .retryWrites, flag, made => made.retryWrites = flag
  | .socketConnectTimeout, timeout, made => made.socket.connectTimeout = .ofMillis timeout
  | .socketReadTimeout, timeout, made => made.socket.readTimeout = .ofMillis timeout
  | .socketReceiveBufferSize, size, made => made.socket.receiveBufferSize = size
  | .socketSendBufferSize, size, made => made.socket.sendBufferSize = size
  | .serverHeartbeatFrequency, frequency, made =>
      made.server.heartbeatFrequency = .ofMillis frequency
  | .serverMinHeartbeatFrequency, frequency, made =>
      made.server.minHeartbeatFrequency = .ofMillis frequency
  | .clusterSrvHost, host, made =>
      Text.isAllBlank host = false → made.cluster.srvHost = some host
  | .clusterHosts, hosts, made => hosts ≠ [] → made.cluster.hosts = hosts
  | .clusterMode, mode, made => made.cluster.mode = mode
  | .clusterType, type, made =>
      made.cluster.requiredType
      = match (type : ClusterType), made.cluster.requiredReplicaSet with
        | .unknown, some _ => .replicaSet
        | type, _ => type
  | .clusterReplicaSet, name, made => made.cluster.requiredReplicaSet = some name
  | .clusterLocalThreshold, threshold, made => made.cluster.localThreshold = .ofMillis threshold
  | .clusterServerSelectionTimeout, timeout, made =>
      made.cluster.serverSelectionTimeout = .ofMillis timeout
  | .clusterMaxWaitQueueSize, size, made => made.cluster.maxWaitQueueSize = size
  | .poolMaxSize, size, made => made.pool.maxSize = size
  | .poolMinSize, size, made => made.pool.minSize = size
  | .poolMaxWaitQueueSize, size, made => made.pool.maxWaitQueueSize = size
  | .poolMaxWaitTime, time, made => made.pool.maxWaitTime = .ofMillis time
  | .poolMaxConnectionLifetime, lifetime, made =>
      made.pool.maxConnectionLifetime = .ofMillis lifetime
  | .poolMaxConnectionIdleTime, time, made => made.pool.maxConnectionIdleTime = .ofMillis time
  | .poolMaintenanceInitialDelay, delay, made =>
      made.pool.maintenanceInitialDelay = .ofMillis delay
  | .poolMaintenanceFrequency, frequency, made =>
      made.pool.maintenanceFrequency = .ofMillis frequency
  | .tlsEnabled, flag, made => made.tls.enabled = flag
  | .tlsInvalidHostnameAllowed, flag, made =>
      made.tls.enabled = true → made.tls.invalidHostnameAllowed = flag
  | .tlsProvider, provider, made =>
      made.tls.enabled = true
      → ∃ context,
        made.tls.context = some context ∧ SecurityContext.ofProvider provider = .ok context
  | .autoEncryption, encryption, made => made.autoEncryption = some encryption
  | .codecRegistry, registry, made => made.codecRegistry = registry
  | .streamFactory, factory, made => made.streamFactory = some factory

/-- Transport security that is made of values follows them. -/
theorem reaches_of_tls {flat : FlatSettings} {default made : TlsSettings}
    (h : flat.tls default = .ok made)
    : made.enabled = flat.tlsEnabled.getD default.enabled
      ∧ (made.enabled = true
        → made.invalidHostnameAllowed
            = flat.tlsInvalidHostnameAllowed.getD default.invalidHostnameAllowed
          ∧ ∃ context,
            made.context = some context
            ∧ SecurityContext.ofProvider (flat.tlsProvider.getD (defaultProvider default))
              = .ok context) := by
  rw [tls] at h
  split at h
  · rename_i henabled
    cases hfound : SecurityContext.ofProvider (flat.tlsProvider.getD (defaultProvider default)) with
    | error cause =>
        rw [hfound] at h
        cases h
    | ok context =>
        rw [hfound] at h
        obtain rfl := Except.ok.inj h
        exact ⟨henabled.symm, fun _ => ⟨rfl, context, rfl, rfl⟩⟩
  · rename_i hdisabled
    obtain rfl := Except.ok.inj h
    exact ⟨(Bool.eq_false_iff.2 hdisabled).symm, fun hon => absurd hon Bool.false_ne_true⟩

/-- The type of cluster that a value asks for is completed, but not replaced by another. -/
theorem requiredType_promoted (cluster : ClusterSettings)
    : cluster.promoted.requiredType
      = match cluster.requiredType, cluster.requiredReplicaSet with
        | .unknown, some _ => .replicaSet
        | type, _ => type := by
  obtain ⟨srvHost, hosts, mode, requiredType, requiredReplicaSet, _, _, _⟩ := cluster
  cases requiredType <;> cases requiredReplicaSet <;> rfl

theorem millisOr_of_eq_some {milliseconds? : Option UInt64} {milliseconds : UInt64}
    {default : Duration} (h : milliseconds? = some milliseconds)
    : millisOr milliseconds? default = .ofMillis milliseconds := by
  rw [h]
  rfl

theorem filter_of_eq_some {α : Type} {value? : Option α} {value : α} {keep : α → Bool}
    (h : value? = some value) (hkeep : keep value = true)
    : value?.filter keep = some value := by
  rw [h, Option.filter_some, if_pos hkeep]

/-- Each value that there is reaches the settings that are made with it. -/
theorem reaches_of_assemble {flat : FlatSettings} {default made : Settings}
    (h : flat.assemble default = .ok made) {field : Field} {value : field.Value}
    (hvalue : field.get flat = some value)
    : field.Reaches value made := by
  obtain ⟨tls, htls, hbuild⟩ := assemble_eq_ok_iff.1 h
  obtain ⟨-, rfl⟩ := Settings.build_eq_ok_iff.1 hbuild
  obtain ⟨henabled, hsecured⟩ := reaches_of_tls htls
  rw [ClusterSettings.promoted_eq]
  cases field with
  | applicationName | autoEncryption => exact hvalue
  | clusterReplicaSet | streamFactory => exact congrArg (Option.or · _) hvalue
  | readPreference | readConcern | writeConcern | retryReads | retryWrites
  | socketReceiveBufferSize | socketSendBufferSize | clusterMode | clusterMaxWaitQueueSize
  | poolMaxSize | poolMinSize | poolMaxWaitQueueSize | codecRegistry =>
      exact congrArg (Option.getD · _) hvalue
  | socketConnectTimeout | socketReadTimeout | serverHeartbeatFrequency
  | serverMinHeartbeatFrequency | clusterLocalThreshold | clusterServerSelectionTimeout
  | poolMaxWaitTime | poolMaxConnectionLifetime | poolMaxConnectionIdleTime
  | poolMaintenanceInitialDelay | poolMaintenanceFrequency =>
      exact millisOr_of_eq_some hvalue
  | clusterSrvHost =>
      intro hnotBlank
      exact congrArg (Option.or · _) (filter_of_eq_some hvalue (by rw [hnotBlank]; rfl))
  | clusterHosts =>
      intro hsome
      exact congrArg (Option.getD · _)
        (filter_of_eq_some hvalue (by rw [List.isEmpty_eq_false_iff.2 hsome]; rfl))
  | clusterType =>
      have htype : (flat.cluster default.cluster).requiredType = value :=
        congrArg (Option.getD · _) hvalue
      exact (requiredType_promoted _).trans (by rw [← htype]; rfl)
  | tlsEnabled => exact henabled.trans (congrArg (Option.getD · _) hvalue)
  | tlsInvalidHostnameAllowed =>
      intro hon
      exact (hsecured hon).1.trans (congrArg (Option.getD · _) hvalue)
  | tlsProvider =>
      intro hon
      obtain ⟨-, context, hcontext, hfound⟩ := hsecured hon
      rw [show flat.tlsProvider = some value from hvalue] at hfound
      exact ⟨context, hcontext, hfound⟩

-----------------------------------------------------------------------------------------
-- What is made of layers
-----------------------------------------------------------------------------------------

/-- Laying values over flat settings makes what setting them one by one makes, in whatever order,
and each value reaches the settings under its own name. Two layers make what the one makes that has
the values of the upper and those of the lower where the upper has none; an empty layer makes no
difference. All this holds of values that are applied to a factory too, whatever it was given
before. -/
theorem assemble_orElse {config : FlatSettings} {order : List Setter}
    (horder : order.Perm config.setters) (flat : FlatSettings) (default : Settings)
    : (config.orElse flat).assemble default = (order.foldl set flat).assemble default
      ∧ (∀ (field : Field) (value : field.Value) (made : Settings),
          field.get config = some value
          → (config.orElse flat).assemble default = .ok made
          → field.Reaches value made)
      ∧ (∀ upper : FlatSettings,
          (upper.orElse (config.orElse flat)).assemble default
            = ((upper.orElse config).orElse flat).assemble default
          ∧ ∀ field : Field,
            field.get (upper.orElse config) = (field.get upper).or (field.get config))
      ∧ (untouched.orElse flat).assemble default = flat.assemble default
      ∧ ∀ factory : SettingsFactory,
          config.applyTo factory = order.foldl SettingsFactory.set factory
          ∧ (∀ upper : FlatSettings,
              upper.applyTo (config.applyTo factory) = (upper.orElse config).applyTo factory)
          ∧ untouched.applyTo factory = factory := by
  refine ⟨?_, ?_, fun upper => ⟨?_, get_orElse upper config⟩, ?_, fun factory => ⟨?_, ?_, ?_⟩⟩
  · rw [orElse_eq_foldl_set horder]
  · intro field value made hvalue hmade
    refine reaches_of_assemble hmade ?_
    rw [get_orElse, hvalue, Option.some_or]
  · rw [orElse_assoc]
  · rw [untouched_orElse]
  · exact applyTo_eq_foldl_set horder factory
  · exact fun upper => applyTo_applyTo upper config factory
  · exact applyTo_eq_laidOn untouched factory

/-- Values of every kind that can count for nothing, and two that do count. -/
def sparseSettings : FlatSettings :=
  {
    retryReads := some false,
    clusterSrvHost := some " ",
    clusterHosts := some [],
    poolMinSize := some 3
  }

/-- Values that `sparseSettings` do and do not replace. -/
def pairedSettings : FlatSettings :=
  {
    clusterHosts := some [.localServer, .localServer],
    clusterMode := some .multiple,
    poolMinSize := some 200
  }

/-- The host list and the SRV host that count for nothing leave the defaults as they are, also where
the list stands over another one. -/
theorem assemble_orElse_reversed
    : let order : List Setter :=
        [.of .poolMinSize (3 : UInt32), .of .clusterHosts ([] : List Address),
          .of .clusterSrvHost " ", .of .retryReads false]
      order.Perm sparseSettings.setters
      ∧ (order.foldl set pairedSettings).assemble .defaults
        = .ok
            {
              retryReads := false,
              cluster := { mode := .multiple },
              pool := { minSize := 3 }
            } := by
  intro order
  have horder : order.Perm sparseSettings.setters := List.reverse_perm sparseSettings.setters
  refine ⟨horder, ?_⟩
  rw [← (assemble_orElse horder pairedSettings .defaults).1]
  refine assemble_eq_ok_iff.2 ⟨{}, rfl, Settings.build_eq_ok_iff.2 ⟨rfl, ?_⟩⟩
  exact
    Settings.ext rfl rfl rfl rfl rfl rfl rfl rfl rfl rfl (by decide) (by decide) (by decide)
      (by decide) rfl

end MongoConfig.FlatSettings

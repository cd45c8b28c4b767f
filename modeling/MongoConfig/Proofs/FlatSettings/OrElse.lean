import MongoConfig.Proofs.FlatSettings.Setter
/-! Values that are laid over others.
A value that the upper settings have counts, and the one below it does not. So laying settings over
others does what setting their values one by one does, in whatever order.
-/

namespace MongoConfig.FlatSettings

/-- The values of `upper`, and those of `lower` where `upper` has none. -/
def orElse (upper lower : FlatSettings) : FlatSettings :=
  {
    applicationName := upper.applicationName.or lower.applicationName,
    readPreference := upper.readPreference.or lower.readPreference,
    readConcern := upper.readConcern.or lower.readConcern,
    writeConcern := upper.writeConcern.or lower.writeConcern,
    retryReads := upper.retryReads.or lower.retryReads,
    retryWrites := upper.retryWrites.or lower.retryWrites,
    socketConnectTimeout := upper.socketConnectTimeout.or lower.socketConnectTimeout,
    socketReadTimeout := upper.socketReadTimeout.or lower.socketReadTimeout,
    socketReceiveBufferSize := upper.socketReceiveBufferSize.or lower.socketReceiveBufferSize,
    socketSendBufferSize := upper.socketSendBufferSize.or lower.socketSendBufferSize,
    serverHeartbeatFrequency :=
      upper.serverHeartbeatFrequency.or lower.serverHeartbeatFrequency,
    serverMinHeartbeatFrequency :=
      upper.serverMinHeartbeatFrequency.or lower.serverMinHeartbeatFrequency,
    clusterSrvHost := upper.clusterSrvHost.or lower.clusterSrvHost,
    clusterHosts := upper.clusterHosts.or lower.clusterHosts,
    clusterMode := upper.clusterMode.or lower.clusterMode,
    clusterType := upper.clusterType.or lower.clusterType,
    clusterReplicaSet := upper.clusterReplicaSet.or lower.clusterReplicaSet,
    clusterLocalThreshold := upper.clusterLocalThreshold.or lower.clusterLocalThreshold,
    clusterServerSelectionTimeout :=
      upper.clusterServerSelectionTimeout.or lower.clusterServerSelectionTimeout,
    clusterMaxWaitQueueSize := upper.clusterMaxWaitQueueSize.or lower.clusterMaxWaitQueueSize,
    poolMaxSize := upper.poolMaxSize.or lower.poolMaxSize,
    poolMinSize := upper.poolMinSize.or lower.poolMinSize,
    poolMaxWaitQueueSize := upper.poolMaxWaitQueueSize.or lower.poolMaxWaitQueueSize,
    poolMaxWaitTime := upper.poolMaxWaitTime.or lower.poolMaxWaitTime,
    poolMaxConnectionLifetime :=
      upper.poolMaxConnectionLifetime.or lower.poolMaxConnectionLifetime,
    poolMaxConnectionIdleTime :=
      upper.poolMaxConnectionIdleTime.or lower.poolMaxConnectionIdleTime,
    poolMaintenanceInitialDelay :=
      upper.poolMaintenanceInitialDelay.or lower.poolMaintenanceInitialDelay,
    poolMaintenanceFrequency :=
      upper.poolMaintenanceFrequency.or lower.poolMaintenanceFrequency,
    tlsEnabled := upper.tlsEnabled.or lower.tlsEnabled,
    tlsInvalidHostnameAllowed :=
      upper.tlsInvalidHostnameAllowed.or lower.tlsInvalidHostnameAllowed,
    tlsProvider := upper.tlsProvider.or lower.tlsProvider,
    autoEncryption := upper.autoEncryption.or lower.autoEncryption,
    codecRegistry := upper.codecRegistry.or lower.codecRegistry,
    streamFactory := upper.streamFactory.or lower.streamFactory
  }

theorem get_orElse (upper lower : FlatSettings) (field : Field)
    : field.get (upper.orElse lower) = (field.get upper).or (field.get lower) := by
  cases field <;> rfl

theorem orElse_none (flat : FlatSettings) : flat.orElse {} = flat := by
  refine eq_of_get_eq fun field => ?_
  have hnone : field.get {} = none := by
    cases field <;> rfl
  rw [get_orElse, hnone, Option.or_none]

theorem orElse_assoc (upper middle lower : FlatSettings)
    : upper.orElse (middle.orElse lower) = (upper.orElse middle).orElse lower := by
  refine eq_of_get_eq fun field => ?_
  simp only [get_orElse, Option.or_assoc]

-----------------------------------------------------------------------------------------
-- One setter for each value
-----------------------------------------------------------------------------------------

theorem mem_setters_iff {config : FlatSettings} {setter : Setter}
    : setter ∈ config.setters
      ↔ ∃ field value, field.get config = some value ∧ Setter.of field value = setter := by
  rw [setters, List.mem_filterMap]
  constructor
  · rintro ⟨field, -, h⟩
    obtain ⟨value, hvalue, rfl⟩ := Option.map_eq_some_iff.1 h
    exact ⟨field, value, hvalue, rfl⟩
  · rintro ⟨field, value, hvalue, rfl⟩
    exact ⟨field, field.mem_all, Option.map_eq_some_iff.2 ⟨value, hvalue, rfl⟩⟩

/-- A field that is set to one value throughout has that value in the end, by induction from the
last setter. -/
theorem get_foldl_set_of_mem {order : List Setter} {field : Field} {value : field.Value}
    (hmem : Setter.of field value ∈ order)
    (hone : ∀ setter ∈ order, setter.field = field → setter = Setter.of field value)
    (flat : FlatSettings)
    : field.get (order.foldl set flat) = some value := by
  induction order using List.reverseRecOn with
  | nil => cases hmem
  | append_singleton front setter ih =>
      rw [List.foldl_append, List.foldl_cons, List.foldl_nil, get_set, Setter.value?]
      by_cases hfield : setter.field = field
      · have hlast := hone setter (List.mem_append_right front List.mem_cons_self) hfield
        subst hlast
        rw [dif_pos hfield]
        rfl
      · rw [dif_neg hfield, Option.getD_none]
        refine ih ?_ fun other hother => hone other (List.mem_append_left _ hother)
        rcases List.mem_append.1 hmem with hmem | hmem
        · exact hmem
        · rw [← List.mem_singleton.1 hmem] at hfield
          exact absurd rfl hfield

theorem get_foldl_set_of_not_mem {order : List Setter} {field : Field}
    (h : ∀ setter ∈ order, setter.field ≠ field) (flat : FlatSettings)
    : field.get (order.foldl set flat) = field.get flat := by
  induction order generalizing flat with
  | nil => rfl
  | cons setter rest ih =>
      have hother := h setter List.mem_cons_self
      rw [List.foldl_cons, ih fun other hmem => h other (List.mem_cons_of_mem _ hmem), get_set,
        Setter.value?, dif_neg hother, Option.getD_none]

/-- Laying values over flat settings is setting them one after another, in any order. -/
theorem orElse_eq_foldl_set {config : FlatSettings} {order : List Setter}
    (horder : order.Perm config.setters) (flat : FlatSettings)
    : config.orElse flat = order.foldl set flat := by
  refine eq_of_get_eq fun field => ?_
  rw [get_orElse]
  cases hvalue : field.get config with
  | none =>
      refine (get_foldl_set_of_not_mem ?_ flat).symm
      intro setter hmem hfield
      obtain ⟨other, value, hother, rfl⟩ := mem_setters_iff.1 (horder.mem_iff.1 hmem)
      obtain rfl : other = field := hfield
      rw [hvalue] at hother
      cases hother
  | some value =>
      refine (get_foldl_set_of_mem ?_ ?_ flat).symm
      · exact horder.mem_iff.2 (mem_setters_iff.2 ⟨field, value, hvalue, rfl⟩)
      · intro setter hmem hfield
        obtain ⟨other, otherValue, hother, rfl⟩ := mem_setters_iff.1 (horder.mem_iff.1 hmem)
        obtain rfl : other = field := hfield
        rw [hvalue] at hother
        rw [Option.some.inj hother]

end MongoConfig.FlatSettings

import MongoConfig.Proofs.Settings.Comparison
/-! Which fault of settings is reported.
Each fault has a condition of its own and a place in the order of report. Validation fails exactly
if some condition holds, and it reports the first such fault.
-/

namespace MongoConfig

/-- The place of a fault in the order of report. -/
def SettingsFault.rank : SettingsFault → Nat
  | replicaSetInOtherCluster _ => 0
  | srvHostWithPort _ => 1
  | srvHostInSingleMode => 2
  | manyHostsInSingleMode => 3
  | poolMinAboveMax _ _ => 4
  | zeroDuration .maintenanceFrequency => 5
  | zeroDuration .heartbeatFrequency => 6
  | zeroDuration .minHeartbeatFrequency => 7

/-- The type of cluster that is asked for: a replica set name asks for a replica set, where no type
is given. -/
def ClusterSettings.completedType (cluster : ClusterSettings) : ClusterType :=
  if cluster.requiredReplicaSet ≠ none ∧ cluster.requiredType = .unknown then
    .replicaSet
  else
    cluster.requiredType

namespace Settings

/-- What makes each fault one of the settings. -/
def HasFault (settings : Settings) : SettingsFault → Prop
  | .replicaSetInOtherCluster type =>
      settings.cluster.requiredReplicaSet ≠ none
      ∧ (settings.cluster.requiredType = .standalone
        ∨ settings.cluster.requiredType = .sharded)
      ∧ type = settings.cluster.requiredType
  | .srvHostWithPort host => settings.cluster.srvHost = some host ∧ ':' ∈ host.toList
  | .srvHostInSingleMode => settings.cluster.srvHost ≠ none ∧ settings.cluster.mode = .single
  | .manyHostsInSingleMode =>
      settings.cluster.srvHost = none
      ∧ settings.cluster.mode = .single
      ∧ 1 < settings.cluster.hosts.length
  | .poolMinAboveMax minSize maxSize =>
      0 < settings.pool.maxSize
      ∧ settings.pool.maxSize < settings.pool.minSize
      ∧ minSize = settings.pool.minSize
      ∧ maxSize = settings.pool.maxSize
  | .zeroDuration .maintenanceFrequency => settings.pool.maintenanceFrequency = .zero
  | .zeroDuration .heartbeatFrequency => settings.server.heartbeatFrequency = .zero
  | .zeroDuration .minHeartbeatFrequency => settings.server.minHeartbeatFrequency = .zero

-----------------------------------------------------------------------------------------
-- The faults and their conditions
-----------------------------------------------------------------------------------------

theorem faultIf_eq_of_iff {condition : Bool} {p : Prop} [Decidable p]
    (h : condition = true ↔ p) (fault : SettingsFault)
    : faultIf condition fault = faultIf p fault := by
  rw [← Bool.decide_coe condition, decide_eq_decide.2 h]

theorem mem_faultIf {condition : Bool} {fault other : SettingsFault}
    : other ∈ faultIf condition fault ↔ condition = true ∧ other = fault := by
  cases condition <;> simp [faultIf]

theorem isZero_iff {duration : Duration} : duration.isZero = true ↔ duration = .zero := by
  rw [Duration.isZero, beq_iff_eq]
  constructor
  · intro h
    cases duration
    exact congrArg Duration.mk h
  · rintro rfl
    rfl

theorem mem_replicaSetFaults {cluster : ClusterSettings} {fault : SettingsFault}
    : fault ∈ cluster.replicaSetFaults
      ↔ cluster.requiredReplicaSet ≠ none
        ∧ (cluster.requiredType = .standalone ∨ cluster.requiredType = .sharded)
        ∧ fault = .replicaSetInOtherCluster cluster.requiredType := by
  rw [ClusterSettings.replicaSetFaults, mem_faultIf]
  cases cluster.requiredType <;> cases cluster.requiredReplicaSet <;> simp

theorem mem_hostFaults {cluster : ClusterSettings} {fault : SettingsFault}
    : fault ∈ cluster.hostFaults
      ↔ (∃ host,
          cluster.srvHost = some host ∧ ':' ∈ host.toList ∧ fault = .srvHostWithPort host)
        ∨ (cluster.srvHost ≠ none ∧ cluster.mode = .single ∧ fault = .srvHostInSingleMode)
        ∨ (cluster.srvHost = none
          ∧ cluster.mode = .single
          ∧ 1 < cluster.hosts.length
          ∧ fault = .manyHostsInSingleMode) := by
  rw [ClusterSettings.hostFaults]
  cases cluster.srvHost with
  | none => simp [mem_faultIf, and_assoc]
  | some host => simp [mem_faultIf]

theorem mem_poolFaults {pool : PoolSettings} {fault : SettingsFault}
    : fault ∈ pool.faults
      ↔ (0 < pool.maxSize
          ∧ pool.maxSize < pool.minSize
          ∧ fault = .poolMinAboveMax pool.minSize pool.maxSize)
        ∨ (pool.maintenanceFrequency = .zero ∧ fault = .zeroDuration .maintenanceFrequency) := by
  simp [PoolSettings.faults, mem_faultIf, isZero_iff, and_assoc]

theorem mem_serverFaults {server : ServerSettings} {fault : SettingsFault}
    : fault ∈ server.faults
      ↔ (server.heartbeatFrequency = .zero ∧ fault = .zeroDuration .heartbeatFrequency)
        ∨ (server.minHeartbeatFrequency = .zero
          ∧ fault = .zeroDuration .minHeartbeatFrequency) := by
  simp [ServerSettings.faults, mem_faultIf, isZero_iff]

/-- A fault is listed exactly if its condition holds. -/
theorem mem_faults_iff {settings : Settings} {fault : SettingsFault}
    : fault ∈ settings.faults ↔ settings.HasFault fault := by
  simp only [faults, List.mem_append, mem_replicaSetFaults, mem_hostFaults, mem_poolFaults,
    mem_serverFaults]
  cases fault with
  | zeroDuration setting => cases setting <;> simp [HasFault]
  | _ => simp [HasFault]

-----------------------------------------------------------------------------------------
-- The order of report
-----------------------------------------------------------------------------------------

theorem ranks_faultIf (condition : Bool) (fault : SettingsFault)
    : ((faultIf condition fault).map SettingsFault.rank).Sublist [fault.rank] := by
  cases condition with
  | false => exact List.nil_sublist _
  | true => exact List.Sublist.refl _

theorem ranks_hostFaults (cluster : ClusterSettings)
    : (cluster.hostFaults.map SettingsFault.rank).Sublist [1, 2, 3] := by
  rw [ClusterSettings.hostFaults]
  cases cluster.srvHost with
  | none => exact (ranks_faultIf _ _).trans (List.sublist_append_right [1, 2] [3])
  | some host =>
      rw [List.map_append]
      exact
        ((ranks_faultIf _ _).append (ranks_faultIf _ _)).trans
          (List.sublist_append_left [1, 2] [3])

/-- The faults are listed in the order of report. -/
theorem faults_ascending (settings : Settings)
    : settings.faults.Pairwise fun a b => a.rank < b.rank := by
  have hpool : (settings.pool.faults.map SettingsFault.rank).Sublist ([4] ++ [5]) := by
    rw [PoolSettings.faults, List.map_append]
    exact (ranks_faultIf _ _).append (ranks_faultIf _ _)
  have hserver : (settings.server.faults.map SettingsFault.rank).Sublist ([6] ++ [7]) := by
    rw [ServerSettings.faults, List.map_append]
    exact (ranks_faultIf _ _).append (ranks_faultIf _ _)
  have hall : (settings.faults.map SettingsFault.rank).Sublist (List.range 8) := by
    rw [faults, List.map_append, List.map_append, List.map_append]
    exact
      (((ranks_faultIf _ _).append (ranks_hostFaults settings.cluster)).append hpool).append
        hserver
  exact List.pairwise_map.1 (List.pairwise_lt_range.sublist hall)

theorem build_eq_error_iff_faults {settings : Settings} {fault : SettingsFault}
    : settings.build = .error fault ↔ ∃ rest, settings.faults = fault :: rest := by
  rw [build]
  cases settings.faults with
  | nil => simp
  | cons first rest => simp

theorem exists_faultIf_eq_cons_iff {p : Prop} [Decidable p] {fault first : SettingsFault}
    : (∃ rest, faultIf p fault = first :: rest) ↔ p ∧ first = fault := by
  by_cases h : p
  · simp [faultIf, h, eq_comm]
  · simp [h]

/-- The first fault is the one in front if its condition holds, and else the first of the others. -/
theorem exists_faultIf_append_eq_cons_iff {p : Prop} [Decidable p] {fault first : SettingsFault}
    {more : List SettingsFault}
    : (∃ rest, faultIf p fault ++ more = first :: rest)
      ↔ p ∧ first = fault ∨ ¬p ∧ ∃ rest, more = first :: rest := by
  by_cases h : p
  · simp [faultIf, h, eq_comm]
  · simp [h]

/-- The fault that is reported is the first one whose condition holds. -/
theorem build_eq_error_iff {settings : Settings} {fault : SettingsFault}
    : settings.build = .error fault
      ↔ settings.HasFault fault
        ∧ ∀ other, settings.HasFault other → fault.rank ≤ other.rank := by
  have hascending := settings.faults_ascending
  simp only [build_eq_error_iff_faults, ← mem_faults_iff]
  constructor
  · rintro ⟨rest, hfaults⟩
    rw [hfaults] at hascending ⊢
    refine ⟨List.mem_cons_self, fun other hother => ?_⟩
    rcases List.mem_cons.1 hother with rfl | hother
    · exact Nat.le_refl _
    · exact Nat.le_of_lt ((List.pairwise_cons.1 hascending).1 other hother)
  · rintro ⟨hmem, hleast⟩
    cases hfaults : settings.faults with
    | nil =>
        rw [hfaults] at hmem
        cases hmem
    | cons first rest =>
        rw [hfaults] at hmem hleast hascending
        refine ⟨rest, ?_⟩
        rcases List.mem_cons.1 hmem with rfl | hmem
        · rfl
        · have hlt := (List.pairwise_cons.1 hascending).1 fault hmem
          exact absurd (hleast first List.mem_cons_self) (Nat.not_le_of_lt hlt)

theorem exists_build_eq_error_iff {settings : Settings}
    : (∃ fault, settings.build = .error fault) ↔ ∃ fault, settings.HasFault fault := by
  simp only [build_eq_error_iff_faults, ← mem_faults_iff]
  cases settings.faults with
  | nil => simp
  | cons first rest => exact iff_of_true ⟨first, rest, rfl⟩ ⟨first, List.mem_cons_self⟩

theorem promoted_eq_completed (cluster : ClusterSettings)
    : cluster.promoted = { cluster with requiredType := cluster.completedType } := by
  obtain ⟨srvHost, hosts, mode, type, replicaSet, threshold, timeout, queueSize⟩ := cluster
  cases type <;> cases replicaSet <;> rfl

/-- Validation fails exactly if the condition of some fault holds, and reports the first such fault.
If it succeeds, it completes the type of cluster and changes nothing else, and the result passes
again as it is. -/
theorem build_by_faults (settings : Settings)
    : ((∃ fault, settings.build = .error fault) ↔ ∃ fault, settings.HasFault fault)
      ∧ (∀ fault,
          settings.build = .error fault
          ↔ settings.HasFault fault
            ∧ ∀ other, settings.HasFault other → fault.rank ≤ other.rank)
      ∧ (∀ built,
          settings.build = .ok built
          → built
              = {
                  settings with
                    cluster :=
                      {
                        settings.cluster with
                          requiredType := settings.cluster.completedType
                      }
                }
            ∧ built.build = .ok built
            ∧ (built == built) = true) := by
  refine ⟨exists_build_eq_error_iff, fun _ => build_eq_error_iff, fun built hbuilt => ?_⟩
  refine ⟨?_, build_of_build hbuilt, BEq.rfl⟩
  rw [(build_eq_ok_iff.1 hbuilt).2, promoted_eq_completed]

/-- Settings with a replica set name, several hosts and no type of cluster. -/
def uncompleted : Settings :=
  {
    cluster :=
      {
        hosts := [⟨"a", 27017⟩, ⟨"b", 27018⟩],
        mode := .multiple,
        requiredReplicaSet := some "rs"
      }
  }

theorem build_by_faults_uncompleted
    : ∃ built,
        uncompleted.build = .ok built
        ∧ built.cluster.requiredType = .replicaSet
        ∧ built.build = .ok built
        ∧ (built == built) = true := by
  have hbuilt
      : uncompleted.build
        = .ok { uncompleted with cluster := uncompleted.cluster.promoted } :=
    rfl
  obtain ⟨hcompleted, hagain⟩ := (build_by_faults uncompleted).2.2 _ hbuilt
  refine ⟨_, hbuilt, ?_, hagain⟩
  rw [hcompleted]
  rfl

end Settings

end MongoConfig

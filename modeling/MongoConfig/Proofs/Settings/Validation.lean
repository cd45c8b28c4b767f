import MongoConfig.Settings.Validation
/-! What validation makes of settings.
It completes the required type of cluster and changes nothing else. Settings that passed it pass it
again as they are.
-/

namespace MongoConfig

namespace ClusterSettings

/-- Completing the type of cluster changes nothing else. -/
theorem promoted_eq (cluster : ClusterSettings)
    : cluster.promoted = { cluster with requiredType := cluster.promoted.requiredType } := by
  rw [promoted]
  split <;> rfl

/-- A completed type of cluster is one that goes with a replica set name. -/
theorem replicaSetFaults_promoted (cluster : ClusterSettings)
    : cluster.promoted.replicaSetFaults = cluster.replicaSetFaults := by
  rw [promoted]
  split
  · rename_i hunknown
    simp only [Bool.and_eq_true, beq_iff_eq] at hunknown
    simp [replicaSetFaults, hunknown]
  · rfl

theorem hostFaults_promoted (cluster : ClusterSettings)
    : cluster.promoted.hostFaults = cluster.hostFaults := by
  rw [promoted_eq]
  rfl

theorem promoted_promoted (cluster : ClusterSettings)
    : cluster.promoted.promoted = cluster.promoted := by
  by_cases hunknown : cluster.requiredReplicaSet.isSome && cluster.requiredType == .unknown
  · have hpromoted : cluster.promoted = { cluster with requiredType := .replicaSet } :=
      if_pos hunknown
    rw [hpromoted, promoted, if_neg (by simp)]
  · have hsame : cluster.promoted = cluster := if_neg hunknown
    rw [hsame, hsame]

end ClusterSettings

namespace Settings

theorem build_eq_ok_iff {settings built : Settings}
    : settings.build = .ok built
      ↔ settings.faults = []
        ∧ built = { settings with cluster := settings.cluster.promoted } := by
  rw [build]
  split
  · rename_i hfaults
    constructor
    · intro h
      exact ⟨hfaults, (Except.ok.inj h).symm⟩
    · rintro ⟨-, rfl⟩
      rfl
  · rename_i hfaults
    constructor
    · intro h
      cases h
    · rintro ⟨hnone, -⟩
      rw [hfaults] at hnone
      cases hnone

/-- Completing the type of cluster neither adds nor removes a fault. -/
theorem faults_promoted (settings : Settings)
    : faults { settings with cluster := settings.cluster.promoted } = settings.faults := by
  rw [faults, ClusterSettings.replicaSetFaults_promoted, ClusterSettings.hostFaults_promoted]
  rfl

/-- Settings that passed validation pass it again as they are. -/
theorem build_of_build {settings built : Settings} (h : settings.build = .ok built)
    : built.build = .ok built := by
  obtain ⟨hfaults, rfl⟩ := build_eq_ok_iff.1 h
  refine build_eq_ok_iff.2 ⟨?_, ?_⟩
  · rw [faults_promoted, hfaults]
  · simp only [ClusterSettings.promoted_promoted]

end Settings

end MongoConfig

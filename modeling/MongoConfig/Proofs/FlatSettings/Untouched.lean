import MongoConfig.Proofs.FlatSettings.Factory
import MongoConfig.Proofs.Settings.Field
import MongoConfig.Proofs.Settings.Validation
/-! What flat settings without any value make of their defaults.
The defaults come back only as far as flat settings can hold them: a length of time in whole
milliseconds, a context of transport security by the name of its provider, and the name of the
application and the encryption settings not at all.
-/

namespace MongoConfig

namespace Duration

/-- Cutting off parts of a millisecond changes all durations but those that have none. -/
theorem truncated_eq_self_iff {duration : Duration}
    : duration.truncated = duration ↔ ∃ milliseconds, duration = .ofMillis milliseconds := by
  constructor
  · intro h
    exact ⟨duration.toMillis, h.symm⟩
  · rintro ⟨milliseconds, rfl⟩
    rw [truncated, toMillis_ofMillis]

end Duration

namespace Settings

/-- All lengths of time in settings. -/
def durations (settings : Settings) : List Duration :=
  [
    settings.socket.connectTimeout,
    settings.socket.readTimeout,
    settings.server.heartbeatFrequency,
    settings.server.minHeartbeatFrequency,
    settings.cluster.localThreshold,
    settings.cluster.serverSelectionTimeout,
    settings.pool.maxWaitTime,
    settings.pool.maxConnectionLifetime,
    settings.pool.maxConnectionIdleTime,
    settings.pool.maintenanceInitialDelay,
    settings.pool.maintenanceFrequency
  ]

/-- Transport security that is off, or that uses the context of the provider that it names. -/
def TlsRestorable (tls : TlsSettings) : Prop :=
  tls.enabled = true
  → ∃ context, tls.context = some context
    ∧ SecurityContext.ofProvider context.provider = .ok context

/-- Settings that flat settings can hold. -/
structure Flattenable (settings : Settings) : Prop where
  applicationName : settings.applicationName = none
  autoEncryption : settings.autoEncryption = none
  wholeMillis : ∀ duration ∈ settings.durations, ∃ milliseconds, duration = .ofMillis milliseconds
  tls : TlsRestorable settings.tls

end Settings

namespace FlatSettings

/-- The flat settings in which nothing is configured. -/
def untouched : FlatSettings :=
  {}

theorem assemble_of_unsupported {flat : FlatSettings} {default : Settings}
    {cause : UnsupportedProvider} (h : flat.tls default.tls = .error cause)
    : flat.assemble default = .error (.securityContext cause) := by
  rw [assemble_eq, h]
  rfl

theorem assemble_of_tls {flat : FlatSettings} {default : Settings} {tls : TlsSettings}
    (h : flat.tls default.tls = .ok tls)
    : flat.assemble default = (flat.draft default tls).build.mapError .settings := by
  rw [assemble_eq, h]
  rfl

/-- Settings are assembled if there is transport security and the rest passes validation. -/
theorem assemble_eq_ok_iff {flat : FlatSettings} {default made : Settings}
    : flat.assemble default = .ok made
      ↔ ∃ tls, flat.tls default.tls = .ok tls ∧ (flat.draft default tls).build = .ok made := by
  constructor
  · intro h
    cases htls : flat.tls default.tls with
    | error cause =>
        rw [assemble_of_unsupported htls] at h
        cases h
    | ok tls =>
        rw [assemble_of_tls htls] at h
        refine ⟨tls, rfl, ?_⟩
        cases hbuild : (flat.draft default tls).build with
        | error fault =>
            rw [hbuild] at h
            cases h
        | ok built =>
            rw [hbuild] at h
            rw [Except.ok.inj h]
  · rintro ⟨tls, htls, hbuild⟩
    rw [assemble_of_tls htls, hbuild]
    rfl

-----------------------------------------------------------------------------------------
-- What is lost
-----------------------------------------------------------------------------------------

/-- Every duration of the defaults is cut to whole milliseconds. -/
theorem durations_draft (default : Settings) (tls : TlsSettings)
    : (untouched.draft default tls).durations = default.durations.map Duration.truncated :=
  rfl

theorem durations_of_build {settings built : Settings} (h : settings.build = .ok built)
    : built.durations = settings.durations := by
  obtain ⟨-, rfl⟩ := Settings.build_eq_ok_iff.1 h
  rw [Settings.durations, ClusterSettings.promoted_eq]
  rfl

/-- Transport security comes back if its context is found again under the name of the provider. -/
theorem tls_untouched_eq_ok_self_iff {default : TlsSettings}
    : untouched.tls default = .ok default ↔ Settings.TlsRestorable default := by
  obtain ⟨enabled, invalidHostnameAllowed, context⟩ := default
  cases enabled with
  | false =>
      constructor
      · intro _ henabled
        cases henabled
      · intro _
        rfl
  | true =>
      cases context with
      | none =>
          constructor
          · intro h
            cases h
          · intro h
            obtain ⟨context, hcontext, -⟩ := h rfl
            cases hcontext
      | some context =>
          have htls
              : untouched.tls ⟨true, invalidHostnameAllowed, some context⟩
                = (SecurityContext.ofProvider context.provider).map fun found =>
                    ⟨true, invalidHostnameAllowed, some found⟩ :=
            rfl
          rw [htls]
          constructor
          · intro h _
            cases hfound : SecurityContext.ofProvider context.provider with
            | error cause =>
                rw [hfound] at h
                cases h
            | ok found =>
                rw [hfound] at h
                cases h
                exact ⟨context, rfl, hfound⟩
          · intro h
            obtain ⟨found, hsome, hfound⟩ := h rfl
            cases hsome
            rw [hfound]
            rfl

/-- What is assembled from defaults alone, as far as it may differ from them. -/
theorem of_assemble_untouched {default made : Settings}
    (h : untouched.assemble default = .ok made)
    : made.applicationName = none
      ∧ made.autoEncryption = none
      ∧ made.durations = default.durations.map Duration.truncated
      ∧ untouched.tls default.tls = .ok made.tls := by
  obtain ⟨tls, htls, hbuild⟩ := assemble_eq_ok_iff.1 h
  have hdurations := (durations_of_build hbuild).trans (durations_draft default tls)
  obtain ⟨-, rfl⟩ := Settings.build_eq_ok_iff.1 hbuild
  exact ⟨rfl, rfl, hdurations, htls⟩

/-- Defaults that agree with what is assembled from them can be held by flat settings. -/
theorem flattenable_of_assemble {default made : Settings}
    (h : untouched.assemble default = .ok made)
    (happlication : made.applicationName = default.applicationName)
    (hencryption : made.autoEncryption.isSome = default.autoEncryption.isSome)
    (hdurations : made.durations = default.durations) (htls : made.tls = default.tls)
    : default.Flattenable := by
  obtain ⟨hnoName, hnoEncryption, htruncated, hfound⟩ := of_assemble_untouched h
  constructor
  · rw [← happlication, hnoName]
  · rw [hnoEncryption] at hencryption
    exact Option.isSome_eq_false_iff.1 hencryption.symm |> Option.isNone_iff_eq_none.1
  · intro duration hmem
    have hsame : default.durations.map Duration.truncated = default.durations.map id := by
      rw [List.map_id, ← htruncated, hdurations]
    exact Duration.truncated_eq_self_iff.1 (List.map_inj_left.1 hsame duration hmem)
  · rw [htls] at hfound
    exact tls_untouched_eq_ok_self_iff.1 hfound

-----------------------------------------------------------------------------------------
-- What comes back
-----------------------------------------------------------------------------------------

/-- Defaults that flat settings can hold are drafted again as they are. -/
theorem draft_of_flattenable {default : Settings} (h : default.Flattenable)
    : untouched.draft default default.tls = default := by
  have hmillis {duration : Duration} (hmem : duration ∈ default.durations)
      : duration.truncated = duration :=
    Duration.truncated_eq_self_iff.2 (h.wholeMillis duration hmem)
  have hcluster : untouched.cluster default.cluster = default.cluster :=
    ClusterSettings.ext rfl rfl rfl rfl rfl (hmillis (by simp [Settings.durations]))
      (hmillis (by simp [Settings.durations])) rfl
  have hpool : untouched.pool default.pool = default.pool :=
    PoolSettings.ext rfl rfl rfl (hmillis (by simp [Settings.durations]))
      (hmillis (by simp [Settings.durations])) (hmillis (by simp [Settings.durations]))
      (hmillis (by simp [Settings.durations])) (hmillis (by simp [Settings.durations]))
  have hserver : untouched.server default.server = default.server :=
    ServerSettings.ext (hmillis (by simp [Settings.durations]))
      (hmillis (by simp [Settings.durations]))
  have hsocket : untouched.socket default.socket = default.socket :=
    SocketSettings.ext (hmillis (by simp [Settings.durations]))
      (hmillis (by simp [Settings.durations])) rfl rfl
  exact
    Settings.ext h.applicationName.symm h.autoEncryption.symm rfl rfl rfl rfl rfl rfl rfl rfl
      hcluster hpool hserver hsocket rfl

theorem assemble_of_flattenable {default : Settings} (hbuilt : default.build = .ok default)
    (h : default.Flattenable)
    : untouched.assemble default = .ok default := by
  refine assemble_eq_ok_iff.2 ⟨default.tls, tls_untouched_eq_ok_self_iff.2 h.tls, ?_⟩
  rw [draft_of_flattenable h, hbuilt]

theorem beq_self_of_flattenable {default : Settings} (h : default.Flattenable)
    : (default == default) = true := by
  refine Settings.beq_iff.2 ⟨rfl, ?_, ?_, rfl, rfl, rfl, rfl, rfl, rfl, rfl, rfl, rfl, rfl, rfl,
    rfl⟩
  · rw [h.autoEncryption]
    rfl
  · exact beq_self_eq_true default.codecRegistry.names

theorem isSome_eq_of_beq {α : Type} [BEq α] {a b : Option α} (h : (a == b) = true)
    : a.isSome = b.isSome := by
  cases a <;> cases b
  · rfl
  · cases h
  · cases h
  · rfl

/-- Validated defaults come back, as they are or as comparison tells, exactly if flat settings can
hold them. -/
theorem assemble_untouched_iff {draft default : Settings} (h : draft.build = .ok default)
    : (untouched.assemble default = .ok default ↔ default.Flattenable)
      ∧ ((∃ made, untouched.assemble default = .ok made ∧ (made == default) = true)
        ↔ default.Flattenable) := by
  have hbuilt := Settings.build_of_build h
  refine ⟨⟨?_, ?_⟩, ⟨?_, ?_⟩⟩
  · intro hsame
    exact flattenable_of_assemble hsame rfl rfl rfl rfl
  · exact assemble_of_flattenable hbuilt
  · rintro ⟨made, hmade, hequal⟩
    obtain ⟨happlication, hencryption, -, -, -, -, -, -, -, -, hcluster, hpool, hserver, hsocket,
      htls⟩ := Settings.beq_iff.1 hequal
    have hdurations : made.durations = default.durations := by
      rw [Settings.durations, hcluster, hpool, hserver, hsocket]
      rfl
    exact
      flattenable_of_assemble hmade happlication (isSome_eq_of_beq hencryption) hdurations htls
  · intro hflattenable
    exact ⟨default, assemble_of_flattenable hbuilt hflattenable,
      beq_self_of_flattenable hflattenable⟩

/-- Defaults with a replica set, a shorter time limit and transport security by a known provider. -/
def heldDefaults : Settings :=
  {
    retryWrites := false,
    cluster := { requiredReplicaSet := some "rs", requiredType := .replicaSet },
    socket := { connectTimeout := .ofMillis 250 },
    tls := { enabled := true, context := some { provider := " TLSv1.3", versions := [.tls13] } }
  }

theorem assemble_untouched_iff_heldDefaults
    : heldDefaults.build = .ok heldDefaults
      ∧ untouched.assemble heldDefaults = .ok heldDefaults := by
  have hbuilt : heldDefaults.build = .ok heldDefaults := by rfl
  refine ⟨hbuilt, (assemble_untouched_iff hbuilt).1.2 ?_⟩
  constructor
  · rfl
  · rfl
  · intro duration hmem
    refine Duration.truncated_eq_self_iff.1 ?_
    revert duration
    decide
  · intro _
    exact ⟨{ provider := " TLSv1.3", versions := [.tls13] }, rfl, rfl⟩

/-- Defaults with nothing but the name of an application. -/
def namedDefaults : Settings :=
  { applicationName := some "inventory" }

/-- The name is lost, although nothing else was configured. -/
theorem assemble_untouched_namedDefaults
    : namedDefaults.build = .ok namedDefaults
      ∧ untouched.assemble namedDefaults = .ok .defaults
      ∧ (Settings.defaults == namedDefaults) = false := by
  refine ⟨?_, ?_, ?_⟩ <;> rfl

end FlatSettings

end MongoConfig

import MongoConfig.ClientSpec
import MongoConfig.Proofs.Settings.Field
/-! Which layer of a client specification decides a value.
The layers are written one over the other, each in its own way; here every field is given the
layers that can decide it, in their order, and the settings are shown to follow that order.
-/

namespace MongoConfig.ClientSpec

/-- A connection string is specified next to a host or a port. -/
def IsConflicting (spec : ClientSpec) : Prop :=
  spec.connection.isSome ∧ (spec.host.isSome ∨ spec.port.isSome)

/-- The address of a specification without a connection string, read as one. -/
def hostAndPort (spec : ClientSpec) : Except TextError ConnectionString :=
  ConnectionString.ofHostAndPort (spec.host.getD "127.0.0.1") (spec.port.getD 27017)

/-- The connection string that a specification without conflict points to. -/
def PointsTo (spec : ClientSpec) (base : ConnectionString) : Prop :=
  spec.connection = some base ∧ spec.host = none ∧ spec.port = none
  ∨ spec.connection = none ∧ spec.hostAndPort = .ok base

/-- The value that the settings of a specification have for a field, if it is not the default. -/
def changed? (spec : ClientSpec) (field : Settings.Field) : Option field.Value :=
  (spec.settings.map field.get).filter (· != field.get .defaults)

/-- The value of a field by the order of the layers. -/
def chosen (spec : ClientSpec) (base : ConnectionString) : (field : Settings.Field) → field.Value
  | .credential =>
      (spec.credentials.head?.or (spec.settings.bind (·.credential))).or base.credential
  | .requiredReplicaSet =>
      ((spec.replicaSet.filter (!Text.isAllBlank ·)).or
        (spec.settings.bind (·.cluster.requiredReplicaSet))).or base.options.replicaSet
  | field => ((spec.changed? field).or (field.given? base)).getD (field.get .defaults)

-----------------------------------------------------------------------------------------
-- The layers
-----------------------------------------------------------------------------------------

/-- Settings that are changed come before what the connection string gives. -/
theorem get_overlaid (spec : ClientSpec) (base : ConnectionString) (field : Settings.Field)
    : field.get (spec.overlaid base)
      = ((spec.changed? field).or (field.given? base)).getD (field.get .defaults) := by
  have hconnected := Settings.get_withConnection field .defaults base
  rw [overlaid, changed?]
  cases spec.settings with
  | none => exact hconnected
  | some upper =>
      rw [Settings.get_overlay, hconnected, changedOr, Option.map_some, Option.filter_some]
      split <;> rfl

/-- A value that is left out by default is changed if it is there. -/
theorem getD_changed_or_given {α β : Type} [BEq β] (settings : Option α) (read : α → Option β)
    (given : Option β)
    : (((settings.map read).filter (· != none)).or (given.map some)).getD none
      = (settings.bind read).or given := by
  cases settings with
  | none => exact Settings.getD_map_some given none |>.trans Option.or_none
  | some upper =>
      rw [Option.map_some, Option.bind_some]
      cases hread : read upper with
      | none => exact Settings.getD_map_some given none |>.trans Option.or_none
      | some value => rfl

theorem credential_overlaid (spec : ClientSpec) (base : ConnectionString)
    : (spec.overlaid base).credential
      = (spec.settings.bind (·.credential)).or base.credential := by
  have hget := spec.get_overlaid base .credential
  exact hget.trans (getD_changed_or_given spec.settings (·.credential) base.credential)

theorem requiredReplicaSet_overlaid (spec : ClientSpec) (base : ConnectionString)
    : (spec.overlaid base).cluster.requiredReplicaSet
      = (spec.settings.bind (·.cluster.requiredReplicaSet)).or base.options.replicaSet := by
  have hget := spec.get_overlaid base .requiredReplicaSet
  exact
    hget.trans
      (getD_changed_or_given spec.settings (·.cluster.requiredReplicaSet)
        base.options.replicaSet)

/-- Every field of the settings has the value that the order of the layers gives it. -/
theorem get_layered (spec : ClientSpec) (base : ConnectionString) (field : Settings.Field)
    : field.get (spec.layered base) = spec.chosen base field := by
  have hoverlaid := spec.get_overlaid base field
  cases field with
  | credential =>
      have hfirst
          : (spec.layered base).credential
            = spec.credentials.head?.or (spec.overlaid base).credential :=
        rfl
      rw [credential_overlaid, ← Option.or_assoc] at hfirst
      exact hfirst
  | requiredReplicaSet =>
      have hfirst
          : (spec.layered base).cluster.requiredReplicaSet
            = (spec.replicaSet.filter (!Text.isAllBlank ·)).or
                (spec.overlaid base).cluster.requiredReplicaSet :=
        rfl
      rw [requiredReplicaSet_overlaid, ← Option.or_assoc] at hfirst
      exact hfirst
  | _ => exact hoverlaid

-----------------------------------------------------------------------------------------
-- The outcome
-----------------------------------------------------------------------------------------

theorem not_isConflicting_of_pointsTo {spec : ClientSpec} {base : ConnectionString}
    (h : spec.PointsTo base)
    : ¬spec.IsConflicting := by
  rintro ⟨hconnection, hother⟩
  rcases h with ⟨-, hhost, hport⟩ | ⟨hnone, -⟩
  · rw [hhost, hport] at hother
    simp at hother
  · rw [hnone] at hconnection
    cases hconnection

/-- A specification is in conflict, or its address is invalid, or it points to a deployment. -/
theorem baseConnection_cases (spec : ClientSpec)
    : (spec.IsConflicting ∧ spec.baseConnection = .error .conflictingDeployments)
      ∨ (∃ cause,
          spec.connection = none
          ∧ spec.hostAndPort = .error cause
          ∧ spec.baseConnection = .error (.invalidAddress cause))
      ∨ (∃ base, spec.PointsTo base ∧ spec.baseConnection = .ok base) := by
  cases hconnection : spec.connection with
  | some connection =>
      by_cases hother : spec.host.isSome ∨ spec.port.isSome
      · refine Or.inl ⟨⟨by rw [hconnection]; rfl, hother⟩, ?_⟩
        simp [baseConnection, hconnection, hother]
      · have hnone : spec.host = none ∧ spec.port = none := by simpa using hother
        refine Or.inr (Or.inr ⟨connection, Or.inl ⟨hconnection, hnone⟩, ?_⟩)
        simp [baseConnection, hconnection, hnone]
  | none =>
      have hbase : spec.baseConnection = spec.hostAndPort.mapError .invalidAddress := by
        simp only [baseConnection, hconnection]
        rfl
      cases hread : spec.hostAndPort with
      | error cause =>
          exact Or.inr (Or.inl ⟨cause, rfl, rfl, by rw [hbase, hread]; rfl⟩)
      | ok base =>
          exact Or.inr (Or.inr ⟨base, Or.inr ⟨hconnection, hread⟩, by rw [hbase, hread]; rfl⟩)

theorem resolve_of_error {spec : ClientSpec} {error : ClientError}
    (h : spec.baseConnection = .error error)
    : spec.resolve = .error error := by
  rw [resolve, h]
  rfl

theorem resolve_of_ok {spec : ClientSpec} {base : ConnectionString}
    (h : spec.baseConnection = .ok base)
    : spec.resolve = (spec.layered base).build.mapError .settings := by
  rw [resolve, h]
  rfl

/-- Validation finds faults in the settings only. -/
theorem eq_settings_of_mapError {result : Except SettingsFault Settings} {error : ClientError}
    (h : result.mapError ClientError.settings = .error error)
    : ∃ fault, error = .settings fault := by
  cases result with
  | ok settings => cases h
  | error fault => exact ⟨fault, (Except.error.inj h).symm⟩

theorem resolve_eq_conflictingDeployments_iff (spec : ClientSpec)
    : spec.resolve = .error .conflictingDeployments ↔ spec.IsConflicting := by
  constructor
  · intro h
    rcases spec.baseConnection_cases with ⟨hconflict, -⟩ | ⟨cause, -, -, hbase⟩
      | ⟨base, -, hbase⟩
    · exact hconflict
    · rw [resolve_of_error hbase] at h
      cases h
    · rw [resolve_of_ok hbase] at h
      obtain ⟨fault, hfault⟩ := eq_settings_of_mapError h
      cases hfault
  · intro hconflict
    rcases spec.baseConnection_cases with ⟨-, hbase⟩ | ⟨cause, hnone, -, -⟩ | ⟨base, hbase, -⟩
    · exact resolve_of_error hbase
    · rw [IsConflicting, hnone] at hconflict
      cases hconflict.1
    · exact absurd hconflict (not_isConflicting_of_pointsTo hbase)

theorem resolve_eq_invalidAddress_iff (spec : ClientSpec) (cause : TextError)
    : spec.resolve = .error (.invalidAddress cause)
      ↔ spec.connection = none ∧ spec.hostAndPort = .error cause := by
  constructor
  · intro h
    rcases spec.baseConnection_cases with ⟨-, hbase⟩ | ⟨other, hnone, hread, hbase⟩
      | ⟨base, -, hbase⟩
    · rw [resolve_of_error hbase] at h
      cases h
    · rw [resolve_of_error hbase] at h
      cases h
      exact ⟨hnone, hread⟩
    · rw [resolve_of_ok hbase] at h
      obtain ⟨fault, hfault⟩ := eq_settings_of_mapError h
      cases hfault
  · rintro ⟨hnone, hread⟩
    rcases spec.baseConnection_cases with ⟨hconflict, -⟩ | ⟨other, -, hother, hbase⟩
      | ⟨base, hbase, -⟩
    · rw [IsConflicting, hnone] at hconflict
      cases hconflict.1
    · rw [hread] at hother
      rw [resolve_of_error hbase, Except.error.inj hother]
    · rcases hbase with ⟨hsome, -⟩ | ⟨-, hok⟩
      · rw [hnone] at hsome
        cases hsome
      · rw [hread] at hok
        cases hok

/-- The outcome of a specification: a conflict, an invalid address, or else what validation makes
of the settings whose fields are chosen by the order of the layers. -/
theorem resolve_by_layers (spec : ClientSpec)
    : (spec.resolve = .error .conflictingDeployments ↔ spec.IsConflicting)
      ∧ (∀ cause,
          spec.resolve = .error (.invalidAddress cause)
          ↔ spec.connection = none ∧ spec.hostAndPort = .error cause)
      ∧ (¬spec.IsConflicting
          → (∀ cause, spec.resolve ≠ .error (.invalidAddress cause))
          → ∃ base merged,
              spec.PointsTo base
              ∧ (∀ field : Settings.Field, field.get merged = spec.chosen base field)
              ∧ spec.resolve = merged.build.mapError .settings) := by
  refine ⟨spec.resolve_eq_conflictingDeployments_iff, spec.resolve_eq_invalidAddress_iff, ?_⟩
  intro hconflict hvalid
  rcases spec.baseConnection_cases with ⟨hconflicting, -⟩ | ⟨cause, -, -, hbase⟩
    | ⟨base, hpoints, hbase⟩
  · exact absurd hconflicting hconflict
  · exact absurd (resolve_of_error hbase) (hvalid cause)
  · exact ⟨base, spec.layered base, hpoints, spec.get_layered base, resolve_of_ok hbase⟩

/-- A specification with something in every layer. Its blank replica set name does not count. -/
def everyLayer : ClientSpec :=
  {
    connection :=
      some
        {
          raw := "mongodb://a,b/?replicaSet=rs&retryWrites=false",
          srv := false,
          hosts := [⟨"a", 27017⟩, ⟨"b", 27017⟩],
          database := none,
          credential := none,
          options := { replicaSet := some "rs", retryWrites := some false }
        },
    credentials := [.gssapi "user"],
    replicaSet := some " ",
    settings := some { retryReads := false, cluster := { requiredReplicaSet := some "other" } }
  }

theorem resolve_by_layers_everyLayer
    : ∃ base merged,
        everyLayer.PointsTo base
        ∧ (∀ field : Settings.Field, field.get merged = everyLayer.chosen base field)
        ∧ everyLayer.resolve = merged.build.mapError .settings := by
  refine (resolve_by_layers everyLayer).2.2 ?_ ?_
  · rintro ⟨-, hhost | hport⟩
    · cases hhost
    · cases hport
  · intro cause h
    have hnone := (resolve_eq_invalidAddress_iff everyLayer cause).1 h
    cases hnone.1

end MongoConfig.ClientSpec

import MongoConfig.Proofs.ClientSpec.Precedence
import MongoConfig.Proofs.Outcome
import MongoConfig.Proofs.Settings.Validation
/-! The codec registry that the settings of a specification have.
Only the settings that are laid over the others bring a registry, and it counts if it differs from
the default one. Registries are compared by the names of their providers, and types are looked up by
what these handle. So a registry with the names of the default one gives way to it, whatever types
its providers handle.
-/

namespace MongoConfig

/-- Both registries find a provider for the same types, and one of the same name. -/
def CodecRegistry.FindsLike (registry other : CodecRegistry) : Prop :=
  ∀ type, (registry.providerFor? type).map (·.name) = (other.providerFor? type).map (·.name)

theorem CodecRegistry.beq_iff_names_eq {registry other : CodecRegistry}
    : (registry == other) = true ↔ registry.names = other.names :=
  beq_iff_eq (α := List String)

/-- Laid over the default a registry counts, unless it has the names of that. -/
theorem CodecRegistry.changedOr_eq (upper default : CodecRegistry)
    : changedOr upper default default
      = if upper.names = default.names then default else upper := by
  by_cases hnames : upper.names = default.names
  · rw [if_pos hnames, changedOr, bne, beq_iff_names_eq.2 hnames]
    rfl
  · rw [if_neg hnames, changedOr, bne, Bool.eq_false_iff.2 (mt beq_iff_names_eq.1 hnames)]
    rfl

namespace ClientSpec

variable {spec : ClientSpec} {settings made : Settings}

/-- Neither a connection string nor validation has a say in the codec registry. -/
theorem codecRegistry_of_resolve (hsettings : spec.settings = some settings)
    (hresolve : spec.resolve = .ok made)
    : made.codecRegistry
      = if settings.codecRegistry.names = CodecRegistry.standard.names then .standard
        else settings.codecRegistry := by
  obtain ⟨base, -, hbuild⟩ := bind_eq_ok_iff.1 hresolve
  obtain ⟨-, rfl⟩ := Settings.build_eq_ok_iff.1 (mapError_eq_ok_iff.1 hbuild)
  have hoverlaid : (spec.layered base).codecRegistry = (spec.overlaid base).codecRegistry := rfl
  have hconnected : (Settings.defaults.withConnection base).codecRegistry = .standard := rfl
  rw [hoverlaid, overlaid, hsettings, ← CodecRegistry.changedOr_eq]
  rfl

/-- The settings have a codec registry with the names of the one that is specified. It finds the
same, unless these are the names of the default registry and that one finds something else; for then
it takes the place of the registry that is specified. -/
theorem findsLike_of_resolve (hsettings : spec.settings = some settings)
    (hresolve : spec.resolve = .ok made)
    : made.codecRegistry.names = settings.codecRegistry.names
      ∧ (made.codecRegistry.FindsLike settings.codecRegistry
        ↔ settings.codecRegistry.names ≠ CodecRegistry.standard.names
          ∨ CodecRegistry.standard.FindsLike settings.codecRegistry)
      ∧ (settings.codecRegistry.names = CodecRegistry.standard.names
        → ∀ type,
            made.codecRegistry.providerFor? type = CodecRegistry.standard.providerFor? type) := by
  have hregistry := codecRegistry_of_resolve hsettings hresolve
  by_cases hnames : settings.codecRegistry.names = CodecRegistry.standard.names
  · rw [if_pos hnames] at hregistry
    rw [hregistry]
    refine ⟨hnames.symm, ?_, fun _ _ => rfl⟩
    exact ⟨.inr, fun h => h.resolve_left fun hne => hne hnames⟩
  · rw [if_neg hnames] at hregistry
    rw [hregistry]
    refine ⟨rfl, ?_, fun hsame => absurd hsame hnames⟩
    exact iff_of_true (fun _ => rfl) (.inl hnames)

/-- A specification with a registry that asks another provider first, next to a connection string.
-/
def withMoney : ClientSpec :=
  {
    connection :=
      some
        {
          raw := "mongodb://a,b/?replicaSet=rs",
          srv := false,
          hosts := [⟨"a", 27017⟩, ⟨"b", 27017⟩],
          database := none,
          credential := none,
          options := { replicaSet := some "rs" }
        },
    settings :=
      some
        { codecRegistry := CodecRegistry.standard.withProvider (.ofTypes "money" ["Decimal128"]) }
  }

theorem findsLike_of_resolve_withMoney
    : ∃ settings made,
        withMoney.settings = some settings
        ∧ withMoney.resolve = .ok made
        ∧ made.codecRegistry.FindsLike settings.codecRegistry
        ∧ (settings.codecRegistry.providerFor? "Decimal128").map (·.name) = some "money" := by
  obtain ⟨made, hmade⟩ : ∃ made, withMoney.resolve = .ok made := ⟨_, rfl⟩
  refine ⟨_, made, rfl, hmade, ?_, by decide⟩
  exact (findsLike_of_resolve rfl hmade).2.1.2 (.inl (by decide))

/-- Settings whose codec registry has the names of the default one, and a provider that handles
another type. -/
def moneyAsValue : Settings :=
  {
    codecRegistry :=
      {
        providers :=
          [.ofTypes "value" ["Money"], .ofTypes "document" [], .ofTypes "iterable" []]
      }
  }

/-- The provider for a type is lost with the registry that has it. -/
theorem not_findsLike_moneyAsValue
    : ∃ made,
        moneyAsValue.build = .ok moneyAsValue
        ∧ resolve { settings := some moneyAsValue } = .ok made
        ∧ (moneyAsValue.codecRegistry.providerFor? "Money").map (·.name) = some "value"
        ∧ made.codecRegistry.providerFor? "Money" = none := by
  exact ⟨_, rfl, rfl, by decide, by decide⟩

end ClientSpec

end MongoConfig

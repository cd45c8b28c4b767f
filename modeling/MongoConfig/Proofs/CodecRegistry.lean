import MongoConfig.CodecRegistry
/-! The provider that is found after others were added.
A provider that is added is asked before all that were there. So the added ones stand in front of
the base, the last of them first, and a provider of the base is found only for a type that none of
them handles.
-/

namespace MongoConfig.CodecRegistry

variable {providers added base : List CodecProvider} {provider : CodecProvider} {type : String}

/-- None of the providers handles the type. -/
def Lacks (providers : List CodecProvider) (type : String) : Prop :=
  ∀ provider ∈ providers, provider.handles type = false

/-- The provider handles the type, and none before it does. -/
def FirstFor (providers : List CodecProvider) (type : String) (provider : CodecProvider)
    : Prop :=
  ∃ before after,
    providers = before ++ provider :: after
    ∧ provider.handles type = true
    ∧ Lacks before type

/-- The provider handles the type, and none after it does. -/
def LastFor (providers : List CodecProvider) (type : String) (provider : CodecProvider) : Prop :=
  ∃ before after,
    providers = before ++ provider :: after
    ∧ provider.handles type = true
    ∧ Lacks after type

theorem lacks_reverse_iff : Lacks providers.reverse type ↔ Lacks providers type := by
  simp [Lacks]

/-- The first provider from the end is the last one. -/
theorem firstFor_reverse_iff
    : FirstFor providers.reverse type provider ↔ LastFor providers type provider := by
  constructor
  · rintro ⟨before, after, hsplit, hhandles, hbefore⟩
    refine ⟨after.reverse, before.reverse, ?_, hhandles, lacks_reverse_iff.2 hbefore⟩
    rw [← List.reverse_reverse providers, hsplit]
    simp
  · rintro ⟨before, after, rfl, hhandles, hafter⟩
    exact ⟨after.reverse, before.reverse, by simp, hhandles, lacks_reverse_iff.2 hafter⟩

-----------------------------------------------------------------------------------------
-- Looking up a type
-----------------------------------------------------------------------------------------

theorem providerFor?_eq_some_iff
    : providerFor? ⟨providers⟩ type = some provider ↔ FirstFor providers type provider := by
  rw [providerFor?, List.find?_eq_some_iff_append]
  constructor
  · rintro ⟨hhandles, before, after, hsplit, hbefore⟩
    exact ⟨before, after, hsplit, hhandles, fun other hother => by simpa using hbefore other hother⟩
  · rintro ⟨before, after, hsplit, hhandles, hbefore⟩
    exact ⟨hhandles, before, after, hsplit, fun other hother => by simp [hbefore other hother]⟩

theorem providerFor?_eq_none_iff : providerFor? ⟨providers⟩ type = none ↔ Lacks providers type := by
  simp [providerFor?, Lacks]

/-- Behind others a provider is found only if they lack the type. -/
theorem providerFor?_append (added base : List CodecProvider) (type : String)
    : providerFor? ⟨added ++ base⟩ type
      = (providerFor? ⟨added⟩ type).or (providerFor? ⟨base⟩ type) :=
  List.find?_append

-----------------------------------------------------------------------------------------
-- Adding providers
-----------------------------------------------------------------------------------------

/-- The registry after the providers were added, one after another. -/
def withProviders (registry : CodecRegistry) (added : List CodecProvider) : CodecRegistry :=
  added.foldl withProvider registry

/-- Each provider is put in front of those that were added before it, by induction on them. -/
theorem withProviders_eq (base added : List CodecProvider)
    : withProviders ⟨base⟩ added = ⟨added.reverse ++ base⟩ := by
  induction added generalizing base with
  | nil => rfl
  | cons provider rest ih =>
      have hrest := ih (provider :: base)
      rw [withProviders] at hrest
      rw [withProviders, List.foldl_cons, withProvider, hrest, List.reverse_cons,
        List.append_assoc, List.singleton_append]

/-- A type is looked up among the added providers, from the last one on, and if they lack it in the
base, from the first one on. The names stand in this order. -/
theorem withProviders_by_order (base added : List CodecProvider)
    : (∀ type provider,
        (withProviders ⟨base⟩ added).providerFor? type = some provider
        ↔ LastFor added type provider ∨ Lacks added type ∧ FirstFor base type provider)
      ∧ (∀ type,
          (withProviders ⟨base⟩ added).providerFor? type = none
          ↔ Lacks added type ∧ Lacks base type)
      ∧ (withProviders ⟨base⟩ added).names
        = (added.map (·.name)).reverse ++ base.map (·.name) := by
  rw [withProviders_eq]
  refine ⟨fun type provider => ?_, fun type => ?_, ?_⟩
  · rw [providerFor?_append, Option.or_eq_some_iff, providerFor?_eq_some_iff,
      providerFor?_eq_none_iff, providerFor?_eq_some_iff, firstFor_reverse_iff, lacks_reverse_iff]
  · rw [providerFor?_append, Option.or_eq_none_iff, providerFor?_eq_none_iff,
      providerFor?_eq_none_iff, lacks_reverse_iff]
  · rw [names, List.map_append, List.map_reverse]

/-- Of two providers that handle a type the one that was added last is found, also if they have one
name. -/
example
    : let registry :=
        withProviders .standard
          [.ofTypes "money" ["Decimal128", "Money"], .ofTypes "money" ["Money"]]
      registry.providerFor? "Money" = some (.ofTypes "money" ["Money"])
      ∧ registry.providerFor? "Decimal128" = some (.ofTypes "money" ["Decimal128", "Money"])
      ∧ registry.providerFor? "Array" = some (.ofTypes "iterable" ["Vec", "Array"])
      ∧ registry.providerFor? "HashSet" = none
      ∧ registry.names = ["money", "money", "value", "document", "iterable"] :=
  ⟨rfl, rfl, rfl, rfl, rfl⟩

end MongoConfig.CodecRegistry

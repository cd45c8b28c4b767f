import Mathlib.Data.List.Forall2
/-! Outcomes of readers that follow one another.
A run succeeds if each step does, and fails with the first error that there is.
-/

namespace MongoConfig

theorem bind_eq_ok_iff {ε α β : Type} {result : Except ε α} {next : α → Except ε β} {value : β}
    : (result >>= next) = .ok value ↔ ∃ first, result = .ok first ∧ next first = .ok value := by
  cases result <;> simp [bind, Except.bind]

theorem bind_eq_error_iff {ε α β : Type} {result : Except ε α} {next : α → Except ε β} {error : ε}
    : (result >>= next) = .error error
      ↔ result = .error error ∨ ∃ first, result = .ok first ∧ next first = .error error := by
  cases result <;> simp [bind, Except.bind]

theorem mapError_eq_ok_iff {ε δ α : Type} {result : Except ε α} {wrap : ε → δ} {value : α}
    : result.mapError wrap = .ok value ↔ result = .ok value := by
  cases result with
  | ok read =>
      constructor
      · intro h
        exact congrArg Except.ok (Except.ok.inj h)
      · intro h
        exact congrArg Except.ok (Except.ok.inj h)
  | error cause =>
      constructor
      · intro h
        cases h
      · intro h
        cases h

theorem mapError_eq_error_iff {ε δ α : Type} {result : Except ε α} {wrap : ε → δ} {error : δ}
    : result.mapError wrap = .error error
      ↔ ∃ cause, result = .error cause ∧ wrap cause = error := by
  cases result with
  | ok read =>
      constructor
      · intro h
        cases h
      · rintro ⟨cause, h, -⟩
        cases h
  | error cause =>
      constructor
      · intro h
        exact ⟨cause, rfl, Except.error.inj h⟩
      · rintro ⟨other, h, rfl⟩
        rw [Except.error.inj h]
        rfl

/-- A run over a list gives the result of each item in order, if all have one. -/
theorem mapM_eq_ok_iff {ε α β : Type} {read : α → Except ε β} {items : List α} {values : List β}
    : items.mapM read = .ok values
      ↔ List.Forall₂ (fun item value => read item = .ok value) items values := by
  induction items generalizing values with
  | nil => cases values <;> simp [pure, Except.pure]
  | cons item rest ih =>
      simp only [List.mapM_cons, bind_eq_ok_iff, List.forall₂_cons_left_iff]
      constructor
      · rintro ⟨value, hvalue, others, hothers, ⟨⟩⟩
        exact ⟨value, others, hvalue, ih.1 hothers, rfl⟩
      · rintro ⟨value, others, hvalue, hothers, rfl⟩
        exact ⟨value, hvalue, others, ih.2 hothers, rfl⟩

/-- Every result of a run over a list comes from an item. -/
theorem exists_of_mapM_eq_ok {ε α β : Type} {read : α → Except ε β} {items : List α}
    {values : List β} (h : items.mapM read = .ok values) {value : β} (hvalue : value ∈ values)
    : ∃ item ∈ items, read item = .ok value := by
  have hall := mapM_eq_ok_iff.1 h
  clear h
  induction hall with
  | nil => cases hvalue
  | @cons item _ rest _ hread _ ih =>
      rcases List.mem_cons.1 hvalue with rfl | hvalue
      · exact ⟨item, List.mem_cons_self, hread⟩
      · obtain ⟨found, hfound, hread⟩ := ih hvalue
        exact ⟨found, List.mem_cons_of_mem item hfound, hread⟩

end MongoConfig

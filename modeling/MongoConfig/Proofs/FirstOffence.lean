import Mathlib.Data.List.Induction
import MongoConfig.Proofs.Outcome
/-! Folds that stop at the first offence.
Whether an item of a list offends may depend on the items before it. A fold whose steps fail exactly
for items that offend fails exactly with the first offence, and otherwise reaches the end.
-/

namespace MongoConfig

variable {α ε σ : Type}

/-- No item offends; whether one does may depend on those before it. -/
def NoOffence (offends : List α → α → ε → Prop) (items : List α) : Prop :=
  ∀ before item after error, items = before ++ item :: after → ¬offends before item error

/-- The first item that offends does so with `error`. -/
def FirstOffence (offends : List α → α → ε → Prop) (items : List α) (error : ε) : Prop :=
  ∃ before item after,
    items = before ++ item :: after ∧ NoOffence offends before ∧ offends before item error

variable {offends : List α → α → ε → Prop}

theorem noOffence_nil : NoOffence offends [] := by
  intro before item after error h
  simp at h

/-- If what came before does not matter, each item is looked at by itself. -/
theorem noOffence_iff_forall_mem {offends : α → ε → Prop} {items : List α}
    : NoOffence (fun _ => offends) items ↔ ∀ item ∈ items, ∀ error, ¬offends item error := by
  constructor
  · intro h item hmem error
    obtain ⟨before, after, hsplit⟩ := List.append_of_mem hmem
    exact h before item after error hsplit
  · intro h before item after error hsplit
    exact h item (hsplit ▸ by simp) error

/-- A list with one more item splits at that item or at one of the others. -/
theorem append_singleton_eq_iff {items before after : List α} {last item : α}
    : items ++ [last] = before ++ item :: after
      ↔ (before = items ∧ item = last ∧ after = [])
        ∨ ∃ rest, after = rest ++ [last] ∧ items = before ++ item :: rest := by
  constructor
  · intro h
    induction after using List.reverseRecOn with
    | nil =>
        obtain ⟨hitems, hlast⟩ := List.append_inj' h rfl
        exact Or.inl ⟨hitems.symm, (List.singleton_inj.1 hlast).symm, rfl⟩
    | append_singleton rest other _ =>
        rw [← List.cons_append, ← List.append_assoc] at h
        obtain ⟨hitems, hlast⟩ := List.append_inj' h rfl
        exact Or.inr ⟨rest, by rw [List.singleton_inj.1 hlast], hitems⟩
  · rintro (⟨rfl, rfl, rfl⟩ | ⟨rest, rfl, rfl⟩)
    · rfl
    · simp

theorem noOffence_append_singleton {items : List α} {last : α}
    : NoOffence offends (items ++ [last])
      ↔ NoOffence offends items ∧ ∀ error, ¬offends items last error := by
  constructor
  · intro h
    refine ⟨fun before item after error hsplit => ?_, fun error => ?_⟩
    · exact h before item (after ++ [last]) error (by rw [hsplit]; simp)
    · exact h items last [] error rfl
  · rintro ⟨hitems, hlast⟩ before item after error hsplit
    rcases append_singleton_eq_iff.1 hsplit with ⟨rfl, rfl, -⟩ | ⟨rest, -, hrest⟩
    · exact hlast error
    · exact hitems before item rest error hrest

theorem firstOffence_append_singleton {items : List α} {last : α} {error : ε}
    : FirstOffence offends (items ++ [last]) error
      ↔ FirstOffence offends items error
        ∨ (NoOffence offends items ∧ offends items last error) := by
  constructor
  · rintro ⟨before, item, after, hsplit, hbefore, hoffends⟩
    rcases append_singleton_eq_iff.1 hsplit with ⟨rfl, rfl, -⟩ | ⟨rest, -, hrest⟩
    · exact Or.inr ⟨hbefore, hoffends⟩
    · exact Or.inl ⟨before, item, rest, hrest, hbefore, hoffends⟩
  · rintro (⟨before, item, after, hsplit, hbefore, hoffends⟩ | ⟨hitems, hoffends⟩)
    · exact ⟨before, item, after ++ [last], by rw [hsplit]; simp, hbefore, hoffends⟩
    · exact ⟨items, last, [], rfl, hitems, hoffends⟩

/-- A step that fails exactly if its item offends, and else keeps what holds of the items so far. -/
structure Checks (offends : List α → α → ε → Prop) (holds : List α → σ → Prop)
    (step : σ → α → Except ε σ)
    : Prop where
  error
    : ∀ {before state item error},
        holds before state → (step state item = .error error ↔ offends before item error)
  ok
    : ∀ {before state item next},
        holds before state → step state item = .ok next → holds (before ++ [item]) next

variable {holds : List α → σ → Prop} {step : σ → α → Except ε σ}

theorem NoOffence.not_firstOffence {items : List α} (h : NoOffence offends items) (error : ε)
    : ¬FirstOffence offends items error := by
  rintro ⟨before, item, after, hsplit, -, hoffends⟩
  exact h before item after error hsplit hoffends

/-- A fold of such steps fails exactly at the first offence, and else what holds in the end holds of
all items; by induction from the last item. -/
theorem Checks.foldlM (h : Checks offends holds step) {start : σ} (hstart : holds [] start)
    (items : List α)
    : (∀ error, items.foldlM step start = .error error ↔ FirstOffence offends items error)
      ∧ (∀ final,
          items.foldlM step start = .ok final → NoOffence offends items ∧ holds items final) := by
  induction items using List.reverseRecOn with
  | nil =>
      refine ⟨fun error => iff_of_false nofun (noOffence_nil.not_firstOffence error), ?_⟩
      intro final hfinal
      exact ⟨noOffence_nil, Except.ok.inj hfinal ▸ hstart⟩
  | append_singleton front last ih =>
      obtain ⟨herror, hok⟩ := ih
      simp only [List.foldlM_append, List.foldlM_cons, List.foldlM_nil, bind_pure,
        firstOffence_append_singleton, noOffence_append_singleton]
      cases hrun : front.foldlM step start with
      | error first =>
          have hfirst := (herror first).1 hrun
          have hoffence : ¬NoOffence offends front := fun h => h.not_firstOffence first hfirst
          refine ⟨fun error => ?_, nofun⟩
          rw [← herror error, hrun]
          exact ⟨Or.inl, fun h => h.resolve_right fun h => hoffence h.1⟩
      | ok state =>
          obtain ⟨hfront, hholds⟩ := hok state hrun
          refine ⟨fun error => ?_, fun final hfinal => ?_⟩
          · refine (h.error hholds).trans ⟨fun h => Or.inr ⟨hfront, h⟩, fun h => ?_⟩
            exact (h.resolve_left (hfront.not_firstOffence error)).2
          · refine ⟨⟨hfront, fun error hoffends => ?_⟩, h.ok hholds hfinal⟩
            have hfails := (h.error hholds).2 hoffends
            exact nomatch hfails.symm.trans hfinal

theorem Checks.exists_foldlM_eq_ok_iff (h : Checks offends holds step) {start : σ}
    (hstart : holds [] start) (items : List α)
    : (∃ final, items.foldlM step start = .ok final) ↔ NoOffence offends items := by
  obtain ⟨herror, hok⟩ := h.foldlM hstart items
  constructor
  · rintro ⟨final, hfinal⟩
    exact (hok final hfinal).1
  · intro hnone
    cases hrun : items.foldlM step start with
    | error error => exact absurd ((herror error).1 hrun) (hnone.not_firstOffence error)
    | ok final => exact ⟨final, rfl⟩

-----------------------------------------------------------------------------------------
-- Items on their own
-----------------------------------------------------------------------------------------

/-- If what came before does not matter, the first item is the first offence or is left out. -/
theorem firstOffence_cons_iff {offends : α → ε → Prop} {first : α} {rest : List α} {error : ε}
    : FirstOffence (fun _ => offends) (first :: rest) error
      ↔ offends first error
        ∨ ((∀ other, ¬offends first other) ∧ FirstOffence (fun _ => offends) rest error) := by
  constructor
  · rintro ⟨before, item, after, hsplit, hbefore, hoffends⟩
    cases before with
    | nil =>
        obtain ⟨rfl, -⟩ := List.cons.inj hsplit
        exact Or.inl hoffends
    | cons other before =>
        obtain ⟨rfl, hrest⟩ := List.cons.inj hsplit
        rw [noOffence_iff_forall_mem, List.forall_mem_cons] at hbefore
        have hbetween := noOffence_iff_forall_mem.2 hbefore.2
        exact Or.inr ⟨hbefore.1, before, item, after, hrest, hbetween, hoffends⟩
  · rintro (hoffends | ⟨hfirst, before, item, after, rfl, hbefore, hoffends⟩)
    · exact ⟨[], first, rest, rfl, noOffence_nil, hoffends⟩
    · rw [noOffence_iff_forall_mem] at hbefore
      have hfront := noOffence_iff_forall_mem.2 (List.forall_mem_cons.2 ⟨hfirst, hbefore⟩)
      exact ⟨first :: before, item, after, rfl, hfront, hoffends⟩

/-- A run over a list fails with the error of the first item that has one. -/
theorem mapM_eq_error_iff {β : Type} {read : α → Except ε β} {items : List α} {error : ε}
    : items.mapM read = .error error
      ↔ FirstOffence (fun _ item error => read item = .error error) items error := by
  induction items with
  | nil => exact iff_of_false nofun (noOffence_nil.not_firstOffence error)
  | cons item rest ih =>
      have hnone : (∃ value, read item = .ok value) ↔ ∀ other, read item ≠ .error other := by
        cases read item <;> simp
      rw [List.mapM_cons, bind_eq_error_iff, firstOffence_cons_iff, ← hnone, ← ih]
      simp [bind_eq_error_iff, pure, Except.pure]

end MongoConfig

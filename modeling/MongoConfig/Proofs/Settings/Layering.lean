import MongoConfig.Proofs.Settings.Overlay
/-! Settings in layers.
An overlay is known by its fields: the upper value where it was changed, and the lower one
elsewhere. Whatever comparison decides what was changed, two layers can be laid over each other
first and over the rest then, for a layer counts where it was changed and nowhere else.
-/

namespace MongoConfig

-----------------------------------------------------------------------------------------
-- One value
-----------------------------------------------------------------------------------------

/-- A value that was changed counts, whatever is below it; so the upper two of three layers can be
put together first. -/
theorem changedOr_changedOr {α : Type} [BEq α] (top middle default lower : α)
    : changedOr top default (changedOr middle default lower)
      = changedOr (changedOr top default middle) default lower := by
  by_cases htop : top != default
  · have hcounts (below : α) : changedOr top default below = top := if_pos htop
    rw [hcounts, hcounts, hcounts]
  · have hshows (below : α) : changedOr top default below = below := if_neg htop
    rw [hshows, hshows]

/-- The same layer once more changes nothing. -/
theorem changedOr_again {α : Type} [BEq α] (upper default lower : α)
    : changedOr upper default (changedOr upper default lower) = changedOr upper default lower := by
  rw [changedOr_changedOr, changedOr_same]

namespace Settings

-----------------------------------------------------------------------------------------
-- All values
-----------------------------------------------------------------------------------------

/-- Settings that are left at their defaults let all of the lower ones show. -/
theorem overlay_default (lower default : Settings) : lower.overlay default default = lower := by
  simp only [overlay, ClusterSettings.overlay, PoolSettings.overlay, ServerSettings.overlay,
    SocketSettings.overlay, TlsSettings.overlay, changedOr_default]

/-- The upper two of three layers can be put together first. -/
theorem overlay_overlay (lower middle top default : Settings)
    : (lower.overlay middle default).overlay top default
      = lower.overlay (middle.overlay top default) default := by
  apply eq_of_get_eq
  intro field
  simp only [get_overlay]
  exact changedOr_changedOr _ _ _ _

theorem overlay_again (lower upper default : Settings)
    : (lower.overlay upper default).overlay upper default = lower.overlay upper default := by
  apply eq_of_get_eq
  intro field
  simp only [get_overlay]
  exact changedOr_again _ _ _

/-- No field is forgotten and none is put in another's place. -/
theorem eq_overlay_iff {result lower upper default : Settings}
    : result = lower.overlay upper default
      ↔ ∀ field : Field,
          field.get result
          = if field.get upper != field.get default then field.get upper
            else field.get lower := by
  constructor
  · rintro rfl field
    exact get_overlay field lower upper default
  · intro hfields
    apply eq_of_get_eq
    intro field
    rw [hfields field, get_overlay]
    rfl

/-- Settings are laid over others field by field, each by itself. What is left at its default
changes nothing; over the defaults settings come out equal to themselves; the same layer counts
once; and it does not matter which two of three layers are put together first. -/
theorem overlay_by_fields (lower upper middle top default : Settings)
    : (∀ result : Settings,
        result = lower.overlay upper default
        ↔ ∀ field : Field,
            field.get result
            = if field.get upper != field.get default then field.get upper
              else field.get lower)
      ∧ lower.overlay default default = lower
      ∧ (default.overlay upper default == upper) = true
      ∧ (lower.overlay upper default).overlay upper default = lower.overlay upper default
      ∧ (lower.overlay middle default).overlay top default
        = lower.overlay (middle.overlay top default) default :=
  ⟨fun _ => eq_overlay_iff, overlay_default lower default, overlay_lower upper default,
    overlay_again lower upper default, overlay_overlay lower middle top default⟩

end Settings

end MongoConfig

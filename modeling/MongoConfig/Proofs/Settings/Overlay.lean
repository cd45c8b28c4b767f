import MongoConfig.Proofs.Settings.Comparison
/-! What comes of laying settings over the defaults that they were changed from.
A changed value is in the result because it counts, and an unchanged one because the default shows
through. The result compares equal to the settings; it is not always the same, for a codec registry
with the names of the default one gives way to it.
-/

namespace MongoConfig

/-- Over its own default a value comes out as it was, whether it was changed or not. -/
theorem changedOr_lower_beq {α : Type} [BEq α] [ReflBEq α]
    (hcomm : ∀ a b : α, (a == b) = (b == a)) (upper default : α)
    : (changedOr upper default default == upper) = true := by
  rw [changedOr]
  split
  · exact BEq.rfl
  · rename_i hsame
    rw [bne, Bool.not_eq_true', Bool.not_eq_false] at hsame
    rw [hcomm, hsame]

theorem changedOr_lower {α : Type} [BEq α] [LawfulBEq α] (upper default : α)
    : changedOr upper default default = upper :=
  eq_of_beq (changedOr_lower_beq (fun _ _ => Bool.beq_comm) upper default)

theorem option_beq_comm {α : Type} [BEq α] (h : ∀ a b : α, (a == b) = (b == a))
    (a b : Option α)
    : (a == b) = (b == a) := by
  cases a with
  | none => cases b <;> rfl
  | some a =>
      cases b with
      | none => rfl
      | some b => exact h a b

theorem ClusterSettings.overlay_lower (upper default : ClusterSettings)
    : default.overlay upper default = upper := by
  simp only [overlay, changedOr_lower]

theorem PoolSettings.overlay_lower (upper default : PoolSettings)
    : default.overlay upper default = upper := by
  simp only [overlay, changedOr_lower]

theorem ServerSettings.overlay_lower (upper default : ServerSettings)
    : default.overlay upper default = upper := by
  simp only [overlay, changedOr_lower]

theorem SocketSettings.overlay_lower (upper default : SocketSettings)
    : default.overlay upper default = upper := by
  simp only [overlay, changedOr_lower]

theorem TlsSettings.overlay_lower (upper default : TlsSettings)
    : default.overlay upper default = upper := by
  simp only [overlay, changedOr_lower]

/-- Settings that are laid over their defaults come out of it equal to what they were. -/
theorem Settings.overlay_lower (upper default : Settings)
    : (default.overlay upper default == upper) = true := by
  rw [beq_iff]
  simp only [overlay, changedOr_lower, ClusterSettings.overlay_lower, PoolSettings.overlay_lower,
    ServerSettings.overlay_lower, SocketSettings.overlay_lower, TlsSettings.overlay_lower]
  have hencryption :=
    changedOr_lower_beq (option_beq_comm AutoEncryption.beq_comm) upper.autoEncryption
      default.autoEncryption
  have hregistry :=
    changedOr_lower_beq CodecRegistry.beq_comm upper.codecRegistry default.codecRegistry
  simp only [hencryption, hregistry, and_self]

end MongoConfig

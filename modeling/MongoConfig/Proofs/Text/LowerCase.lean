import MongoConfig.Proofs.Text.Blank
import MongoConfig.Text.LowerCase
/-! What lower case makes of a text.
No lower case of a character has a lower case of its own, and none is a blank or a sign of ASCII
unless the character was that before. So what is in lower case stays as it is, and lower case
neither puts in blanks and separators nor takes them out.
-/

namespace MongoConfig.Text

-----------------------------------------------------------------------------------------
-- The table
-----------------------------------------------------------------------------------------

/-- The runs of which lower case changes the characters. The capital i with a dot above is not in
the table, for it becomes two characters. -/
def changedRuns : List CaseRun :=
  ⟨0x130, 0x130, 1, 0⟩ :: lowerRuns

/-- Blanks, and the graphic characters of ASCII that are no letters but come before or among the
capitals and the small letters. -/
def keptRuns : List CaseRun :=
  ⟨0x21, 0x40, 1, 0⟩ :: ⟨0x5B, 0x60, 1, 0⟩
    :: blankRuns.map fun run => ⟨run.1, run.2, 1, 0⟩

namespace CaseRun

theorem bounds_of_covers {run : CaseRun} {code : Nat} (h : run.covers code = true)
    : run.first ≤ code ∧ code ≤ run.last ∧ (code - run.first) % run.step = 0 := by
  simpa only [covers, Bool.and_eq_true, decide_eq_true_eq, beq_iff_eq, and_assoc] using h

/-- Where a run moves a code point. -/
def image (run : CaseRun) (code : Nat) : Nat :=
  (code + run.offset).toNat

/-- Whether a run moves its members to characters. -/
def isScalar (run : CaseRun) : Bool :=
  run.image run.first + (run.last - run.first) = run.image run.last
    && (run.image run.last < 0xD800
      || 0xDFFF < run.image run.first && run.image run.last < 0x110000)

/-- Whether a run moves none of its members to one of the other run: the two are apart, or the other
one has every second code point and those are of the other parity. -/
def keepsOff (run other : CaseRun) : Bool :=
  run.image run.last < other.first
    || other.last < run.image run.first
    || (other.step = 2 && (run.step = 2 || run.first = run.last)
        && (run.image run.first + other.first) % 2 = 1)

theorem image_of_covers {run : CaseRun} (h : run.isScalar = true) {code : Nat}
    (hcode : run.covers code = true)
    : run.image code = run.image run.first + (code - run.first)
      ∧ run.image code ≤ run.image run.last := by
  obtain ⟨hfirst, hlast, -⟩ := bounds_of_covers hcode
  simp only [isScalar, Bool.and_eq_true, decide_eq_true_eq] at h
  obtain ⟨himage, -⟩ := h
  simp only [image] at himage ⊢
  omega

theorem covers_image {run other : CaseRun} (hscalar : run.isScalar = true)
    (h : run.keepsOff other = true) {code : Nat} (hcode : run.covers code = true)
    : other.covers (run.image code) = false := by
  obtain ⟨hfirst, hlast, hstep⟩ := bounds_of_covers hcode
  obtain ⟨himage, himageLast⟩ := image_of_covers hscalar hcode
  rw [← Bool.not_eq_true]
  intro hother
  obtain ⟨hotherFirst, hotherLast, hotherStep⟩ := bounds_of_covers hother
  simp only [keepsOff, Bool.or_eq_true, decide_eq_true_eq, Bool.and_eq_true] at h
  rcases h with (hbelow | habove) | ⟨⟨htwo, hrun⟩, hparity⟩
  · omega
  · omega
  · rw [htwo] at hotherStep
    rcases hrun with hrun | hrun
    · rw [hrun] at hstep
      omega
    · omega

theorem toNat_ofNat_image {run : CaseRun} (h : run.isScalar = true) {code : Nat}
    (hcode : run.covers code = true)
    : (Char.ofNat (run.image code)).toNat = run.image code := by
  obtain ⟨himage, himageLast⟩ := image_of_covers h hcode
  simp only [isScalar, Bool.and_eq_true, Bool.or_eq_true, decide_eq_true_eq] at h
  have hvalid : (run.image code).isValidChar := by
    rw [Nat.isValidChar]
    omega
  rw [Char.ofNat, dif_pos hvalid]
  rfl

end CaseRun

theorem lowerRuns_keepOff
    : (lowerRuns.all fun run =>
        run.isScalar && (changedRuns ++ keptRuns).all run.keepsOff)
      = true := by
  decide +kernel

-----------------------------------------------------------------------------------------
-- One character
-----------------------------------------------------------------------------------------

/-- A character that lower case leaves as it is. -/
def IsLower (c : Char) : Prop :=
  ∀ run ∈ changedRuns, run.covers c.toNat = false

/-- A blank or a sign. -/
def IsKept (c : Char) : Prop :=
  ∃ run ∈ keptRuns, run.covers c.toNat = true

instance (c : Char) : Decidable (IsLower c) :=
  inferInstanceAs (Decidable (∀ run ∈ changedRuns, run.covers c.toNat = false))

instance (c : Char) : Decidable (IsKept c) :=
  inferInstanceAs (Decidable (∃ run ∈ keptRuns, run.covers c.toNat = true))

theorem isKept_of_isBlank {c : Char} (h : isBlank c = true) : IsKept c := by
  obtain ⟨run, hrun, hcode⟩ := List.any_eq_true.1 h
  refine ⟨⟨run.1, run.2, 1, 0⟩, ?_, ?_⟩
  · exact List.mem_cons_of_mem _ (List.mem_cons_of_mem _ (List.mem_map_of_mem hrun))
  · simpa [CaseRun.covers, Nat.mod_one] using hcode

theorem lowerChar_of_isLower {c : Char} (h : IsLower c) : lowerChar c = [c] := by
  have hdotted : c.toNat ≠ 0x130 := by
    intro hcode
    have hcovers := h _ List.mem_cons_self
    rw [hcode] at hcovers
    cases hcovers
  have hnone : (lowerRuns.find? fun run => run.covers c.toNat) = none := by
    rw [List.find?_eq_none]
    intro run hrun
    rw [h run (List.mem_cons_of_mem _ hrun)]
    decide
  rw [lowerChar, if_neg hdotted, lowerCode, hnone]
  exact congrArg (fun d => [d]) (Char.ofNat_toNat c)

/-- What a character becomes is itself, or something in lower case that is neither a blank nor a
sign. -/
theorem mem_lowerChar {c d : Char} (h : d ∈ lowerChar c)
    : d = c ∧ IsLower c ∨ IsLower d ∧ ¬IsKept d := by
  by_cases hdotted : c.toNat = 0x130
  · rw [lowerChar, if_pos hdotted] at h
    refine Or.inr ?_
    simp only [List.mem_cons, List.not_mem_nil, or_false] at h
    rcases h with rfl | rfl <;> decide +kernel
  · cases hfind : lowerRuns.find? fun run => run.covers c.toNat with
    | none =>
        -- no run of the table covers the character, so it is its own lower case
        have hlower : IsLower c := by
          intro run hrun
          rcases List.mem_cons.1 hrun with rfl | hrun
          · rw [← Bool.not_eq_true]
            intro hcovers
            have hbounds := CaseRun.bounds_of_covers hcovers
            exact hdotted (Nat.le_antisymm hbounds.2.1 hbounds.1)
          · simpa using List.find?_eq_none.1 hfind run hrun
        rw [lowerChar_of_isLower hlower, List.mem_singleton] at h
        exact Or.inl ⟨h, hlower⟩
    | some run =>
        -- the run moves it to a code point that no changed or kept run covers
        have hcovers : run.covers c.toNat = true := by simpa using List.find?_some hfind
        have hrun := List.all_eq_true.1 lowerRuns_keepOff run (List.mem_of_find?_eq_some hfind)
        rw [Bool.and_eq_true, List.all_eq_true] at hrun
        obtain ⟨hscalar, hkeeps⟩ := hrun
        have hd : d = Char.ofNat (run.image c.toNat) := by
          rw [lowerChar, if_neg hdotted, lowerCode, hfind] at h
          exact List.mem_singleton.1 h
        have hcode : d.toNat = run.image c.toNat := by
          rw [hd, CaseRun.toNat_ofNat_image hscalar hcovers]
        have hoff {other : CaseRun} (hother : other ∈ changedRuns ++ keptRuns)
            : other.covers d.toNat = false := by
          rw [hcode]
          exact CaseRun.covers_image hscalar (hkeeps other hother) hcovers
        refine Or.inr ⟨fun other hother => hoff (List.mem_append_left _ hother), ?_⟩
        rintro ⟨other, hother, hkept⟩
        rw [hoff (List.mem_append_right _ hother)] at hkept
        cases hkept

-----------------------------------------------------------------------------------------
-- Whole texts
-----------------------------------------------------------------------------------------

/-- What one character of a text becomes; the capital sigma goes by what is around it. -/
def lowered (inWord : Bool) (c : Char) (rest : List Char) : List Char :=
  if c.toNat = 0x3A3 then
    if inWord && !startsCased rest then ['\u03c2'] else ['\u03c3']
  else
    lowerChar c

theorem lowerFrom_cons (inWord : Bool) (c : Char) (rest : List Char)
    : lowerFrom inWord (c :: rest)
      = lowered inWord c rest
        ++ lowerFrom (if isCaseIgnorable c then inWord else isCased c) rest :=
  rfl

theorem mem_lowered {inWord : Bool} {c d : Char} {rest : List Char}
    (h : d ∈ lowered inWord c rest)
    : d = c ∧ IsLower c ∨ IsLower d ∧ ¬IsKept d := by
  rw [lowered] at h
  split at h
  · refine Or.inr ?_
    split at h
    · rw [List.mem_singleton.1 h]
      decide +kernel
    · rw [List.mem_singleton.1 h]
      decide +kernel
  · exact mem_lowerChar h

theorem lowered_ne_nil (inWord : Bool) (c : Char) (rest : List Char)
    : lowered inWord c rest ≠ [] := by
  rw [lowered, lowerChar]
  split
  · split <;> exact List.cons_ne_nil _ _
  · split <;> exact List.cons_ne_nil _ _

/-- A text in lower case holds what is in lower case, and only blanks and signs that were there. -/
theorem mem_lowerFrom {inWord : Bool} {text : List Char} {d : Char} (h : d ∈ lowerFrom inWord text)
    : IsLower d ∧ (IsKept d → d ∈ text) := by
  induction text generalizing inWord with
  | nil => cases h
  | cons c rest ih =>
      rw [lowerFrom_cons, List.mem_append] at h
      rcases h with h | h
      · rcases mem_lowered h with ⟨rfl, hlower⟩ | ⟨hlower, hnot⟩
        · exact ⟨hlower, fun _ => List.mem_cons_self⟩
        · exact ⟨hlower, fun hkept => absurd hkept hnot⟩
      · obtain ⟨hlower, hmem⟩ := ih h
        exact ⟨hlower, fun hkept => List.mem_cons_of_mem c (hmem hkept)⟩

theorem mem_of_mem_lower {text : List Char} {c : Char} (h : c ∈ lower text) (hkept : IsKept c)
    : c ∈ text :=
  (mem_lowerFrom h).2 hkept

theorem lowered_of_isLower {c : Char} (h : IsLower c) (inWord : Bool) (rest : List Char)
    : lowered inWord c rest = [c] := by
  have hsigma : c.toNat ≠ 0x3A3 := by
    intro hcode
    obtain ⟨run, hrun, hcovers⟩ : ∃ run ∈ changedRuns, run.covers 0x3A3 = true := by
      decide +kernel
    rw [← hcode, h run hrun] at hcovers
    cases hcovers
  rw [lowered, if_neg hsigma, lowerChar_of_isLower h]

/-- What is in lower case stays as it is, by induction on the text. -/
theorem lowerFrom_of_isLower {text : List Char} (h : ∀ c ∈ text, IsLower c) (inWord : Bool)
    : lowerFrom inWord text = text := by
  induction text generalizing inWord with
  | nil => rfl
  | cons c rest ih =>
      rw [lowerFrom_cons, lowered_of_isLower (h c List.mem_cons_self),
        ih fun d hd => h d (List.mem_cons_of_mem c hd)]
      rfl

theorem lower_lower (text : List Char) : lower (lower text) = lower text :=
  lowerFrom_of_isLower (fun _ h => (mem_lowerFrom h).1) false

theorem lowerFrom_ne_nil {text : List Char} (h : text ≠ []) (inWord : Bool)
    : lowerFrom inWord text ≠ [] := by
  cases text with
  | nil => exact absurd rfl h
  | cons c rest => exact List.append_ne_nil_of_left_ne_nil (lowered_ne_nil inWord c rest) _

theorem isBlank_of_mem_lowered {inWord : Bool} {c d : Char} {rest : List Char}
    (h : d ∈ lowered inWord c rest) (hc : isBlank c = false)
    : isBlank d = false := by
  rw [← Bool.not_eq_true]
  intro hd
  rcases mem_lowered h with ⟨rfl, -⟩ | ⟨-, hnot⟩
  · rw [hc] at hd
    cases hd
  · exact hnot (isKept_of_isBlank hd)

/-- Lower case keeps the signs that are in lower case. -/
theorem mem_lowerFrom_iff {c : Char} (hlower : IsLower c) (hkept : IsKept c) (inWord : Bool)
    (text : List Char)
    : c ∈ lowerFrom inWord text ↔ c ∈ text := by
  refine ⟨fun h => (mem_lowerFrom h).2 hkept, fun h => ?_⟩
  induction text generalizing inWord with
  | nil => cases h
  | cons first rest ih =>
      rw [lowerFrom_cons]
      rcases List.mem_cons.1 h with rfl | h
      · rw [lowered_of_isLower hlower]
        exact List.mem_append_left _ List.mem_cons_self
      · exact List.mem_append_right _ (ih _ h)

/-- A text in lower case starts with a sign if the text does. -/
theorem head?_lowerFrom_iff {c : Char} (hlower : IsLower c) (hkept : IsKept c) (inWord : Bool)
    (text : List Char)
    : c ∈ (lowerFrom inWord text).head? ↔ c ∈ text.head? := by
  cases text with
  | nil => rfl
  | cons first rest =>
      rw [lowerFrom_cons, List.head?_append_of_ne_nil _ (lowered_ne_nil _ _ _), List.head?_cons,
        Option.mem_some_iff]
      constructor
      · intro h
        rcases mem_lowered (List.mem_of_mem_head? h) with ⟨rfl, -⟩ | ⟨-, hnot⟩
        · rfl
        · exact absurd hkept hnot
      · rintro rfl
        rw [lowered_of_isLower hlower]
        rfl

/-- The end of a text in lower case comes from the end of the text. -/
theorem isBlank_getLast?_lowerFrom {text : List Char}
    (h : ∀ c ∈ text.getLast?, isBlank c = false) (inWord : Bool)
    : ∀ d ∈ (lowerFrom inWord text).getLast?, isBlank d = false := by
  induction text generalizing inWord with
  | nil => nofun
  | cons c rest ih =>
      rw [lowerFrom_cons]
      cases rest with
      | nil =>
          intro d hd
          rw [lowerFrom, List.append_nil] at hd
          exact isBlank_of_mem_lowered (List.mem_of_getLast? hd) (h c rfl)
      | cons next others =>
          rw [List.getLast?_append_of_ne_nil _ (lowerFrom_ne_nil (List.cons_ne_nil _ _) _)]
          exact ih (by simpa using h) _

/-- Lower case leaves no blank where there was none. -/
theorem Trimmed.lower {text : List Char} (h : Trimmed text) : Trimmed (lower text) := by
  refine ⟨?_, isBlank_getLast?_lowerFrom h.last false⟩
  cases text with
  | nil => nofun
  | cons c rest =>
      intro d hd
      rw [Text.lower, lowerFrom_cons, List.head?_append_of_ne_nil _ (lowered_ne_nil _ _ _)] at hd
      exact isBlank_of_mem_lowered (List.mem_of_mem_head? hd) (h.first c rfl)

end MongoConfig.Text

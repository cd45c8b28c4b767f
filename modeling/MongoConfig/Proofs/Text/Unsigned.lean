import MongoConfig.Text.Unsigned
/-! The texts that write unsigned numbers.
The reader carries the value along the digits; here the value of all digits together is that of the
decimal system, and a text is read if and only if it writes a number that the limit allows.
-/

namespace MongoConfig.Text

/-- Digits that write a number in the decimal system. Zeros may lead. -/
structure IsDecimal (value : Nat) (digits : List Char) : Prop where
  notEmpty : digits ≠ []
  isDigit : ∀ c ∈ digits, c.isDigit = true
  value : Nat.ofDigitChars 10 digits 0 = value

/-- A number may be written with a plus sign in front of it. -/
inductive WritesUnsigned (value : Nat) : List Char → Prop
  | plain {digits} (h : IsDecimal value digits) : WritesUnsigned value digits
  | plus {digits} (h : IsDecimal value digits) : WritesUnsigned value ('+' :: digits)

/-- Nothing but digits is read, by induction on the text. -/
theorem isDigit_of_readDigits {start value : Nat} {text : List Char}
    (h : readDigits start text = some value)
    : ∀ c ∈ text, c.isDigit = true := by
  induction text generalizing start with
  | nil => exact fun c hc => absurd hc List.not_mem_nil
  | cons c rest ih =>
      rw [readDigits] at h
      split at h
      · rename_i hdigit
        intro d hd
        rcases List.mem_cons.1 hd with rfl | hd
        · exact hdigit
        · exact ih h d hd
      · cases h

theorem readDigits_eq_some_iff {start value : Nat} {text : List Char}
    : readDigits start text = some value
      ↔ (∀ c ∈ text, c.isDigit = true) ∧ Nat.ofDigitChars 10 text start = value := by
  constructor
  · intro h
    have hdigits := isDigit_of_readDigits h
    rw [readDigits_eq hdigits] at h
    exact ⟨hdigits, Option.some.inj h⟩
  · rintro ⟨hdigits, rfl⟩
    exact readDigits_eq hdigits start

/-- At least one character is left behind the sign, and all of them are digits. -/
theorem readUnsigned?_eq_some_iff_stripPlus {limit value : Nat} {text : List Char}
    : readUnsigned? limit text = some value ↔ IsDecimal value (stripPlus text) ∧ value ≤ limit := by
  rw [readUnsigned?]
  split
  · rename_i hnil
    constructor
    · intro h
      cases h
    · rintro ⟨hdecimal, -⟩
      exact absurd hnil hdecimal.notEmpty
  · rename_i hne
    rw [Option.filter_eq_some_iff, readDigits_eq_some_iff, decide_eq_true_iff]
    constructor
    · rintro ⟨⟨hdigits, hvalue⟩, hle⟩
      exact ⟨⟨hne, hdigits, hvalue⟩, hle⟩
    · rintro ⟨⟨-, hdigits, hvalue⟩, hle⟩
      exact ⟨⟨hdigits, hvalue⟩, hle⟩

/-- The sign is no digit, so only one is taken off. -/
theorem isDecimal_stripPlus_iff {value : Nat} {text : List Char}
    : IsDecimal value (stripPlus text) ↔ WritesUnsigned value text := by
  constructor
  · intro h
    cases text with
    | nil => exact .plain h
    | cons c rest =>
        by_cases hplus : c = '+'
        · subst hplus
          exact .plus h
        · rw [stripPlus] at h
          · exact .plain h
          · rintro other hother
            exact hplus (List.cons.inj hother).1
  · rintro (h | h)
    · rwa [stripPlus_of_isDigit h.isDigit]
    · exact h

/-- A text is read as the number that it writes, if the limit allows it. -/
theorem readUnsigned?_eq_some_iff {limit value : Nat} {text : List Char}
    : readUnsigned? limit text = some value ↔ WritesUnsigned value text ∧ value ≤ limit := by
  rw [readUnsigned?_eq_some_iff_stripPlus, isDecimal_stripPlus_iff]

theorem readUInt16?_eq_some_iff {value : UInt16} {text : List Char}
    : readUInt16? text = some value ↔ WritesUnsigned value.toNat text := by
  have hle : value.toNat ≤ 65535 := Nat.lt_succ_iff.1 value.toNat_lt
  rw [readUInt16?, Option.map_eq_some_iff]
  constructor
  · rintro ⟨number, hnumber, rfl⟩
    obtain ⟨hwrites, hlimit⟩ := readUnsigned?_eq_some_iff.1 hnumber
    rwa [UInt16.toNat_ofNat_of_lt' (Nat.lt_succ_iff.2 hlimit)]
  · intro hwrites
    exact ⟨value.toNat, readUnsigned?_eq_some_iff.2 ⟨hwrites, hle⟩, UInt16.ofNat_toNat⟩

/-- A number is written in digits and a plus sign, so with no other character. -/
theorem WritesUnsigned.not_mem {value : Nat} {text : List Char} (h : WritesUnsigned value text)
    {c : Char} (hplus : c ≠ '+') (hdigit : c.isDigit = false)
    : c ∉ text := by
  have hnot {digits : List Char} (hdecimal : IsDecimal value digits) : c ∉ digits := by
    intro hmem
    rw [hdecimal.isDigit c hmem] at hdigit
    cases hdigit
  cases h with
  | plain hdecimal => exact hnot hdecimal
  | plus hdecimal =>
      rw [List.mem_cons, not_or]
      exact ⟨hplus, hnot hdecimal⟩

end MongoConfig.Text

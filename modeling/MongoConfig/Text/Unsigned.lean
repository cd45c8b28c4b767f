/-! Unsigned decimal numbers.
A number is an optional plus sign and at least one ASCII digit; leading zeros do not count, and
a value above the limit is refused.
-/

namespace MongoConfig.Text

/-- The value of a row of digits that continues the number `value`. -/
def readDigits (value : Nat) : List Char → Option Nat
  | [] => some value
  | c :: rest =>
      if c.isDigit then
        readDigits (value * 10 + (c.toNat - '0'.toNat)) rest
      else
        none

def stripPlus : List Char → List Char
  | '+' :: rest => rest
  | text => text

/-- The number that a text writes, if it is at most `limit`. -/
def readUnsigned? (limit : Nat) (text : List Char) : Option Nat :=
  match stripPlus text with
  | [] => none
  | digits => (readDigits 0 digits).filter (· ≤ limit)

def readUInt16? (text : List Char) : Option UInt16 :=
  (readUnsigned? 65535 text).map UInt16.ofNat

def readUInt32? (text : List Char) : Option UInt32 :=
  (readUnsigned? 4294967295 text).map UInt32.ofNat

def readUInt64? (text : List Char) : Option UInt64 :=
  (readUnsigned? 18446744073709551615 text).map UInt64.ofNat

/-- The shortest text that writes a number. -/
def unsignedText (value : Nat) : String :=
  String.ofList (Nat.toDigits 10 value)

/-- A number that was read is within the limit. -/
theorem le_of_readUnsigned? {limit value : Nat} {text : List Char}
    (h : readUnsigned? limit text = some value)
    : value ≤ limit := by
  unfold readUnsigned? at h
  split at h
  · cases h
  · simpa using (Option.filter_eq_some_iff.1 h).2

/-- Digits are read as the number that they write, by induction on them. -/
theorem readDigits_eq {digits : List Char} (h : ∀ c ∈ digits, c.isDigit = true) (value : Nat)
    : readDigits value digits = some (Nat.ofDigitChars 10 digits value) := by
  induction digits generalizing value with
  | nil => rfl
  | cons c rest ih =>
      have hc := h c List.mem_cons_self
      rw [readDigits, if_pos hc, ih fun d hd => h d (List.mem_cons_of_mem c hd),
        Nat.ofDigitChars_cons, Nat.mul_comm]

theorem stripPlus_of_isDigit {digits : List Char} (h : ∀ c ∈ digits, c.isDigit = true)
    : stripPlus digits = digits := by
  cases digits with
  | nil => rfl
  | cons c rest =>
      have hc := h c List.mem_cons_self
      rw [stripPlus]
      intro rest' hcons
      injection hcons with hplus
      rw [hplus] at hc
      exact absurd hc (by decide)

/-- The shortest text of a number within the limit is read as that number. -/
theorem readUnsigned?_unsignedText {limit value : Nat} (h : value ≤ limit)
    : readUnsigned? limit (unsignedText value).toList = some value := by
  have hdigits : ∀ c ∈ Nat.toDigits 10 value, c.isDigit = true := fun c hc =>
    Nat.isDigit_of_mem_toDigits (by decide) (by decide) hc
  have hread : readDigits 0 (Nat.toDigits 10 value) = some value := by
    rw [readDigits_eq hdigits, Nat.ofDigitChars_ten_toDigits]
  rw [unsignedText, String.toList_ofList, readUnsigned?, stripPlus_of_isDigit hdigits]
  cases hcases : Nat.toDigits 10 value with
  | nil => exact absurd hcases Nat.toDigits_ne_nil
  | cons c rest =>
      rw [hcases] at hread
      simp [hread, h]

theorem readUInt16?_unsignedText (value : UInt16)
    : readUInt16? (unsignedText value.toNat).toList = some value := by
  have hle : value.toNat ≤ 65535 := Nat.lt_succ_iff.1 value.toNat_lt
  rw [readUInt16?, readUnsigned?_unsignedText hle, Option.map_some, UInt16.ofNat_toNat]

end MongoConfig.Text

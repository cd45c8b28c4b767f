import MongoConfig.Text.Utf8
/-! Reading UTF-8 undoes writing it, whatever follows.
The first byte of a character leaves as many bytes missing as its code asks for, with bounds that
the second byte keeps; every later byte then adds six bits to what was read.
-/

namespace MongoConfig.Text.Utf8

-----------------------------------------------------------------------------------------
-- One byte at a time
-----------------------------------------------------------------------------------------

theorem scanFrom_start_done {byte : UInt8} {c : Char} (h : start byte.toNat = .done c)
    (rest : List UInt8)
    : scanFrom none (byte :: rest) = some c :: scanFrom none rest := by
  simp [scanFrom, advance, h, Step.outcome]

theorem scanFrom_start_more {byte : UInt8} {pending : Pending}
    (h : start byte.toNat = .more pending) (rest : List UInt8)
    : scanFrom none (byte :: rest) = scanFrom (some pending) rest := by
  simp [scanFrom, advance, h, Step.outcome]

/-- The last missing byte completes the character. -/
theorem scanFrom_last {bits low high : Nat} {byte : UInt8} (hlow : low ≤ byte.toNat)
    (hhigh : byte.toNat ≤ high) (rest : List UInt8)
    : scanFrom (some ⟨1, bits, low, high⟩) (byte :: rest)
      = some (Char.ofNat (bits * 64 + (byte.toNat - 0x80))) :: scanFrom none rest := by
  simp [scanFrom, advance, Pending.extend, Step.outcome, hlow, hhigh]

/-- A byte that is not the last one leaves one byte less missing. -/
theorem scanFrom_inner {missing bits low high : Nat} {byte : UInt8} (hmissing : missing ≠ 0)
    (hlow : low ≤ byte.toNat) (hhigh : byte.toNat ≤ high) (rest : List UInt8)
    : scanFrom (some ⟨missing + 1, bits, low, high⟩) (byte :: rest)
      = scanFrom (some ⟨missing, bits * 64 + (byte.toNat - 0x80), 0x80, 0xBF⟩) rest := by
  simp [scanFrom, advance, Pending.extend, Step.outcome, hlow, hhigh, hmissing]

-----------------------------------------------------------------------------------------
-- First bytes
-----------------------------------------------------------------------------------------

theorem start_of_two (lead : Nat) (hlow : 2 ≤ lead) (hhigh : lead < 0x20)
    : start (lead + 0xC0) = .more ⟨1, lead, 0x80, 0xBF⟩ := by
  have h1 : ¬lead + 0xC0 < 0x80 := by omega
  have h2 : ¬lead + 0xC0 < 0xC2 := by omega
  have h3 : lead + 0xC0 < 0xE0 := by omega
  simp [start, h1, h2, h3]

/-- The first of three bytes. The bounds of the second keep out overlong forms and surrogates. -/
theorem start_of_three (lead second : Nat) (hlead : lead < 0x10)
    (hoverlong : lead = 0 → 0x20 ≤ second) (hsurrogate : lead = 0xD → second < 0x20)
    (hsecond : second < 0x40)
    : ∃ low high,
        start (lead + 0xE0) = .more ⟨2, lead, low, high⟩
        ∧ low ≤ second + 0x80
        ∧ second + 0x80 ≤ high := by
  have h1 : ¬lead + 0xE0 < 0x80 := by omega
  have h2 : ¬lead + 0xE0 < 0xC2 := by omega
  have h3 : ¬lead + 0xE0 < 0xE0 := by omega
  by_cases hzero : lead = 0
  · subst hzero
    have := hoverlong rfl
    exact ⟨0xA0, 0xBF, by simp [start], by omega, by omega⟩
  · by_cases hd : lead = 0xD
    · subst hd
      have := hsurrogate rfl
      exact ⟨0x80, 0x9F, by simp [start], by omega, by omega⟩
    · have h4 : lead + 0xE0 ≠ 0xED := by omega
      have h5 : lead + 0xE0 < 0xF0 := by omega
      exact ⟨0x80, 0xBF, by simp [start, h1, h2, h4, h5, hzero], by omega, by omega⟩

/-- The first of four bytes. The bounds of the second keep out overlong forms and what is above
the last code. -/
theorem start_of_four (lead second : Nat) (hlead : lead ≤ 4)
    (hoverlong : lead = 0 → 0x10 ≤ second) (habove : lead = 4 → second < 0x10)
    (hsecond : second < 0x40)
    : ∃ low high,
        start (lead + 0xF0) = .more ⟨3, lead, low, high⟩
        ∧ low ≤ second + 0x80
        ∧ second + 0x80 ≤ high := by
  by_cases hzero : lead = 0
  · subst hzero
    have := hoverlong rfl
    exact ⟨0x90, 0xBF, by simp [start], by omega, by omega⟩
  · by_cases hfour : lead = 4
    · subst hfour
      have := habove rfl
      exact ⟨0x80, 0x8F, by simp [start], by omega, by omega⟩
    · have h1 : ¬lead + 0xF0 < 0x80 := by omega
      have h2 : ¬lead + 0xF0 < 0xC2 := by omega
      have h3 : ¬lead + 0xF0 < 0xE0 := by omega
      have h4 : lead + 0xF0 ≠ 0xE0 := by omega
      have h5 : lead + 0xF0 ≠ 0xED := by omega
      have h6 : ¬lead + 0xF0 < 0xF0 := by omega
      have h7 : lead + 0xF0 < 0xF4 := by omega
      exact ⟨0x80, 0xBF, by simp [start, h1, h2, h3, h4, h5, h7, hzero], by omega, by omega⟩

-----------------------------------------------------------------------------------------
-- Whole characters
-----------------------------------------------------------------------------------------

theorem toNat_ofNat_byte {n : Nat} (h : n < 256) : (UInt8.ofNat n).toNat = n := by
  simp [Nat.mod_eq_of_lt h]

/-- A code is no surrogate and not above the last one. -/
theorem code_bounds (c : Char) : c.toNat < 0xD800 ∨ 0xDFFF < c.toNat ∧ c.toNat < 0x110000 := by
  have h := c.valid
  simp only [UInt32.isValidChar, Nat.isValidChar] at h
  simp only [Char.toNat]
  omega

theorem scanFrom_one {code : Nat} (hhigh : code < 0x80) (rest : List UInt8)
    : scanFrom none (UInt8.ofNat code :: rest)
      = some (Char.ofNat code) :: scanFrom none rest := by
  refine scanFrom_start_done ?_ rest
  rw [toNat_ofNat_byte (by omega)]
  simp [start, hhigh]

theorem scanFrom_two {code : Nat} (hlow : 0x80 ≤ code) (hhigh : code < 0x800)
    (rest : List UInt8)
    : scanFrom none
          (UInt8.ofNat (code / 64 % 0x20 + 0xC0) :: UInt8.ofNat (code % 0x40 + 0x80) :: rest)
      = some (Char.ofNat code) :: scanFrom none rest := by
  have hlead : (UInt8.ofNat (code / 64 % 0x20 + 0xC0)).toNat = code / 64 + 0xC0 := by
    rw [toNat_ofNat_byte (by omega)]
    omega
  have hlast : (UInt8.ofNat (code % 0x40 + 0x80)).toNat = code % 0x40 + 0x80 :=
    toNat_ofNat_byte (by omega)
  have hstart := start_of_two (code / 64) (by omega) (by omega)
  rw [← hlead] at hstart
  have hsum : code / 64 * 64 + (code % 0x40 + 0x80 - 0x80) = code := by omega
  rw [scanFrom_start_more hstart, scanFrom_last (by omega) (by omega), hlast, hsum]

theorem scanFrom_three {code : Nat} (hlow : 0x800 ≤ code) (hhigh : code < 0x10000)
    (hsurrogate : code < 0xD800 ∨ 0xDFFF < code) (rest : List UInt8)
    : scanFrom none
          (UInt8.ofNat (code / 4096 % 0x10 + 0xE0) :: UInt8.ofNat (code / 64 % 0x40 + 0x80)
            :: UInt8.ofNat (code % 0x40 + 0x80) :: rest)
      = some (Char.ofNat code) :: scanFrom none rest := by
  have hlead : (UInt8.ofNat (code / 4096 % 0x10 + 0xE0)).toNat = code / 4096 + 0xE0 := by
    rw [toNat_ofNat_byte (by omega)]
    omega
  have hsecond : (UInt8.ofNat (code / 64 % 0x40 + 0x80)).toNat = code / 64 % 0x40 + 0x80 :=
    toNat_ofNat_byte (by omega)
  have hlast : (UInt8.ofNat (code % 0x40 + 0x80)).toNat = code % 0x40 + 0x80 :=
    toNat_ofNat_byte (by omega)
  obtain ⟨low, high, hstart, _, _⟩ :=
    start_of_three (code / 4096) (code / 64 % 0x40) (by omega) (by omega)
      (by omega) (by omega)
  rw [← hlead] at hstart
  have hsum
      : (code / 4096 * 64 + (code / 64 % 0x40 + 0x80 - 0x80)) * 64 + (code % 0x40 + 0x80 - 0x80)
        = code := by
    omega
  rw [scanFrom_start_more hstart, scanFrom_inner (by decide) (by omega) (by omega),
    scanFrom_last (by omega) (by omega), hsecond, hlast, hsum]

theorem scanFrom_four {code : Nat} (hlow : 0x10000 ≤ code) (hhigh : code < 0x110000)
    (rest : List UInt8)
    : scanFrom none
          (UInt8.ofNat (code / 262144 % 0x08 + 0xF0) :: UInt8.ofNat (code / 4096 % 0x40 + 0x80)
            :: UInt8.ofNat (code / 64 % 0x40 + 0x80) :: UInt8.ofNat (code % 0x40 + 0x80)
            :: rest)
      = some (Char.ofNat code) :: scanFrom none rest := by
  have hlead : (UInt8.ofNat (code / 262144 % 0x08 + 0xF0)).toNat = code / 262144 + 0xF0 := by
    rw [toNat_ofNat_byte (by omega)]
    omega
  have hsecond : (UInt8.ofNat (code / 4096 % 0x40 + 0x80)).toNat = code / 4096 % 0x40 + 0x80 :=
    toNat_ofNat_byte (by omega)
  have hthird : (UInt8.ofNat (code / 64 % 0x40 + 0x80)).toNat = code / 64 % 0x40 + 0x80 :=
    toNat_ofNat_byte (by omega)
  have hlast : (UInt8.ofNat (code % 0x40 + 0x80)).toNat = code % 0x40 + 0x80 :=
    toNat_ofNat_byte (by omega)
  obtain ⟨low, high, hstart, _, _⟩ :=
    start_of_four (code / 262144) (code / 4096 % 0x40) (by omega) (by omega)
      (by omega) (by omega)
  rw [← hlead] at hstart
  have hsum
      : ((code / 262144 * 64 + (code / 4096 % 0x40 + 0x80 - 0x80)) * 64
            + (code / 64 % 0x40 + 0x80 - 0x80)) * 64 + (code % 0x40 + 0x80 - 0x80)
        = code := by
    omega
  rw [scanFrom_start_more hstart, scanFrom_inner (by decide) (by omega) (by omega),
    scanFrom_inner (by decide) (by omega) (by omega), scanFrom_last (by omega) (by omega),
    hsecond, hthird, hlast, hsum]

/-- The bytes of a character are read as that character, by the number of its bytes. -/
theorem scanFrom_char (c : Char) (rest : List UInt8)
    : scanFrom none (String.utf8EncodeChar c ++ rest) = some c :: scanFrom none rest := by
  have hbounds := code_bounds c
  have hcode : Char.ofNat c.toNat = c := Char.ofNat_toNat c
  have hval : c.val.toNat = c.toNat := rfl
  simp only [String.utf8EncodeChar, hval]
  split
  · exact (scanFrom_one (by omega) rest).trans (by rw [hcode])
  · split
    · exact (scanFrom_two (by omega) (by omega) rest).trans (by rw [hcode])
    · split
      · exact (scanFrom_three (by omega) (by omega) (by omega) rest).trans (by rw [hcode])
      · exact (scanFrom_four (by omega) (by omega) rest).trans (by rw [hcode])

/-- A character of ASCII is written as its own code. -/
theorem encodeChar_ascii {c : Char} (h : c.toNat < 0x80)
    : String.utf8EncodeChar c = [UInt8.ofNat c.toNat] := by
  have hle : c.val.toNat ≤ 0x7F := Nat.lt_succ_iff.1 h
  simp only [String.utf8EncodeChar, if_pos hle]
  rfl

/-- The bytes of every other character lie outside of ASCII. -/
theorem le_of_mem_encodeChar {c : Char} (h : 0x80 ≤ c.toNat) {byte : UInt8}
    (hmem : byte ∈ String.utf8EncodeChar c)
    : 0x80 ≤ byte.toNat := by
  have hge : ¬c.val.toNat ≤ 0x7F := Nat.not_le.2 h
  simp only [String.utf8EncodeChar, if_neg hge] at hmem
  split at hmem
  · simp only [List.mem_cons, List.not_mem_nil, or_false] at hmem
    rcases hmem with rfl | rfl <;> rw [toNat_ofNat_byte (by omega)] <;> omega
  · split at hmem
    · simp only [List.mem_cons, List.not_mem_nil, or_false] at hmem
      rcases hmem with rfl | rfl | rfl <;> rw [toNat_ofNat_byte (by omega)] <;> omega
    · simp only [List.mem_cons, List.not_mem_nil, or_false] at hmem
      rcases hmem with rfl | rfl | rfl | rfl <;> rw [toNat_ofNat_byte (by omega)] <;> omega

-----------------------------------------------------------------------------------------
-- Whole texts
-----------------------------------------------------------------------------------------

/-- Every character of a text is read from its bytes, by induction on the text. -/
theorem scan_encode (text : List Char) : scan (encode text) = text.map some := by
  induction text with
  | nil => rfl
  | cons c rest ih =>
      simp only [scan, encode, List.flatMap_cons, List.map_cons] at ih ⊢
      rw [scanFrom_char, ih]

/-- What was written as UTF-8 is read as it was, and no sequence counts as broken. -/
theorem decodeLossy_encode (text : List Char) : decodeLossy (encode text) = text := by
  rw [decodeLossy, scan_encode, List.map_map]
  exact List.map_id text

/-- Nothing that was written as UTF-8 is refused. -/
theorem decode?_encode (text : List Char) : decode? (encode text) = some text := by
  rw [decode?, scan_encode]
  induction text with
  | nil => rfl
  | cons c rest ih => simp [ih]

-----------------------------------------------------------------------------------------
-- Bytes of any kind
-----------------------------------------------------------------------------------------

/-- A step completes an item or leaves one pending. -/
theorem Step.outcome_ne (step : Step) : step.outcome.1 ≠ [] ∨ step.outcome.2.isSome := by
  cases step with
  | more pending => exact Or.inr rfl
  | done c => exact Or.inl (List.cons_ne_nil _ _)
  | wrong => exact Or.inl (List.cons_ne_nil _ _)

theorem advance_ne (pending : Option Pending) (byte : Nat)
    : (advance pending byte).1 ≠ [] ∨ (advance pending byte).2.isSome := by
  cases pending with
  | none => exact (start byte).outcome_ne
  | some pending =>
      rw [advance]
      split
      · exact (pending.extend byte).outcome_ne
      · exact Or.inl (List.cons_ne_nil _ _)

/-- What is pending is completed or found broken, by induction on the bytes. -/
theorem scanFrom_ne_nil {pending : Option Pending} {bytes : List UInt8}
    (h : pending.isSome ∨ bytes ≠ [])
    : scanFrom pending bytes ≠ [] := by
  induction bytes generalizing pending with
  | nil =>
      rw [scanFrom, if_pos (h.resolve_right fun hne => hne rfl)]
      exact List.cons_ne_nil _ _
  | cons byte rest ih =>
      rw [scanFrom]
      rcases advance_ne pending byte.toNat with hitems | hpending
      · exact List.append_ne_nil_of_left_ne_nil hitems _
      · exact List.append_ne_nil_of_right_ne_nil _ (ih (Or.inl hpending))

/-- Some bytes, broken or not, never read as no text. -/
theorem decodeLossy_ne_nil {bytes : List UInt8} (h : bytes ≠ []) : decodeLossy bytes ≠ [] := by
  rw [decodeLossy, ne_eq, List.map_eq_nil_iff]
  exact scanFrom_ne_nil (Or.inr h)

theorem encode_ne_nil {text : List Char} (h : text ≠ []) : encode text ≠ [] := by
  cases text with
  | nil => exact absurd rfl h
  | cons c rest =>
      rw [encode, List.flatMap_cons]
      exact List.append_ne_nil_of_left_ne_nil (String.utf8EncodeChar_ne_nil) _

end MongoConfig.Text.Utf8

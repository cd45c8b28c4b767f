import MongoConfig.Proofs.Json.Grammar
/-! Strings are read as what they write.
A string ends at its closing quote, whatever follows it.
-/

namespace MongoConfig.Json

theorem hexDigit?_of_isHexDigit {value : Nat} {digit : Char} (hvalue : value < 16)
    (h : Text.Percent.IsHexDigit value digit)
    : hexDigit? digit = some value := by
  have hall
      : ∀ value : Fin 16,
          hexDigit? (Text.Percent.upperHexDigit value) = some value.val
          ∧ hexDigit? (Text.Percent.lowerHexDigit value) = some value.val := by
    decide
  obtain ⟨hupper, hlower⟩ := hall ⟨value, hvalue⟩
  rcases h with rfl | rfl
  · exact hupper
  · exact hlower

theorem readHex_of_codeText {code : Nat} {digits : List Char} (h : CodeText code digits)
    (rest : List Char)
    : readHex (digits ++ rest) = .ok (code, rest) := by
  obtain ⟨hcode, hdigit₁, hdigit₂, hdigit₃, hdigit₄⟩ := h
  have hsum
      : ((code / 0x1000 * 16 + code / 0x100 % 16) * 16 + code / 0x10 % 16) * 16 + code % 16
        = code := by
    omega
  simp only [List.cons_append, List.nil_append, readHex, hexQuad?,
    hexDigit?_of_isHexDigit (by omega) hdigit₁, hexDigit?_of_isHexDigit (by omega) hdigit₂,
    hexDigit?_of_isHexDigit (by omega) hdigit₃, hexDigit?_of_isHexDigit (by omega) hdigit₄, hsum]

/-- No character is a surrogate. -/
theorem isHighSurrogate_toNat (c : Char) : isHighSurrogate c.toNat = false := by
  have hvalid : c.toNat.isValidChar := c.valid
  simp only [Nat.isValidChar] at hvalid
  simp only [isHighSurrogate, Bool.and_eq_false_iff, decide_eq_false_iff_not]
  omega

theorem isLowSurrogate_toNat (c : Char) : isLowSurrogate c.toNat = false := by
  have hvalid : c.toNat.isValidChar := c.valid
  simp only [Nat.isValidChar] at hvalid
  simp only [isLowSurrogate, Bool.and_eq_false_iff, decide_eq_false_iff_not]
  omega

theorem readEscape_of_mem_escapes {letter c : Char} (h : (letter, c) ∈ escapes)
    (rest : List Char)
    : readEscape (letter :: rest) = .ok (c, rest) := by
  simp only [escapes, List.mem_cons, Prod.mk.injEq, List.not_mem_nil, or_false] at h
  rcases h with ⟨rfl, rfl⟩ | ⟨rfl, rfl⟩ | ⟨rfl, rfl⟩ | ⟨rfl, rfl⟩ | ⟨rfl, rfl⟩ | ⟨rfl, rfl⟩
    | ⟨rfl, rfl⟩ | ⟨rfl, rfl⟩ <;> rfl

theorem readEscape_of_codeText {c : Char} {digits : List Char} (hcode : CodeText c.toNat digits)
    (rest : List Char)
    : readEscape ('u' :: digits ++ rest) = .ok (c, rest) := by
  have hplain
      : (if isHighSurrogate c.toNat then readLowSurrogate c.toNat rest
          else if isLowSurrogate c.toNat then .error .malformed
          else .ok (Char.ofNat c.toNat, rest))
        = .ok (c, rest) := by
    rw [isHighSurrogate_toNat, isLowSurrogate_toNat, Char.ofNat_toNat]
    rfl
  rw [List.cons_append, readEscape, readUnicodeEscape, readHex_of_codeText hcode]
  exact hplain

theorem isHighSurrogate_highSurrogate (c : Char) : isHighSurrogate (highSurrogate c) = true := by
  have hvalid : c.toNat.isValidChar := c.valid
  simp only [Nat.isValidChar] at hvalid
  rw [highSurrogate]
  exact Bool.and_eq_true_iff.2 ⟨decide_eq_true (by omega), decide_eq_true (by omega)⟩

theorem isLowSurrogate_lowSurrogate (c : Char) : isLowSurrogate (lowSurrogate c) = true := by
  rw [lowSurrogate]
  exact Bool.and_eq_true_iff.2 ⟨decide_eq_true (by omega), decide_eq_true (by omega)⟩

theorem surrogates_toNat {c : Char} (hplane : 0x10000 ≤ c.toNat)
    : 0x10000 + (highSurrogate c - 0xD800) * 0x400 + (lowSurrogate c - 0xDC00) = c.toNat := by
  rw [highSurrogate, lowSurrogate]
  omega

theorem readLowSurrogate_of_readHex {low : Nat} {text rest : List Char}
    (hread : readHex text = .ok (low, rest)) (hisLow : isLowSurrogate low = true) (high : Nat)
    : readLowSurrogate high ('\\' :: 'u' :: text)
      = .ok (Char.ofNat (0x10000 + (high - 0xD800) * 0x400 + (low - 0xDC00)), rest) := by
  rw [readLowSurrogate, hread]
  exact if_pos hisLow

theorem readUnicodeEscape_of_isHighSurrogate {high : Nat} {text rest : List Char}
    (hread : readHex text = .ok (high, rest)) (hisHigh : isHighSurrogate high = true)
    : readUnicodeEscape text = readLowSurrogate high rest := by
  rw [readUnicodeEscape, hread]
  exact if_pos hisHigh

theorem readEscape_of_surrogates {c : Char} {high low : List Char} (hplane : 0x10000 ≤ c.toNat)
    (hhigh : CodeText (highSurrogate c) high) (hlow : CodeText (lowSurrogate c) low)
    (rest : List Char)
    : readEscape ('u' :: high ++ ('\\' :: 'u' :: low ++ rest)) = .ok (c, rest) := by
  have hpair
      : readLowSurrogate (highSurrogate c) ('\\' :: 'u' :: (low ++ rest)) = .ok (c, rest) := by
    rw [readLowSurrogate_of_readHex (readHex_of_codeText hlow rest)
      (isLowSurrogate_lowSurrogate c), surrogates_toNat hplane, Char.ofNat_toNat]
  rw [List.cons_append, readEscape, readUnicodeEscape_of_isHighSurrogate
    (readHex_of_codeText hhigh _) (isHighSurrogate_highSurrogate c)]
  exact hpair

/-- Whatever follows a backslash is read as one character. -/
theorem readStringFrom_of_readEscape {c : Char} {text rest : List Char}
    (h : readEscape text = .ok (c, rest)) (fuel : Nat)
    : readStringFrom (fuel + 1) ('\\' :: text)
      = (readStringFrom fuel rest).map fun found => (c :: found.1, found.2) := by
  have hread
      : readStringFrom (fuel + 1) ('\\' :: text)
        = (readEscape text).bind fun escaped =>
            (readStringFrom fuel escaped.2).bind fun found =>
              .ok (escaped.1 :: found.1, found.2) :=
    rfl
  rw [hread, h]
  rfl

theorem readStringFrom_of_charText {c : Char} {head : List Char} (h : CharText c head)
    (fuel : Nat) (rest : List Char)
    : readStringFrom (fuel + 1) (head ++ rest)
      = (readStringFrom fuel rest).map fun found => (c :: found.1, found.2) := by
  cases h with
  | plain hquote hbackslash hprintable =>
      rw [List.singleton_append, readStringFrom, if_neg hquote, if_neg hbackslash,
        if_neg (Nat.not_lt.2 hprintable)]
      rfl
  | escape hescape =>
      exact readStringFrom_of_readEscape (readEscape_of_mem_escapes hescape rest) fuel
  | code hcode =>
      exact readStringFrom_of_readEscape (readEscape_of_codeText hcode rest) fuel
  | surrogates hplane hhigh hlow =>
      rw [List.append_assoc]
      exact readStringFrom_of_readEscape (readEscape_of_surrogates hplane hhigh hlow rest) fuel

theorem CharText.length_pos {c : Char} {text : List Char} (h : CharText c text)
    : 0 < text.length := by
  cases h <;> exact Nat.succ_pos _

/-- A string is read character by character, by induction on them. -/
theorem readStringFrom_of_stringText {chars text : List Char} (h : StringText chars text)
    (rest : List Char) {fuel : Nat} (hfuel : text.length < fuel)
    : readStringFrom fuel (text ++ '"' :: rest) = .ok (chars, rest) := by
  induction h generalizing fuel with
  | nil =>
      obtain ⟨fuel, rfl⟩ := Nat.exists_eq_succ_of_ne_zero (Nat.ne_zero_of_lt hfuel)
      rfl
  | cons hhead _ ih =>
      obtain ⟨fuel, rfl⟩ := Nat.exists_eq_succ_of_ne_zero (Nat.ne_zero_of_lt hfuel)
      have hpos := hhead.length_pos
      rw [List.length_append] at hfuel
      rw [List.append_assoc, readStringFrom_of_charText hhead, ih (by omega)]
      rfl

theorem readString_of_stringText {chars text : List Char} (h : StringText chars text)
    (rest : List Char)
    : readString (text ++ '"' :: rest) = .ok (String.ofList chars, rest) := by
  rw [readString, readStringFrom_of_stringText h]
  · rfl
  · rw [List.length_append]
    omega

end MongoConfig.Json

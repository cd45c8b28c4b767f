import MongoConfig.Proofs.Text.Blank
import MongoConfig.Proofs.Text.Utf8
import MongoConfig.Text.Percent
/-! What percent escapes write, and that decoding reads it back.
A character is written as it is, unless it is a percent or a plus sign, or by the escapes of its
bytes; a space may also be a plus sign. Both encoders write in this way, with characters that
separate nothing in a URI.
-/

namespace MongoConfig.Text.Percent

-----------------------------------------------------------------------------------------
-- Written forms
-----------------------------------------------------------------------------------------

def lowerHexDigit (value : Nat) : Char :=
  if value < 10 then Char.ofNat (0x30 + value) else Char.ofNat (0x61 + value - 10)

/-- A hexadecimal digit may be written in either case. -/
def IsHexDigit (value : Nat) (digit : Char) : Prop :=
  digit = upperHexDigit value ∨ digit = lowerHexDigit value

/-- One escape for each byte. -/
inductive Escapes : List UInt8 → List Char → Prop
  | nil : Escapes [] []
  | cons {byte bytes high low rest} (hhigh : IsHexDigit (byte.toNat / 16) high)
    (hlow : IsHexDigit (byte.toNat % 16) low) (more : Escapes bytes rest)
    : Escapes (byte :: bytes) ('%' :: high :: low :: rest)

/-- The ways to write one character. -/
inductive CharForm (c : Char) : List Char → Prop
  | literal (hpercent : c ≠ '%') (hplus : c ≠ '+') : CharForm c [c]
  | escaped {form} (h : Escapes (String.utf8EncodeChar c) form) : CharForm c form
  | plus (h : c = ' ') : CharForm c ['+']

/-- The second text writes the first one, each character in a way of its own. -/
inductive Writes : List Char → List Char → Prop
  | nil : Writes [] []
  | cons {c text form rest} (first : CharForm c form) (more : Writes text rest)
    : Writes (c :: text) (form ++ rest)

-----------------------------------------------------------------------------------------
-- Reading escapes
-----------------------------------------------------------------------------------------

theorem decodeBytes_cons {byte : UInt8} (h : byte ≠ 0x25) (rest : List UInt8)
    : decodeBytes (byte :: rest) = byte :: decodeBytes rest := by
  match rest with
  | [] => rfl
  | [_] => rfl
  | _ :: _ :: _ => rw [decodeBytes, if_neg h]

/-- Bytes other than the percent sign are kept, by induction on them. -/
theorem decodeBytes_append {bytes : List UInt8} (h : ∀ byte ∈ bytes, byte ≠ 0x25)
    (rest : List UInt8)
    : decodeBytes (bytes ++ rest) = bytes ++ decodeBytes rest := by
  induction bytes with
  | nil => rfl
  | cons byte bytes ih =>
      rw [List.cons_append, decodeBytes_cons (h byte List.mem_cons_self),
        ih fun b hb => h b (List.mem_cons_of_mem byte hb), List.cons_append]

theorem decodeBytes_escape {high low byte : UInt8} (h : escaped? high low = some byte)
    (rest : List UInt8)
    : decodeBytes (0x25 :: high :: low :: rest) = byte :: decodeBytes rest := by
  rw [decodeBytes, if_pos rfl, h]

/-- A hexadecimal digit is a character of ASCII with its value, and no plus sign. -/
theorem IsHexDigit.read {value : Nat} {digit : Char} (hvalue : value < 16)
    (h : IsHexDigit value digit)
    : digit.toNat < 0x80
      ∧ digit ≠ '+'
      ∧ hexDigit? (UInt8.ofNat digit.toNat) = some value := by
  have hupper
      : ∀ value : Fin 16,
          (upperHexDigit value).toNat < 0x80
          ∧ upperHexDigit value ≠ '+'
          ∧ hexDigit? (UInt8.ofNat (upperHexDigit value).toNat) = some value.val := by
    decide
  have hlower
      : ∀ value : Fin 16,
          (lowerHexDigit value).toNat < 0x80
          ∧ lowerHexDigit value ≠ '+'
          ∧ hexDigit? (UInt8.ofNat (lowerHexDigit value).toNat) = some value.val := by
    decide
  rcases h with rfl | rfl
  · exact hupper ⟨value, hvalue⟩
  · exact hlower ⟨value, hvalue⟩

/-- The digits of a byte stand for that byte. -/
theorem escaped?_digits {byte : UInt8} {high low : Char}
    (hhigh : IsHexDigit (byte.toNat / 16) high) (hlow : IsHexDigit (byte.toNat % 16) low)
    : escaped? (UInt8.ofNat high.toNat) (UInt8.ofNat low.toNat) = some byte := by
  have hbyte := byte.toNat_lt
  obtain ⟨_, _, hreadHigh⟩ := hhigh.read (by omega)
  obtain ⟨_, _, hreadLow⟩ := hlow.read (by omega)
  have hsum : 16 * (byte.toNat / 16) + byte.toNat % 16 = byte.toNat := by omega
  simp [escaped?, hreadHigh, hreadLow, hsum]

-----------------------------------------------------------------------------------------
-- Decoding what was written
-----------------------------------------------------------------------------------------

/-- The bytes that a decoder sees: a plus sign has become a space. -/
def formBytes (form : List Char) : List UInt8 :=
  Utf8.encode (form.map plusToSpace)

theorem formBytes_append (front back : List Char)
    : formBytes (front ++ back) = formBytes front ++ formBytes back := by
  simp [formBytes, Utf8.encode]

theorem formBytes_cons (c : Char) (rest : List Char)
    : formBytes (c :: rest) = String.utf8EncodeChar (plusToSpace c) ++ formBytes rest := by
  simp [formBytes, Utf8.encode]

theorem formBytes_cons_ascii {c : Char} (hascii : c.toNat < 0x80) (hplus : c ≠ '+')
    (rest : List Char)
    : formBytes (c :: rest) = UInt8.ofNat c.toNat :: formBytes rest := by
  rw [formBytes_cons, plusToSpace, if_neg hplus, Utf8.encodeChar_ascii hascii,
    List.singleton_append]

/-- Escapes are read as their bytes, by induction on them. -/
theorem Escapes.decodeBytes {bytes : List UInt8} {form : List Char} (h : Escapes bytes form)
    (rest : List UInt8)
    : decodeBytes (formBytes form ++ rest) = bytes ++ Percent.decodeBytes rest := by
  induction h with
  | nil => rfl
  | @cons byte bytes high low form hhigh hlow more ih =>
      have hbyte := byte.toNat_lt
      obtain ⟨hasciiHigh, hplusHigh, _⟩ := hhigh.read (by omega)
      obtain ⟨hasciiLow, hplusLow, _⟩ := hlow.read (by omega)
      rw [formBytes_cons_ascii (by decide) (by decide), formBytes_cons_ascii hasciiHigh hplusHigh,
        formBytes_cons_ascii hasciiLow hplusLow]
      simp only [List.cons_append]
      exact (decodeBytes_escape (escaped?_digits hhigh hlow) _).trans (by rw [ih])

/-- No byte of a character other than the percent sign is the byte of one. -/
theorem ne_percent_of_mem_encodeChar {c : Char} (h : c ≠ '%') {byte : UInt8}
    (hmem : byte ∈ String.utf8EncodeChar c)
    : byte ≠ 0x25 := by
  rintro rfl
  by_cases hascii : c.toNat < 0x80
  · rw [Utf8.encodeChar_ascii hascii, List.mem_singleton] at hmem
    have hcode := congrArg UInt8.toNat hmem
    rw [Utf8.toNat_ofNat_byte (by omega)] at hcode
    exact h (by rw [← Char.ofNat_toNat c, ← hcode]; rfl)
  · exact absurd (Utf8.le_of_mem_encodeChar (by omega) hmem) (by decide)

/-- Every way to write a character is read as its bytes. -/
theorem CharForm.decodeBytes {c : Char} {form : List Char} (h : CharForm c form)
    (rest : List UInt8)
    : decodeBytes (formBytes form ++ rest)
      = String.utf8EncodeChar c ++ Percent.decodeBytes rest := by
  cases h with
  | literal hpercent hplus =>
      have hbytes : formBytes [c] = String.utf8EncodeChar c := by
        simp [formBytes, Utf8.encode, plusToSpace, hplus]
      rw [hbytes]
      exact decodeBytes_append (fun byte => ne_percent_of_mem_encodeChar hpercent) rest
  | escaped h => exact h.decodeBytes rest
  | plus h =>
      subst h
      exact decodeBytes_cons (by decide) rest

/-- A written text has the bytes of the text that it writes, by induction on the text. -/
theorem Writes.decodeBytes {text form : List Char} (h : Writes text form)
    : decodeBytes (formBytes form) = Utf8.encode text := by
  induction h with
  | nil => rfl
  | cons first more ih =>
      rw [formBytes_append, first.decodeBytes, ih]
      rfl

/-- Decoding reads back what is written, and takes no sequence of bytes for broken. -/
theorem decode_of_writes {text form : List Char} (h : Writes text form)
    : decode form = text := by
  have hbytes := h.decodeBytes
  rw [formBytes] at hbytes
  rw [decode, decodeEscapes, hbytes, Utf8.decodeLossy_encode]

-----------------------------------------------------------------------------------------
-- Encoders
-----------------------------------------------------------------------------------------

/-- The characters that an encoder may leave as they are. -/
def isSafe (c : Char) : Bool :=
  c.isAlphanum || c = '*' || c = '-' || c = '.' || c = '_' || c = '~'

/-- The characters that an encoder writes. -/
def isWritten (c : Char) : Bool :=
  isSafe c || c = '%' || c = '+'

/-- An encoder goes byte by byte: it escapes, leaves a safe character, or writes a space as a plus
sign. -/
def IsByteWriter (write : UInt8 → List Char) : Prop :=
  ∀ byte,
    write byte = escape byte
    ∨ isSafe (Char.ofNat byte.toNat) = true ∧ write byte = [Char.ofNat byte.toNat]
    ∨ byte = 0x20 ∧ write byte = ['+']

theorem isByteWriter_escapeByte : IsByteWriter escapeByte := by
  intro byte
  cases h : isUnreserved byte with
  | true =>
      refine Or.inr (Or.inl ⟨?_, by simp [escapeByte, h]⟩)
      simp only [isUnreserved, Bool.or_eq_true] at h
      simp only [isSafe, Bool.or_eq_true]
      rcases h with (((h | h) | h) | h) | h <;> simp [h]
  | false => exact Or.inl (by simp [escapeByte, h])

theorem isByteWriter_formByte : IsByteWriter formByte := by
  intro byte
  by_cases hspace : byte = 0x20
  · exact Or.inr (Or.inr ⟨hspace, by simp [formByte, hspace]⟩)
  · cases h : isFormSafe byte with
    | true =>
        refine Or.inr (Or.inl ⟨?_, by simp [formByte, hspace, h]⟩)
        simp only [isFormSafe, Bool.or_eq_true] at h
        simp only [isSafe, Bool.or_eq_true]
        rcases h with (((h | h) | h) | h) | h <;> simp [h]
    | false => exact Or.inl (by simp [formByte, hspace, h])

theorem toNat_charOfByte (byte : UInt8) : (Char.ofNat byte.toNat).toNat = byte.toNat := by
  have hbyte := byte.toNat_lt
  have hvalid : byte.toNat.isValidChar := Or.inl (by omega)
  rw [Char.ofNat, dif_pos hvalid]
  rfl

/-- A written character is a graphic character of ASCII. -/
theorem code_of_isWritten {c : Char} (h : isWritten c = true)
    : 0x20 < c.toNat ∧ c.toNat < 0x7F := by
  simp only [isWritten, isSafe, Bool.or_eq_true, decide_eq_true_eq] at h
  rcases h with ((((((h | rfl) | rfl) | rfl) | rfl) | rfl) | rfl) | rfl
  · delta Char.isAlphanum Char.isAlpha Char.isUpper Char.isLower Char.isDigit at h
    simp only [Bool.or_eq_true, Bool.and_eq_true, decide_eq_true_eq, ge_iff_le,
      UInt32.le_iff_toNat_le, Char.reduceVal, UInt32.reduceToNat] at h
    simp only [Char.toNat]
    omega
  all_goals decide

theorem isSafe_upperHexDigit {value : Nat} (h : value < 16)
    : isSafe (upperHexDigit value) = true := by
  have hall : ∀ value : Fin 16, isSafe (upperHexDigit value) = true := by decide
  exact hall ⟨value, h⟩

/-- The escape of a byte reads as that byte, wherever it stands. -/
theorem Escapes.escape {bytes : List UInt8} {form : List Char} (byte : UInt8)
    (h : Escapes bytes form)
    : Escapes (byte :: bytes) (escape byte ++ form) :=
  .cons (Or.inl rfl) (Or.inl rfl) h

theorem isWritten_of_mem_escape {byte : UInt8} {c : Char} (h : c ∈ escape byte)
    : isWritten c = true := by
  have hbyte := byte.toNat_lt
  simp only [Percent.escape, List.mem_cons, List.not_mem_nil, or_false] at h
  rcases h with rfl | rfl | rfl
  · decide
  · simp [isWritten, isSafe_upperHexDigit (show byte.toNat / 16 < 16 by omega)]
  · simp [isWritten, isSafe_upperHexDigit (show byte.toNat % 16 < 16 by omega)]

namespace IsByteWriter

variable {write : UInt8 → List Char}

/-- Bytes outside of ASCII are all escaped, by induction on them. -/
theorem escapes (h : IsByteWriter write) {bytes : List UInt8}
    (hbytes : ∀ byte ∈ bytes, 0x80 ≤ byte.toNat)
    : Escapes bytes (bytes.flatMap write) := by
  induction bytes with
  | nil => exact .nil
  | cons byte bytes ih =>
      have hge := hbytes byte List.mem_cons_self
      have hmore := ih fun b hb => hbytes b (List.mem_cons_of_mem byte hb)
      rcases h byte with he | ⟨hsafe, _⟩ | ⟨rfl, _⟩
      · rw [List.flatMap_cons, he]
        exact hmore.escape byte
      · have hcode : _ ∧ (Char.ofNat byte.toNat).toNat < 0x7F :=
          code_of_isWritten (by simp [isWritten, hsafe])
        rw [toNat_charOfByte] at hcode
        omega
      · exact absurd hge (by decide)

/-- The bytes of a character are written as a form of that character. -/
theorem charForm (h : IsByteWriter write) (c : Char)
    : CharForm c ((String.utf8EncodeChar c).flatMap write) := by
  by_cases hascii : c.toNat < 0x80
  · have hcode : (UInt8.ofNat c.toNat).toNat = c.toNat := Utf8.toNat_ofNat_byte (by omega)
    have hchar : Char.ofNat (UInt8.ofNat c.toNat).toNat = c := by rw [hcode, Char.ofNat_toNat]
    have hbytes := Utf8.encodeChar_ascii hascii
    rw [hbytes, List.flatMap_singleton]
    rcases h (UInt8.ofNat c.toNat) with he | ⟨hsafe, he⟩ | ⟨hspace, he⟩
    · refine .escaped ?_
      have hone := Escapes.nil.escape (UInt8.ofNat c.toNat)
      rwa [hbytes, he, ← List.append_nil (escape _)]
    · rw [he, hchar]
      rw [hchar] at hsafe
      exact .literal (by rintro rfl; exact absurd hsafe (by decide))
        (by rintro rfl; exact absurd hsafe (by decide))
    · rw [he]
      refine .plus ?_
      rw [← hchar, hspace]
      rfl
  · exact .escaped (h.escapes fun byte => Utf8.le_of_mem_encodeChar (by omega))

/-- An encoder writes the text that it is given, by induction on the text. -/
theorem writes (h : IsByteWriter write) (text : List Char)
    : Writes text ((Utf8.encode text).flatMap write) := by
  induction text with
  | nil => exact .nil
  | cons c rest ih =>
      simp only [Utf8.encode, List.flatMap_cons, List.flatMap_append] at ih ⊢
      exact .cons (h.charForm c) ih

theorem isWritten_of_mem (h : IsByteWriter write) {bytes : List UInt8} {c : Char}
    (hmem : c ∈ bytes.flatMap write)
    : isWritten c = true := by
  obtain ⟨byte, _, hc⟩ := List.mem_flatMap.1 hmem
  rcases h byte with he | ⟨hsafe, he⟩ | ⟨_, he⟩ <;> rw [he] at hc
  · exact isWritten_of_mem_escape hc
  · rw [List.mem_singleton.1 hc]
    simp [isWritten, hsafe]
  · rw [List.mem_singleton.1 hc]
    decide

end IsByteWriter

theorem writes_encode (text : List Char) : Writes text (encode text) :=
  isByteWriter_escapeByte.writes text

theorem writes_encodeForm (text : List Char) : Writes text (encodeForm text) :=
  isByteWriter_formByte.writes text

@[simp]
theorem decode_encode (text : List Char) : decode (encode text) = text :=
  decode_of_writes (writes_encode text)

@[simp]
theorem decode_encodeForm (text : List Char) : decode (encodeForm text) = text :=
  decode_of_writes (writes_encodeForm text)

/-- What separates the parts of a URI stands in no encoded part. -/
theorem not_mem_encode {c : Char} (h : isWritten c = false) (text : List Char)
    : c ∉ encode text := by
  intro hmem
  rw [isByteWriter_escapeByte.isWritten_of_mem hmem] at h
  cases h

theorem not_mem_encodeForm {c : Char} (h : isWritten c = false) (text : List Char)
    : c ∉ encodeForm text := by
  intro hmem
  rw [isByteWriter_formByte.isWritten_of_mem hmem] at h
  cases h

/-- No blank is written. -/
theorem isBlank_of_mem_encode {text : List Char} {c : Char} (h : c ∈ encode text)
    : isBlank c = false :=
  isBlank_of_graphic (code_of_isWritten (isByteWriter_escapeByte.isWritten_of_mem h))

theorem isBlank_of_mem_encodeForm {text : List Char} {c : Char} (h : c ∈ encodeForm text)
    : isBlank c = false :=
  isBlank_of_graphic (code_of_isWritten (isByteWriter_formByte.isWritten_of_mem h))

/-- Only the empty text is written by nothing. -/
theorem encode_ne_nil {text : List Char} (h : text ≠ []) : encode text ≠ [] := by
  intro hnil
  have hdecode := decode_encode text
  rw [hnil] at hdecode
  exact h hdecode.symm

/-- An escape stands for a byte, so bytes never come to nothing. -/
theorem decodeBytes_ne_nil {bytes : List UInt8} (h : bytes ≠ []) : decodeBytes bytes ≠ [] := by
  fun_cases decodeBytes bytes with
  | case1 => exact absurd rfl h
  | _ => exact List.cons_ne_nil _ _

/-- Only the empty text stands for nothing, whatever its escapes are. -/
theorem decode_ne_nil {text : List Char} (h : text ≠ []) : decode text ≠ [] :=
  Utf8.decodeLossy_ne_nil (decodeBytes_ne_nil (Utf8.encode_ne_nil (by simpa using h)))

theorem ofList_decode_eq_empty_iff {text : List Char}
    : String.ofList (decode text) = "" ↔ text = [] := by
  rw [String.ofList_eq_empty_iff]
  constructor
  · intro h
    by_contra hne
    exact decode_ne_nil hne h
  · rintro rfl
    rfl

-----------------------------------------------------------------------------------------
-- Texts that need no escape
-----------------------------------------------------------------------------------------

/-- A letter, a digit or one of the four signs that stand for themselves in every part of a URI. -/
def NeedsNoEscape (c : Char) : Prop :=
  c.isAlphanum = true ∨ c ∈ ['-', '.', '_', '~']

theorem isUnreserved_iff {byte : UInt8}
    : isUnreserved byte = true ↔ NeedsNoEscape (Char.ofNat byte.toNat) := by
  simp [isUnreserved, NeedsNoEscape, or_assoc]

/-- What needs no escape is a character of ASCII, for an encoder can write it. -/
theorem NeedsNoEscape.ascii {c : Char} (h : NeedsNoEscape c) : c.toNat < 0x7F := by
  refine (code_of_isWritten ?_).2
  rw [isWritten, isSafe]
  rcases h with h | h
  · simp [h]
  · simp only [List.mem_cons, List.not_mem_nil, or_false] at h
    rcases h with rfl | rfl | rfl | rfl <;> rfl

theorem encode_cons (c : Char) (rest : List Char)
    : encode (c :: rest) = (String.utf8EncodeChar c).flatMap escapeByte ++ encode rest := by
  simp only [encode, Utf8.encode, List.flatMap_cons, List.flatMap_append]

theorem encode_cons_of_needsNoEscape {c : Char} (h : NeedsNoEscape c) (rest : List Char)
    : encode (c :: rest) = c :: encode rest := by
  have hascii := h.ascii
  have hchar : Char.ofNat (UInt8.ofNat c.toNat).toNat = c := by
    rw [Utf8.toNat_ofNat_byte (by omega), Char.ofNat_toNat]
  have hbyte : isUnreserved (UInt8.ofNat c.toNat) = true := by
    rwa [isUnreserved_iff, hchar]
  rw [encode_cons, Utf8.encodeChar_ascii (by omega), List.flatMap_singleton, escapeByte,
    if_pos hbyte, hchar, List.singleton_append]

/-- Each other character starts with a byte that is escaped. -/
theorem exists_escaped_byte {c : Char} (h : ¬NeedsNoEscape c)
    : ∃ byte more, String.utf8EncodeChar c = byte :: more ∧ isUnreserved byte = false := by
  by_cases hascii : c.toNat < 0x80
  · refine ⟨_, _, Utf8.encodeChar_ascii hascii, Bool.eq_false_iff.2 ?_⟩
    rwa [ne_eq, isUnreserved_iff, Utf8.toNat_ofNat_byte (by omega), Char.ofNat_toNat]
  · obtain ⟨byte, more, hbytes⟩ :=
      List.exists_cons_of_ne_nil (String.utf8EncodeChar_ne_nil (c := c))
    refine ⟨byte, more, hbytes, Bool.eq_false_iff.2 fun hbyte => ?_⟩
    have hlow := (isUnreserved_iff.1 hbyte).ascii
    have hhigh :=
      Utf8.le_of_mem_encodeChar (c := c) (by omega) (hbytes ▸ List.mem_cons_self)
    rw [toNat_charOfByte] at hlow
    omega

theorem length_lt_encode_cons {c : Char} (h : ¬NeedsNoEscape c) (rest : List Char)
    : (encode rest).length + 1 < (encode (c :: rest)).length := by
  obtain ⟨byte, more, hbytes, hbyte⟩ := exists_escaped_byte h
  have hescape : (escapeByte byte).length = 3 := by
    rw [escapeByte, hbyte]
    rfl
  rw [encode_cons, hbytes, List.flatMap_cons, List.length_append, List.length_append, hescape]
  omega

/-- Nothing gets shorter by escapes, by induction on the text. -/
theorem length_le_encode (text : List Char) : text.length ≤ (encode text).length := by
  induction text with
  | nil => exact Nat.zero_le _
  | cons c rest ih =>
      by_cases hplain : NeedsNoEscape c
      · rw [encode_cons_of_needsNoEscape hplain]
        exact Nat.succ_le_succ ih
      · have hlonger := length_lt_encode_cons hplain rest
        rw [List.length_cons]
        omega

/-- A text is written as it is exactly if none of its characters is escaped. An escape makes the
text longer, which nothing behind it can make up for. -/
theorem encode_eq_self_iff {text : List Char}
    : encode text = text ↔ ∀ c ∈ text, NeedsNoEscape c := by
  induction text with
  | nil => simp [encode, Utf8.encode]
  | cons c rest ih =>
      rw [List.forall_mem_cons]
      by_cases hplain : NeedsNoEscape c
      · rw [encode_cons_of_needsNoEscape hplain, List.cons.injEq, ih]
        simp [hplain]
      · have hlonger := length_lt_encode_cons hplain rest
        have hrest := length_le_encode rest
        constructor
        · intro hsame
          rw [hsame, List.length_cons] at hlonger
          omega
        · rintro ⟨hthis, -⟩
          exact absurd hthis hplain

-----------------------------------------------------------------------------------------
-- Lists of options
-----------------------------------------------------------------------------------------

theorem readPair_writePair (pair : String × String) : readPair (writePair pair) = pair := by
  have hsign : '=' ∉ encodeForm pair.1.toList := not_mem_encodeForm (by decide) _
  simp [readPair, writePair, cutFirst_append hsign]

/-- What is written for a pair holds no sign between pairs, and is not empty. -/
theorem not_mem_writePair (pair : String × String) : '&' ∉ writePair pair := by
  have hfield (text : List Char) : '&' ∉ encodeForm text := not_mem_encodeForm (by decide) text
  simp [writePair, hfield]

theorem writePair_ne_nil (pair : String × String) : writePair pair ≠ [] :=
  List.append_ne_nil_of_right_ne_nil _ (List.cons_ne_nil _ _)

/-- Reading a written query gives its pairs in order. -/
theorem readPairs_writePairs (pairs : List (String × String))
    : readPairs (writePairs pairs) = pairs := by
  have hne : ∀ part ∈ pairs.map writePair, part ≠ [] := by
    intro part hpart
    obtain ⟨pair, _, rfl⟩ := List.mem_map.1 hpart
    exact writePair_ne_nil pair
  have hsign : ∀ part ∈ pairs.map writePair, '&' ∉ part := by
    intro part hpart
    obtain ⟨pair, _, rfl⟩ := List.mem_map.1 hpart
    exact not_mem_writePair pair
  rw [readPairs, writePairs, nonempty_pieces_intercalate hne hsign, List.map_map]
  exact List.map_id'' readPair_writePair pairs

/-- No blank is written in a query. -/
theorem isBlank_of_mem_writePairs {pairs : List (String × String)} {c : Char}
    (h : c ∈ writePairs pairs)
    : isBlank c = false := by
  rcases mem_of_mem_intercalate h with rfl | ⟨part, hpart, hmem⟩
  · decide
  · obtain ⟨pair, _, rfl⟩ := List.mem_map.1 hpart
    rw [writePair, List.mem_append, List.mem_cons] at hmem
    rcases hmem with hmem | rfl | hmem
    · exact isBlank_of_mem_encodeForm hmem
    · decide
    · exact isBlank_of_mem_encodeForm hmem

end MongoConfig.Text.Percent

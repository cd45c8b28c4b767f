import MongoConfig.Proofs.Text.ReadTogether
/-! What decoding undoes, and what it leaves alone.
A text that was written character by character, each in a form of its own, is read back. A form is
read by itself, whatever stands around it, unless it is a digit that an escape before it lacks. So
nothing changes but plus signs and escapes.
-/

namespace MongoConfig.Text.Percent

/-- A percent sign with two digits after it stands somewhere in the text. -/
def HasEscape (text : List Char) : Prop :=
  ∃ front high low back, text = front ++ '%' :: high :: low :: back ∧ IsHex high ∧ IsHex low

-----------------------------------------------------------------------------------------
-- Texts without escapes
-----------------------------------------------------------------------------------------

/-- Without an escape all bytes are kept, by induction on the text. -/
theorem decodeBytes_formBytes {text : List Char} (h : ¬HasEscape text)
    : decodeBytes (formBytes text) = formBytes text := by
  induction text with
  | nil => rfl
  | cons c rest ih =>
      have hrest := ih fun ⟨front, high, low, back, hsplit, hdigits⟩ =>
        h ⟨c :: front, high, low, back, congrArg (c :: ·) hsplit, hdigits⟩
      by_cases hpercent : c = '%'
      · subst hpercent
        have hbytes : formBytes ('%' :: rest) = 0x25 :: formBytes rest :=
          formBytes_cons_ascii (by decide) (by decide) rest
        rw [hbytes, decodeBytes_of_no_escape, hrest]
        intro high low more _ hmore
        refine Option.eq_none_iff_forall_ne_some.2 fun byte hbyte => h ?_
        obtain ⟨⟨_, hhigh⟩, ⟨_, hlow⟩⟩ := digits_of_escaped? hbyte
        obtain ⟨first, others, rfl, hfirst, hothers⟩ := exists_isHex_of_formBytes hmore hhigh
        obtain ⟨second, back, rfl, hsecond, -⟩ := exists_isHex_of_formBytes hothers hlow
        exact ⟨[], first, second, back, rfl, hfirst, hsecond⟩
      · have hkept : plusToSpace c ≠ '%' := by
          rw [plusToSpace]
          split
          · decide
          · exact hpercent
        rw [formBytes_cons, decodeBytes_append fun byte => ne_percent_of_mem_encodeChar hkept,
          hrest]

theorem decode_of_not_hasEscape {text : List Char} (h : ¬HasEscape text)
    : decode text = text.map plusToSpace := by
  rw [decode_eq, decodeBytes_formBytes h, formBytes, Utf8.decodeLossy_encode]

-----------------------------------------------------------------------------------------
-- Texts with escapes
-----------------------------------------------------------------------------------------

/-- An escape has a percent sign and two digits. -/
theorem HasEscape.three_le_length {text : List Char} (h : HasEscape text) : 3 ≤ text.length := by
  obtain ⟨front, high, low, back, rfl, -⟩ := h
  simp only [List.length_append, List.length_cons]
  omega

/-- Decoding never makes a text longer, by induction on the text. -/
theorem length_decode_le (text : List Char) : (decode text).length ≤ text.length := by
  induction text with
  | nil => exact Nat.le_refl 0
  | cons c rest ih =>
      have hnone : ¬HasEscape [c] := fun h => by simpa using h.three_le_length
      have hone : (decode [c]).length = 1 := by rw [decode_of_not_hasEscape hnone]; rfl
      have hjoined := length_decode_append_le [c] rest
      rw [List.singleton_append, hone] at hjoined
      rw [List.length_cons]
      omega

/-- An escape stands for one byte. -/
theorem length_decode_escape {high low : Char} (hhigh : IsHex high) (hlow : IsHex low)
    : (decode ['%', high, low]).length = 1 := by
  obtain ⟨first, hfirst, hhigh⟩ := hhigh
  obtain ⟨second, hsecond, hlow⟩ := hlow
  have hcode : (UInt8.ofNat (16 * first + second)).toNat = 16 * first + second :=
    Utf8.toNat_ofNat_byte (by omega)
  have hescapes : Escapes [UInt8.ofNat (16 * first + second)] ['%', high, low] := by
    refine .cons ?_ ?_ .nil
    · rwa [hcode, show (16 * first + second) / 16 = first by omega]
    · rwa [hcode, show (16 * first + second) % 16 = second by omega]
  have hbytes := hescapes.decodeBytes []
  rw [List.append_nil] at hbytes
  rw [decode_eq, hbytes, Utf8.decodeLossy, List.length_map]
  exact Utf8.length_scan_singleton _

theorem HasEscape.length_decode_lt {text : List Char} (h : HasEscape text)
    : (decode text).length < text.length := by
  obtain ⟨front, high, low, back, rfl, hhigh, hlow⟩ := h
  have hfront := length_decode_append_le front (['%', high, low] ++ back)
  have hescape := length_decode_append_le ['%', high, low] back
  rw [length_decode_escape hhigh hlow] at hescape
  have hfrontLength := length_decode_le front
  have hbackLength := length_decode_le back
  simp only [List.cons_append, List.nil_append, List.length_append, List.length_cons] at *
  omega

-----------------------------------------------------------------------------------------
-- Decoding
-----------------------------------------------------------------------------------------

/-- Only plus signs become spaces. -/
theorem map_plusToSpace_eq_self_iff {text : List Char}
    : text.map plusToSpace = text ↔ '+' ∉ text := by
  induction text with
  | nil => simp
  | cons c rest ih =>
      by_cases hplus : c = '+'
      · subst hplus
        simp [plusToSpace]
      · simp [plusToSpace, hplus, Ne.symm hplus, ih]

/-- Only texts without plus signs and escapes stay as they are, for an escape makes a text shorter.
-/
theorem decode_eq_self_iff {text : List Char}
    : decode text = text ↔ '+' ∉ text ∧ ¬HasEscape text := by
  constructor
  · intro hsame
    have hnone : ¬HasEscape text := by
      intro h
      have hshorter := h.length_decode_lt
      rw [hsame] at hshorter
      exact Nat.lt_irrefl _ hshorter
    rw [decode_of_not_hasEscape hnone] at hsame
    exact ⟨map_plusToSpace_eq_self_iff.1 hsame, hnone⟩
  · rintro ⟨hplus, hnone⟩
    rw [decode_of_not_hasEscape hnone]
    exact map_plusToSpace_eq_self_iff.2 hplus

/-- The bytes of what was written are UTF-8, so none of them is taken for broken. -/
theorem decodeStrict?_of_writes {text form : List Char} (h : Writes text form)
    : decodeStrict? (form.map plusToSpace) = some text := by
  have hbytes := h.decodeBytes
  rw [formBytes] at hbytes
  rw [decodeStrict?, hbytes, Utf8.decode?_encode]

/-- Decoding reads back each text from every way to write it, and takes no byte of it for broken. It
reads each form by itself wherever it stands, unless the form starts with a digit, which an escape
before it may lack; so the separators of a query and the characters outside of ASCII are kept, and
an escaped plus sign is no space. Only plus signs and escapes are changed. -/
theorem decode_by_forms
    : (∀ text form,
        Writes text form
        → decode form = text ∧ decodeStrict? (form.map plusToSpace) = some text)
      ∧ (∀ c first rest,
          CharForm c (first :: rest)
          → ¬IsHex first
          → ∀ front back,
              decode (front ++ first :: rest ++ back) = decode front ++ c :: decode back)
      ∧ (∀ text, decode text = text ↔ '+' ∉ text ∧ ¬HasEscape text) := by
  refine ⟨?_, ?_, fun text => decode_eq_self_iff⟩
  · intro text form hwrites
    exact ⟨decode_of_writes hwrites, decodeStrict?_of_writes hwrites⟩
  · intro c first rest hform hfirst
    exact hform.decode_append hfirst

/-- Escapes in either case stand next to characters that stand for themselves, one of them the
character that is shown for broken bytes. A space is written as a plus sign, and a plus sign is
escaped behind what could be the start of another escape. -/
theorem decode_by_forms_mixed
    : (decode "é\ufffd&=;+%2b%E2%82%ac".toList = "é\ufffd&=; +€".toList
        ∧ decodeStrict? "é\ufffd&=; %2b%E2%82%ac".toList = some "é\ufffd&=; +€".toList)
      ∧ decode "%4%2B1%".toList = "%4+1%".toList
      ∧ decode "é=a&b; €".toList = "é=a&b; €".toList := by
  obtain ⟨hwrites, hform, hself⟩ := decode_by_forms
  have hplus {digit : Char} (h : IsHexDigit 11 digit) : CharForm '+' ['%', '2', digit] :=
    .escaped (.cons (.inl rfl) h .nil)
  have heuro : CharForm '€' "%E2%82%ac".toList := by
    refine .escaped (.cons (.inl rfl) (.inl rfl) ?_)
    exact .cons (.inl rfl) (.inl rfl) (.cons (.inr rfl) (.inr rfl) .nil)
  have hshort {text : List Char} (hlength : text.length < 3) : ¬HasEscape text :=
    fun h => Nat.not_le_of_lt hlength h.three_le_length
  refine ⟨hwrites _ "é\ufffd&=;+%2b%E2%82%ac".toList ?_, ?_, (hself _).2 ⟨by decide, ?_⟩⟩
  · have hliteral {c : Char} (h : c ≠ '%' ∧ c ≠ '+') {text form : List Char}
        (hmore : Writes text form)
        : Writes (c :: text) (c :: form) :=
      .cons (.literal h.1 h.2) hmore
    have hend : Writes " +€".toList "+%2b%E2%82%ac".toList :=
      .cons (.plus rfl) (.cons (hplus (.inr rfl)) (.cons heuro .nil))
    exact hliteral (by decide) (hliteral (by decide) (hliteral (by decide)
      (hliteral (by decide) (hliteral (by decide) hend))))
  · refine (hform '+' '%' ['2', 'B'] (hplus (.inl rfl)) (by decide) ['%', '4'] ['1', '%']).trans ?_
    rw [(hself ['%', '4']).2 ⟨by decide, hshort (by decide)⟩,
      (hself ['1', '%']).2 ⟨by decide, hshort (by decide)⟩]
    rfl
  · rintro ⟨front, high, low, back, hsplit, -⟩
    have hpercent : '%' ∈ "é=a&b; €".toList := by simp [hsplit]
    exact absurd hpercent (by decide)

end MongoConfig.Text.Percent

import MongoConfig.Proofs.Text.Percent
/-! Texts that are decoded together and apart.
A form of a character is decoded by itself and separates what stands before and after it, unless it
is a digit, which an escape before it may lack. Texts that follow one another without such a form
can make up an escape or a character that neither holds alone, and then fewer characters come out.
So taking all signs of one kind out of a text is seen in the length of what it stands for.
-/

namespace MongoConfig.Text

-----------------------------------------------------------------------------------------
-- Bytes
-----------------------------------------------------------------------------------------

namespace Utf8

/-- The next byte of the character is one that no character starts with. -/
structure Pending.Inner (pending : Pending) : Prop where
  low : 0x80 ≤ pending.low
  high : pending.high ≤ 0xBF

theorem inner_of_start {byte : Nat} {pending : Pending} (h : start byte = .more pending)
    : pending.Inner := by
  simp only [start] at h
  split_ifs at h
  all_goals
    cases h
    constructor <;> simp

theorem inner_of_extend {pending next : Pending} {byte : Nat}
    (h : pending.extend byte = .more next)
    : next.Inner := by
  rw [Pending.extend] at h
  split at h
  · cases h
  · cases h
    constructor <;> simp

theorem inner_of_outcome {step : Step} (h : ∀ next, step = .more next → next.Inner)
    : ∀ next ∈ step.outcome.2, next.Inner := by
  cases step with
  | more pending =>
      rintro next ⟨⟩
      exact h _ rfl
  | done c => exact nofun
  | wrong => exact nofun

theorem Pending.extend_inner (pending : Pending) (byte : Nat)
    : ∀ next ∈ (pending.extend byte).outcome.2, next.Inner :=
  inner_of_outcome fun _ => inner_of_extend

/-- Whatever was read before, a byte leaves no other character pending. -/
theorem inner_of_advance (pending : Option Pending) (byte : Nat)
    : ∀ next ∈ (advance pending byte).2, next.Inner := by
  cases pending with
  | none => exact inner_of_outcome fun _ => inner_of_start
  | some pending =>
      rw [advance]
      split
      · exact pending.extend_inner byte
      · exact inner_of_outcome fun _ => inner_of_start

/-- A byte that continues a character completes it or leaves it pending. -/
theorem Pending.length_extend (pending : Pending) (byte : Nat)
    : (pending.extend byte).outcome.1.length
        + (scanFrom (pending.extend byte).outcome.2 []).length
      = 1 := by
  rw [extend]
  split <;> rfl

theorem scanFrom_continued {pending : Pending} {byte : UInt8}
    (h : pending.low ≤ byte.toNat ∧ byte.toNat ≤ pending.high) (rest : List UInt8)
    : scanFrom (some pending) (byte :: rest)
      = (pending.extend byte.toNat).outcome.1
        ++ scanFrom (pending.extend byte.toNat).outcome.2 rest := by
  have hin : (pending.low ≤ byte.toNat && byte.toNat ≤ pending.high) = true := by
    simpa using h
  simp only [scanFrom, advance, if_pos hin]

/-- A byte out of the bounds breaks the pending character, and starts anew. -/
theorem scanFrom_broken {pending : Pending} {byte : UInt8}
    (h : byte.toNat < pending.low ∨ pending.high < byte.toNat) (rest : List UInt8)
    : scanFrom (some pending) (byte :: rest) = none :: scanFrom none (byte :: rest) := by
  have hout : ¬(pending.low ≤ byte.toNat && byte.toNat ≤ pending.high) = true := by
    simp only [Bool.and_eq_true, decide_eq_true_eq]
    omega
  simp only [scanFrom, advance, if_neg hout, List.cons_append]

/-- A character starts with a byte that continues none. -/
theorem exists_head_encodeChar (c : Char)
    : ∃ first rest,
        String.utf8EncodeChar c = first :: rest ∧ (first.toNat < 0x80 ∨ 0xBF < first.toNat) := by
  have hbounds := code_bounds c
  have hval : c.val.toNat = c.toNat := rfl
  simp only [String.utf8EncodeChar, hval]
  split_ifs
  all_goals
    refine ⟨_, _, rfl, ?_⟩
    rw [toNat_ofNat_byte (by omega)]
    omega

/-- A character is read after whatever was pending, which is broken. -/
theorem scanFrom_char_of_pending {pending : Option Pending} (h : ∀ p ∈ pending, p.Inner) (c : Char)
    (rest : List UInt8)
    : scanFrom pending (String.utf8EncodeChar c ++ rest)
      = scanFrom pending [] ++ some c :: scanFrom none rest := by
  cases pending with
  | none => exact scanFrom_char c rest
  | some pending =>
      have hinner := h pending rfl
      have hlow := hinner.low
      have hhigh := hinner.high
      have hchar := scanFrom_char c rest
      obtain ⟨first, more, hbytes, hfirst⟩ := exists_head_encodeChar c
      rw [hbytes, List.cons_append] at hchar ⊢
      rw [scanFrom_broken (by omega), hchar]
      rfl

/-- A character separates, by induction on the bytes before it. -/
theorem scanFrom_append_char {pending : Option Pending} (h : ∀ p ∈ pending, p.Inner) (c : Char)
    (front back : List UInt8)
    : scanFrom pending (front ++ (String.utf8EncodeChar c ++ back))
      = scanFrom pending front ++ some c :: scanFrom none back := by
  induction front generalizing pending with
  | nil => exact scanFrom_char_of_pending h c back
  | cons first rest ih =>
      rw [List.cons_append, scanFrom, scanFrom, ih (inner_of_advance pending first.toNat),
        List.append_assoc]

/-- A pending character that is given up is one item more, if that. By induction on the bytes: those
that continue the character could not start one, so each of them would be an item, too. -/
theorem length_scanFrom_le {pending : Option Pending} (h : ∀ p ∈ pending, p.Inner)
    (bytes : List UInt8)
    : (scanFrom pending bytes).length
      ≤ (scanFrom pending []).length + (scanFrom none bytes).length := by
  induction bytes generalizing pending with
  | nil => exact Nat.le_add_right _ _
  | cons byte rest ih =>
      cases pending with
      | none => exact Nat.le_add_left _ _
      | some pending =>
          have hinner := h pending rfl
          have hone (pending : Pending) : (scanFrom (some pending) []).length = 1 := rfl
          rw [hone]
          by_cases hin : pending.low ≤ byte.toNat ∧ byte.toNat ≤ pending.high
          · have hwrong : scanFrom none (byte :: rest) = none :: scanFrom none rest := by
              have hlow := hinner.low
              have hhigh := hinner.high
              have hstart : start byte.toNat = .wrong := by
                rw [start, if_neg (by omega), if_pos (by omega)]
              simp [scanFrom, advance, hstart, Step.outcome]
            have hnext := ih (pending.extend_inner byte.toNat)
            rw [scanFrom_continued hin, List.length_append, hwrong, List.length_cons]
            have hcost := pending.length_extend byte.toNat
            omega
          · rw [scanFrom_broken (by omega), List.length_cons, Nat.add_comm]

/-- Bytes that are read apart are not fewer items than those that are read together. -/
theorem length_scanFrom_append_le {pending : Option Pending} (h : ∀ p ∈ pending, p.Inner)
    (front back : List UInt8)
    : (scanFrom pending (front ++ back)).length
      ≤ (scanFrom pending front).length + (scanFrom none back).length := by
  induction front generalizing pending with
  | nil => exact length_scanFrom_le h back
  | cons byte rest ih =>
      rw [List.cons_append, scanFrom, scanFrom, List.length_append, List.length_append,
        Nat.add_assoc]
      exact Nat.add_le_add_left (ih (inner_of_advance pending byte.toNat)) _

theorem scan_append_char (c : Char) (front back : List UInt8)
    : scan (front ++ (String.utf8EncodeChar c ++ back)) = scan front ++ some c :: scan back :=
  scanFrom_append_char (by simp) c front back

/-- A byte of ASCII is a character by itself. -/
theorem scan_append_ascii {byte : UInt8} (hascii : byte.toNat < 0x80) (front back : List UInt8)
    : scan (front ++ byte :: back)
      = scan front ++ some (Char.ofNat byte.toNat) :: scan back := by
  have hcode := Percent.toNat_charOfByte byte
  have hbytes : String.utf8EncodeChar (Char.ofNat byte.toNat) = [byte] := by
    rw [encodeChar_ascii (by omega), hcode, UInt8.ofNat_toNat]
  have hscan := scan_append_char (Char.ofNat byte.toNat) front back
  rwa [hbytes, List.singleton_append] at hscan

theorem length_scan_append_le (front back : List UInt8)
    : (scan (front ++ back)).length ≤ (scan front).length + (scan back).length :=
  length_scanFrom_append_le (by simp) front back

theorem length_scan_singleton (byte : UInt8) : (scan [byte]).length = 1 := by
  rw [scan, scanFrom, advance]
  cases start byte.toNat <;> rfl

end Utf8

-----------------------------------------------------------------------------------------
-- Escapes
-----------------------------------------------------------------------------------------

namespace Percent

/-- A hexadecimal digit is a byte of ASCII and starts no escape. -/
theorem ascii_of_hexDigit? {byte : UInt8} {value : Nat} (h : hexDigit? byte = some value)
    : byte.toNat < 0x80 ∧ byte ≠ 0x25 := by
  constructor
  · simp only [hexDigit?, Bool.and_eq_true, decide_eq_true_eq] at h
    split_ifs at h <;> omega
  · rintro rfl
    cases h

theorem digits_of_escaped? {high low byte : UInt8} (h : escaped? high low = some byte)
    : (∃ value, hexDigit? high = some value) ∧ ∃ value, hexDigit? low = some value := by
  unfold escaped? at h
  split at h
  · rename_i first second hhigh hlow
    exact ⟨⟨first, hhigh⟩, ⟨second, hlow⟩⟩
  · cases h

theorem decodeBytes_of_no_escape {byte : UInt8} {rest : List UInt8}
    (h : ∀ high low more,
      byte = 0x25 → rest = high :: low :: more → escaped? high low = none)
    : decodeBytes (byte :: rest) = byte :: decodeBytes rest := by
  by_cases hpercent : byte = 0x25
  · match rest, h with
    | [], _ => rfl
    | [_], _ => rfl
    | high :: low :: more, h => rw [decodeBytes, if_pos hpercent, h high low more hpercent rfl]
  · exact decodeBytes_cons hpercent rest

/-- A part that starts with no digit completes no escape of the part before it. -/
theorem decodeBytes_append_of_head {second : List UInt8}
    (h : ∀ byte ∈ second.head?, hexDigit? byte = none) (first : List UInt8)
    : decodeBytes (first ++ second) = decodeBytes first ++ decodeBytes second := by
  have hlast (byte : UInt8) : decodeBytes (byte :: second) = byte :: decodeBytes second := by
    refine decodeBytes_of_no_escape fun high low more _ hsecond => ?_
    rw [escaped?, h high (by rw [hsecond]; rfl)]
  -- only the last two bytes of the first part can start an escape that goes on behind it
  fun_induction decodeBytes first with
  | case1 => rfl
  | case2 byte => exact hlast byte
  | case3 percent digit =>
      have hnone
          : decodeBytes (percent :: digit :: second)
            = percent :: decodeBytes (digit :: second) := by
        refine decodeBytes_of_no_escape fun high low more _ hrest => ?_
        obtain ⟨rfl, hsecond⟩ := List.cons.inj hrest
        rw [escaped?, h low (by rw [hsecond]; rfl)]
        cases hexDigit? digit <;> rfl
      exact hnone.trans (congrArg (percent :: ·) (hlast digit))
  | case4 high low rest byte hvalue ih =>
      rw [List.cons_append, List.cons_append, List.cons_append, decodeBytes_escape hvalue, ih]
      rfl
  | case5 high low rest hnone ih =>
      have hkept
          : decodeBytes (0x25 :: high :: low :: (rest ++ second))
            = 0x25 :: decodeBytes (high :: low :: (rest ++ second)) := by
        refine decodeBytes_of_no_escape fun _ _ _ _ hrest => ?_
        cases hrest
        exact hnone
      exact hkept.trans (congrArg (0x25 :: ·) ih)
  | case6 byte high low rest hpercent ih =>
      exact (decodeBytes_cons hpercent _).trans (congrArg (byte :: ·) ih)

/-- What two parts of a text stand for, and what they stand for together if an escape was cut in
two. -/
def CutsEscape (first second joined : List UInt8) : Prop :=
  ∃ front inner outer back high low byte,
    escaped? high low = some byte
    ∧ inner ++ outer = [high]
    ∧ first = front ++ 0x25 :: inner
    ∧ second = outer ++ low :: back
    ∧ joined = front ++ byte :: back

theorem CutsEscape.cons {first second joined : List UInt8} (h : CutsEscape first second joined)
    (byte : UInt8)
    : CutsEscape (byte :: first) second (byte :: joined) := by
  obtain ⟨front, inner, outer, back, high, low, value, hvalue, hdigit, rfl, rfl, rfl⟩ := h
  exact ⟨byte :: front, inner, outer, back, high, low, value, hvalue, hdigit, rfl, rfl, rfl⟩

/-- Escapes are read apart unless one is cut in two; by recursion along the first part. -/
theorem decodeBytes_append_or
    : ∀ first second : List UInt8,
        decodeBytes (first ++ second) = decodeBytes first ++ decodeBytes second
        ∨ CutsEscape (decodeBytes first) (decodeBytes second) (decodeBytes (first ++ second))
  | [], second => Or.inl rfl
  | byte :: rest, second => by
      by_cases hescape : ∃ high low more value,
          byte = 0x25 ∧ rest ++ second = high :: low :: more ∧ escaped? high low = some value
      · obtain ⟨high, low, more, value, rfl, hsplit, hvalue⟩ := hescape
        obtain ⟨⟨first, hhigh⟩, ⟨last, hlow⟩⟩ := digits_of_escaped? hvalue
        match rest, hsplit with
        | [], hsplit =>
            -- the first part ends with the percent sign
            obtain rfl : second = high :: low :: more := hsplit
            have hsecond
                : decodeBytes (high :: low :: more) = [high] ++ low :: decodeBytes more := by
              rw [decodeBytes_cons (ascii_of_hexDigit? hhigh).2,
                decodeBytes_cons (ascii_of_hexDigit? hlow).2, List.singleton_append]
            exact Or.inr ⟨[], [], [high], decodeBytes more, high, low, value, hvalue, rfl, rfl,
              hsecond, decodeBytes_escape hvalue more⟩
        | [digit], hsplit =>
            -- the first part ends with the percent sign and one digit
            obtain ⟨rfl, rfl⟩ : digit = high ∧ second = low :: more := List.cons.inj hsplit
            have hsecond : decodeBytes (low :: more) = [] ++ low :: decodeBytes more :=
              decodeBytes_cons (ascii_of_hexDigit? hlow).2 more
            exact Or.inr ⟨[], [digit], [], decodeBytes more, digit, low, value, hvalue, rfl, rfl,
              hsecond, decodeBytes_escape hvalue more⟩
        | digit :: other :: rest, hsplit =>
            -- the escape is whole in the first part
            obtain ⟨rfl, htail⟩ := List.cons.inj hsplit
            obtain ⟨rfl, rfl⟩ := List.cons.inj htail
            rw [decodeBytes_escape hvalue, List.cons_append, List.cons_append, List.cons_append,
              decodeBytes_escape hvalue]
            rcases decodeBytes_append_or rest second with happart | hcut
            · exact Or.inl (congrArg (value :: ·) happart)
            · exact Or.inr (hcut.cons value)
      · have hnone {back : List UInt8} (hback : ∃ more, rest ++ second = back ++ more)
            : decodeBytes (byte :: back) = byte :: decodeBytes back := by
          refine decodeBytes_of_no_escape fun high low more hpercent hsplit => ?_
          obtain ⟨others, hothers⟩ := hback
          rw [hsplit] at hothers
          refine Option.eq_none_iff_forall_ne_some.2 fun value hvalue => hescape ?_
          exact ⟨high, low, more ++ others, value, hpercent, hothers, hvalue⟩
        rw [List.cons_append, hnone ⟨[], (List.append_nil _).symm⟩, hnone ⟨second, rfl⟩]
        rcases decodeBytes_append_or rest second with happart | hcut
        · exact Or.inl (congrArg (byte :: ·) happart)
        · exact Or.inr (hcut.cons byte)

/-- The escape that was cut is two items at least, and one when it is whole. -/
theorem CutsEscape.length_scan {first second joined : List UInt8}
    (h : CutsEscape first second joined)
    : (Utf8.scan joined).length < (Utf8.scan first).length + (Utf8.scan second).length := by
  obtain ⟨front, inner, outer, back, high, low, byte, hvalue, -, rfl, rfl, rfl⟩ := h
  obtain ⟨-, digit, hlow⟩ := digits_of_escaped? hvalue
  have hfirst := Utf8.scan_append_ascii (by decide : (0x25 : UInt8).toNat < 0x80) front inner
  have hsecond := Utf8.scan_append_ascii (ascii_of_hexDigit? hlow).1 outer back
  have hjoined := Utf8.length_scan_append_le front (byte :: back)
  have hrest := Utf8.length_scan_append_le [byte] back
  have hone := Utf8.length_scan_singleton byte
  rw [List.singleton_append] at hrest
  rw [hfirst, hsecond]
  simp only [List.length_append, List.length_cons]
  omega

-----------------------------------------------------------------------------------------
-- Forms
-----------------------------------------------------------------------------------------

/-- A hexadecimal digit in either case. -/
def IsHex (c : Char) : Prop :=
  ∃ value < 16, IsHexDigit value c

instance (value : Nat) (digit : Char) : Decidable (IsHexDigit value digit) :=
  inferInstanceAs (Decidable (_ ∨ _))

instance (c : Char) : Decidable (IsHex c) :=
  inferInstanceAs (Decidable (∃ value < 16, IsHexDigit value c))

theorem IsHex.exists_hexDigit? {c : Char} (h : IsHex c)
    : ∃ value, hexDigit? (UInt8.ofNat c.toNat) = some value := by
  obtain ⟨value, hvalue, hdigit⟩ := h
  exact ⟨value, (hdigit.read hvalue).2.2⟩

/-- A byte is read as a digit only if it is the code of one. -/
theorem isHex_of_hexDigit? {byte : UInt8} {value : Nat} (h : hexDigit? byte = some value)
    : IsHex (Char.ofNat byte.toNat) := by
  simp only [hexDigit?, Bool.and_eq_true, decide_eq_true_eq] at h
  split_ifs at h with hdigit hupper hlower
  · cases h
    refine ⟨byte.toNat - 0x30, by omega, .inl ?_⟩
    rw [upperHexDigit, if_pos (by omega), Nat.add_sub_of_le hdigit.1]
  · cases h
    refine ⟨byte.toNat - 0x41 + 10, by omega, .inl ?_⟩
    rw [upperHexDigit, if_neg (by omega)]
    congr 1
    omega
  · cases h
    refine ⟨byte.toNat - 0x61 + 10, by omega, .inr ?_⟩
    rw [lowerHexDigit, if_neg (by omega)]
    congr 1
    omega

/-- The digit that the bytes of a text start with is the first character of the text. -/
theorem exists_isHex_of_formBytes {text : List Char} {byte : UInt8} {more : List UInt8}
    {value : Nat} (hbytes : formBytes text = byte :: more) (hvalue : hexDigit? byte = some value)
    : ∃ c rest, text = c :: rest ∧ IsHex c ∧ formBytes rest = more := by
  cases text with
  | nil => cases hbytes
  | cons c rest =>
      by_cases hascii : (plusToSpace c).toNat < 0x80
      · rw [formBytes_cons, Utf8.encodeChar_ascii hascii, List.singleton_append] at hbytes
        obtain ⟨rfl, hmore⟩ := List.cons.inj hbytes
        have hhex := isHex_of_hexDigit? hvalue
        rw [Utf8.toNat_ofNat_byte (by omega), Char.ofNat_toNat] at hhex
        by_cases hplus : c = '+'
        · subst hplus
          cases hvalue
        · rw [plusToSpace, if_neg hplus] at hhex
          exact ⟨c, rest, rfl, hhex, hmore⟩
      · have hmem : byte ∈ String.utf8EncodeChar (plusToSpace c) := by
          obtain ⟨first, others, hfirst, -⟩ := Utf8.exists_head_encodeChar (plusToSpace c)
          rw [formBytes_cons, hfirst, List.cons_append] at hbytes
          rw [hfirst, (List.cons.inj hbytes).1]
          exact List.mem_cons_self
        have hge := Utf8.le_of_mem_encodeChar (by omega) hmem
        exact absurd (ascii_of_hexDigit? hvalue).1 (by omega)

theorem decode_eq (text : List Char)
    : decode text = Utf8.decodeLossy (decodeBytes (formBytes text)) :=
  rfl

/-- A form is read by itself, wherever it stands, if it does not start with a digit that an escape
before it lacks. -/
theorem CharForm.decode_append {c first : Char} {form : List Char}
    (h : CharForm c (first :: form)) (hfirst : ¬IsHex first) (front back : List Char)
    : decode (front ++ first :: form ++ back) = decode front ++ c :: decode back := by
  have hhead : ∀ byte ∈ (formBytes (first :: form ++ back)).head?, hexDigit? byte = none := by
    intro byte hbyte
    refine Option.eq_none_iff_forall_ne_some.2 fun value hvalue => ?_
    obtain ⟨more, hmore⟩ := List.head?_eq_some_iff.1 hbyte
    obtain ⟨_, _, hsame, hhex, -⟩ := exists_isHex_of_formBytes hmore hvalue
    rw [(List.cons.inj hsame).1] at hfirst
    exact hfirst hhex
  have hbytes
      : Percent.decodeBytes (formBytes (front ++ first :: form ++ back))
        = Percent.decodeBytes (formBytes front)
          ++ (String.utf8EncodeChar c ++ Percent.decodeBytes (formBytes back)) := by
    rw [List.append_assoc, formBytes_append, decodeBytes_append_of_head hhead, formBytes_append,
      h.decodeBytes]
  rw [decode_eq, hbytes, Utf8.decodeLossy, Utf8.scan_append_char, decode_eq, decode_eq,
    Utf8.decodeLossy, Utf8.decodeLossy, List.map_append, List.map_cons, Option.getD_some]

-----------------------------------------------------------------------------------------
-- Texts
-----------------------------------------------------------------------------------------

/-- A sign of ASCII that stands for itself and in no escape. -/
structure Separates (sign : Char) : Prop where
  ascii : sign.toNat < 0x80
  notPlus : sign ≠ '+'
  notPercent : sign ≠ '%'
  notDigit : hexDigit? (UInt8.ofNat sign.toNat) = none

variable {sign : Char}

/-- What stands before and after the sign is decoded by itself. -/
theorem Separates.decode_append (h : Separates sign) (front back : List Char)
    : decode (front ++ sign :: back) = decode front ++ sign :: decode back := by
  have hhex : ¬IsHex sign := by
    intro hhex
    obtain ⟨value, hvalue⟩ := hhex.exists_hexDigit?
    rw [h.notDigit] at hvalue
    cases hvalue
  have hform := (CharForm.literal h.notPercent h.notPlus).decode_append hhex front back
  rwa [List.append_assoc, List.singleton_append] at hform

/-- Texts that are decoded apart do not stand for fewer characters than together. -/
theorem length_decode_append_le (front back : List Char)
    : (decode (front ++ back)).length ≤ (decode front).length + (decode back).length := by
  simp only [decode_eq, formBytes_append, Utf8.decodeLossy, List.length_map]
  rcases decodeBytes_append_or (formBytes front) (formBytes back) with hjoined | hcut
  · rw [hjoined]
    exact Utf8.length_scan_append_le _ _
  · exact Nat.le_of_lt hcut.length_scan

/-- Every sign that is taken out of a text is missing in what it stands for. By induction on the
text; `front` is what stands between two signs. -/
theorem Separates.length_decode_filter (h : Separates sign) (front text : List Char)
    : (decode (front ++ text.filter (· ≠ sign))).length + text.count sign
      ≤ (decode (front ++ text)).length := by
  induction text generalizing front with
  | nil => simp
  | cons c rest ih =>
      by_cases hsign : c = sign
      · subst hsign
        have hrest := ih []
        have hjoined := length_decode_append_le front (rest.filter (· ≠ c))
        rw [List.filter_cons_of_neg (by simp), List.count_cons_self, h.decode_append,
          List.length_append, List.length_cons]
        simp only [List.nil_append] at hrest
        omega
      · have hmore := ih (front ++ [c])
        rw [List.filter_cons_of_pos (by simpa using hsign), List.count_cons_of_ne hsign]
        simpa using hmore

/-- A text stands for the same without its signs only if there are none. -/
theorem Separates.decode_filter_eq_iff (h : Separates sign) {text : List Char}
    : decode (text.filter (· ≠ sign)) = decode text ↔ sign ∉ text := by
  constructor
  · intro hsame
    have hlength := h.length_decode_filter [] text
    rw [List.nil_append, List.nil_append, hsame] at hlength
    exact List.count_eq_zero.1 (by omega)
  · intro hnone
    rw [List.filter_eq_self.2]
    intro c hc
    exact decide_eq_true (fun hsign => hnone (hsign ▸ hc))

end Percent

end MongoConfig.Text

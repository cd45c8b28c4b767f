import MongoConfig.Proofs.Json.Grammar
import MongoConfig.Proofs.Outcome
/-! Numbers are read as what they write.
A number ends where the text does, or before a character that cannot continue it. Each part of the
reader takes exactly what the grammar writes there, as far as a character follows that cannot
continue the part.
-/

namespace MongoConfig.Json

/-- The characters that can continue a number. -/
def continuesNumber (c : Char) : Bool :=
  c.isDigit || c = '.' || c = 'e' || c = 'E'

/-- The text does not go on with a number. -/
def EndsNumber (rest : List Char) : Prop :=
  ∀ c ∈ rest.head?, continuesNumber c = false

theorem EndsNumber.startsWithDigit {rest : List Char} (h : EndsNumber rest)
    : startsWithDigit rest = false := by
  cases rest with
  | nil => rfl
  | cons c rest =>
      have hc := h c rfl
      simp only [continuesNumber, Bool.or_eq_false_iff] at hc
      exact hc.1.1.1

theorem EndsNumber.ne_cons {rest : List Char} (h : EndsNumber rest) {c : Char}
    (hc : continuesNumber c = true) (tail : List Char)
    : rest ≠ c :: tail := by
  rintro rfl
  rw [h c rfl] at hc
  cases hc

-----------------------------------------------------------------------------------------
-- Digits
-----------------------------------------------------------------------------------------

theorem IsDigits.startsWithDigit {digits : List Char} (h : IsDigits digits) (rest : List Char)
    : startsWithDigit (digits ++ rest) = true := by
  cases digits with
  | nil => exact absurd rfl h.ne_nil
  | cons c digits => exact h.isDigit c List.mem_cons_self

theorem appendDigit?_eq (value : Nat) (c : Char)
    : appendDigit? value c
      = if Nat.ofDigitChars 10 [c] value < UInt64.size then some (Nat.ofDigitChars 10 [c] value)
        else none := by
  have hfits
      : value * 10 + (c.toNat - '0'.toNat) ≤ maxSignificand
        ↔ Nat.ofDigitChars 10 [c] value < UInt64.size := by
    rw [Nat.ofDigitChars_cons, Nat.ofDigitChars_nil, Nat.mul_comm]
    exact Nat.lt_succ_iff.symm
  unfold appendDigit?
  simp only [hfits, Nat.ofDigitChars_cons, Nat.ofDigitChars_nil, Nat.mul_comm 10]

theorem le_ofDigitChars (digits : List Char) (value : Nat)
    : value ≤ Nat.ofDigitChars 10 digits value := by
  induction digits generalizing value with
  | nil => exact Nat.le_refl value
  | cons c rest ih =>
      rw [Nat.ofDigitChars_cons]
      exact Nat.le_trans (by omega) (ih _)

namespace KeepsDigits

variable {value : Nat} {c : Char} {kept dropped : List Char}

theorem tail (h : KeepsDigits value (c :: kept) dropped)
    : KeepsDigits (Nat.ofDigitChars 10 [c] value) kept dropped :=
  ⟨h.fits, h.full⟩

theorem appendDigit?_eq_some (h : KeepsDigits value (c :: kept) dropped)
    : appendDigit? value c = some (Nat.ofDigitChars 10 [c] value) := by
  have hfits : Nat.ofDigitChars 10 [c] value < UInt64.size :=
    Nat.lt_of_le_of_lt (le_ofDigitChars kept _) h.fits
  rw [appendDigit?_eq, if_pos hfits]

theorem appendDigit?_eq_none (h : KeepsDigits value [] (c :: dropped))
    : appendDigit? value c = none := by
  have hfull : UInt64.size ≤ Nat.ofDigitChars 10 [c] value := h.full c rfl
  rw [appendDigit?_eq, if_neg (Nat.not_lt.2 hfull)]

end KeepsDigits

theorem keepsDigits_of_fits {digits : List Char} {value : Nat}
    (h : Nat.ofDigitChars 10 digits value < UInt64.size)
    : KeepsDigits value digits [] :=
  ⟨h, nofun⟩

section

variable {rest : List Char} (hrest : startsWithDigit rest = false)
include hrest

theorem takeWhile_isDigit_append {digits : List Char} (h : ∀ c ∈ digits, c.isDigit = true)
    : (digits ++ rest).takeWhile Char.isDigit = digits := by
  rw [List.takeWhile_append_of_pos h]
  cases rest with
  | nil => exact List.append_nil digits
  | cons c rest =>
      have hdigit : c.isDigit = false := hrest
      rw [List.takeWhile_cons_of_neg (ne_true_of_eq_false hdigit), List.append_nil]

theorem dropWhile_isDigit_append {digits : List Char} (h : ∀ c ∈ digits, c.isDigit = true)
    : (digits ++ rest).dropWhile Char.isDigit = rest := by
  rw [List.dropWhile_append_of_pos h]
  cases rest with
  | nil => rfl
  | cons c rest => exact List.dropWhile_cons_of_neg (ne_true_of_eq_false hrest)

theorem readIntegerDigits_rest (significand skipped : Nat)
    : readIntegerDigits significand skipped rest = (significand, skipped, rest) := by
  cases rest with
  | nil => rfl
  | cons c rest =>
      have hdigit : c.isDigit = false := hrest
      simp [readIntegerDigits, hdigit]

/-- Once a digit was skipped, the others are skipped with it. -/
theorem readIntegerDigits_skipped {dropped : List Char} (h : ∀ c ∈ dropped, c.isDigit = true)
    (significand skipped : Nat)
    : readIntegerDigits significand (skipped + 1) (dropped ++ rest)
      = (significand, skipped + 1 + dropped.length, rest) := by
  induction dropped generalizing skipped with
  | nil => exact readIntegerDigits_rest hrest _ _
  | cons c dropped ih =>
      have hc := h c List.mem_cons_self
      have hdropped := ih (fun other hother => h other (List.mem_cons_of_mem c hother))
      simp only [List.cons_append, readIntegerDigits, hc, if_true, hdropped, List.length_cons,
        Nat.add_assoc, Nat.add_comm 1]

/-- Digits are kept as long as they fit, by induction on those that are. -/
theorem readIntegerDigits_of_keeps {value : Nat} {kept dropped : List Char}
    (hdigits : ∀ c ∈ kept ++ dropped, c.isDigit = true) (hkeeps : KeepsDigits value kept dropped)
    : readIntegerDigits value 0 (kept ++ dropped ++ rest)
      = (Nat.ofDigitChars 10 kept value, dropped.length, rest) := by
  induction kept generalizing value with
  | nil =>
      cases dropped with
      | nil => exact readIntegerDigits_rest hrest _ _
      | cons c dropped =>
          have hc := hdigits c List.mem_cons_self
          have hskipped := readIntegerDigits_skipped hrest
            (fun other hother => hdigits other (List.mem_cons_of_mem c hother)) value 0
          simp only [List.nil_append, List.cons_append, readIntegerDigits, hc, if_true,
            hkeeps.appendDigit?_eq_none, hskipped, Nat.ofDigitChars_nil, List.length_cons,
            Nat.zero_add, Nat.add_comm 1]
  | cons c kept ih =>
      have hc := hdigits c List.mem_cons_self
      have htail := ih (fun other hother => hdigits other (List.mem_cons_of_mem c hother))
        hkeeps.tail
      simp only [List.cons_append, readIntegerDigits, hc, if_true, hkeeps.appendDigit?_eq_some]
      exact htail

theorem readFractionDigits_of_keeps {value : Nat} {kept dropped : List Char}
    (hdigits : ∀ c ∈ kept ++ dropped, c.isDigit = true) (hkeeps : KeepsDigits value kept dropped)
    (exponent : Int)
    : readFractionDigits { significand := value, exponent } (kept ++ dropped ++ rest)
      = ({ significand := Nat.ofDigitChars 10 kept value, exponent := exponent - kept.length },
        rest) := by
  induction kept generalizing value exponent with
  | nil =>
      cases dropped with
      | nil =>
          cases rest with
          | nil => simp [readFractionDigits]
          | cons c rest =>
              have hdigit : c.isDigit = false := hrest
              simp [readFractionDigits, hdigit]
      | cons c dropped =>
          have hc := hdigits c List.mem_cons_self
          have hdropped := dropWhile_isDigit_append hrest
            (fun other hother => hdigits other (List.mem_cons_of_mem c hother))
          simp [readFractionDigits, hc, hkeeps.appendDigit?_eq_none, hdropped]
  | cons c kept ih =>
      have hc := hdigits c List.mem_cons_self
      have htail := ih (fun other hother => hdigits other (List.mem_cons_of_mem c hother))
        hkeeps.tail (exponent - 1)
      simp only [List.cons_append, readFractionDigits, hc, if_true, hkeeps.appendDigit?_eq_some]
      rw [htail, List.length_cons, Int.sub_sub, Int.add_comm 1]
      rfl

end

-----------------------------------------------------------------------------------------
-- The parts of a number
-----------------------------------------------------------------------------------------

theorem readIntegerPart_eq {digits : List Char} (hwhole : IsWhole digits) {rest : List Char}
    (hrest : startsWithDigit rest = false)
    : readIntegerPart (digits ++ rest) = .ok (readIntegerDigits 0 0 (digits ++ rest)) := by
  cases digits with
  | nil => exact absurd rfl hwhole.ne_nil
  | cons c digits =>
      by_cases hzero : c = '0'
      · subst hzero
        obtain rfl : digits = [] := (List.cons.inj (hwhole.eq_zero rfl)).2
        have hdigits : readIntegerDigits 0 0 (['0'] ++ [] ++ rest) = (0, 0, rest) :=
          readIntegerDigits_of_keeps hrest hwhole.isDigit (keepsDigits_of_fits (by decide))
        have hpart
            : readIntegerPart (['0'] ++ rest)
              = if startsWithDigit rest then .error .malformed else .ok (0, 0, rest) :=
          rfl
        rw [hpart, hrest, ← hdigits]
        rfl
      · rw [List.cons_append, readIntegerPart, if_pos (hwhole.isDigit c List.mem_cons_self)]
        exact fun heq => hzero heq

theorem readIntegerPart_of_isWhole {kept dropped : List Char} (hwhole : IsWhole (kept ++ dropped))
    (hkeeps : KeepsDigits 0 kept dropped) {rest : List Char} (hrest : startsWithDigit rest = false)
    : readIntegerPart (kept ++ dropped ++ rest)
      = .ok (digitsValue kept, dropped.length, rest) := by
  rw [readIntegerPart_eq hwhole hrest, readIntegerDigits_of_keeps hrest hwhole.isDigit hkeeps]
  rfl

theorem readFraction_of_fractionText {kept dropped text : List Char}
    (hfraction : FractionText (kept ++ dropped) text) {value : Nat}
    (hkeeps : KeepsDigits value kept dropped) {rest : List Char}
    (hrest : startsWithDigit rest = false) (hpoint : ∀ tail, rest ≠ '.' :: tail) (exponent : Int)
    : readFraction { significand := value, exponent } (text ++ rest)
      = .ok
          (!text.isEmpty,
            { significand := Nat.ofDigitChars 10 kept value, exponent := exponent - kept.length },
            rest) := by
  generalize hdigits : kept ++ dropped = digits at hfraction
  cases hfraction with
  | none =>
      obtain ⟨rfl, rfl⟩ := List.append_eq_nil_iff.1 hdigits
      rw [List.nil_append, readFraction]
      · simp
      · exact hpoint
  | point hsome =>
      subst hdigits
      rw [List.cons_append, readFraction, if_pos (hsome.startsWithDigit rest),
        readFractionDigits_of_keeps hrest hsome.isDigit hkeeps]
      rfl

/-- Whether an exponent is negative, and what comes after its sign. -/
def exponentSign : List Char → Bool × List Char
  | '+' :: digits => (false, digits)
  | '-' :: digits => (true, digits)
  | digits => (false, digits)

theorem readExponent_cons (decimal : Decimal) (c : Char) (text : List Char)
    : readExponent decimal (c :: text)
      = if c = 'e' || c = 'E' then
          let (isNegative, digits) := exponentSign text
          if startsWithDigit digits then
            let written :=
              (digits.takeWhile Char.isDigit).foldl
                (fun value digit => value * 10 + (digit.toNat - '0'.toNat)) 0
            let shift := if isNegative then -(written : Int) else written
            .ok
              (true, { decimal with exponent := decimal.exponent + shift },
                digits.dropWhile Char.isDigit)
          else
            .error (digitFault digits)
        else
          .ok (false, decimal, c :: text) :=
  rfl

theorem readExponent_of_exponentSign {letter : Char} (hletter : IsExponentLetter letter)
    {text digits rest : List Char} {isNegative : Bool}
    (hsign : exponentSign text = (isNegative, digits ++ rest)) (hdigits : IsDigits digits)
    (hrest : startsWithDigit rest = false) (decimal : Decimal)
    : readExponent decimal (letter :: text)
      = .ok
          (true,
            { decimal with
              exponent :=
                decimal.exponent
                + if isNegative then -(digitsValue digits : Int) else digitsValue digits },
            rest) := by
  have hvalue
      : digits.foldl (fun value digit => value * 10 + (digit.toNat - '0'.toNat)) 0
        = digitsValue digits := by
    simp only [digitsValue, Nat.ofDigitChars_eq_foldl, Nat.mul_comm 10]
  rw [readExponent_cons, if_pos (by simpa [IsExponentLetter] using hletter), hsign]
  dsimp only
  rw [if_pos (hdigits.startsWithDigit rest), takeWhile_isDigit_append hrest hdigits.isDigit,
    dropWhile_isDigit_append hrest hdigits.isDigit, hvalue]

theorem exponentSign_of_isDigits {digits : List Char} (h : IsDigits digits) (rest : List Char)
    : exponentSign (digits ++ rest) = (false, digits ++ rest) := by
  cases digits with
  | nil => exact absurd rfl h.ne_nil
  | cons c digits =>
      have hdigit := h.isDigit c List.mem_cons_self
      rw [List.cons_append, exponentSign]
      all_goals
        intro tail heq
        rw [(List.cons.inj heq).1] at hdigit
        exact absurd hdigit (by decide)

theorem readExponent_of_exponentText {power : Int} {text : List Char}
    (h : ExponentText power text) {rest : List Char} (hrest : EndsNumber rest) (decimal : Decimal)
    : readExponent decimal (text ++ rest)
      = .ok (!text.isEmpty, { decimal with exponent := decimal.exponent + power }, rest) := by
  cases h with
  | none =>
      rw [List.nil_append, Int.add_zero]
      cases rest with
      | nil => rfl
      | cons c rest =>
          have hc := hrest c rfl
          simp only [continuesNumber, Bool.or_eq_false_iff] at hc
          simp [readExponent, hc]
  | unsigned hletter hdigits =>
      exact readExponent_of_exponentSign hletter (exponentSign_of_isDigits hdigits rest) hdigits
        hrest.startsWithDigit decimal
  | @plus letter digits hletter hdigits =>
      have hsign : exponentSign ('+' :: digits ++ rest) = (false, digits ++ rest) := rfl
      exact readExponent_of_exponentSign hletter hsign hdigits hrest.startsWithDigit decimal
  | @minus letter digits hletter hdigits =>
      have hsign : exponentSign ('-' :: digits ++ rest) = (true, digits ++ rest) := rfl
      exact readExponent_of_exponentSign hletter hsign hdigits hrest.startsWithDigit decimal

theorem FractionText.startsWithDigit_append {digits text : List Char}
    (h : FractionText digits text) {rest : List Char} (hrest : startsWithDigit rest = false)
    : startsWithDigit (text ++ rest) = false := by
  cases h with
  | none => exact hrest
  | point => rfl

/-- Neither a digit nor a point comes where an exponent may begin. -/
theorem ExponentText.head_append {power : Int} {text : List Char} (h : ExponentText power text)
    {rest : List Char} (hrest : EndsNumber rest)
    : startsWithDigit (text ++ rest) = false ∧ ∀ tail, text ++ rest ≠ '.' :: tail := by
  have hletter {letter : Char} (hletter : IsExponentLetter letter) (tail : List Char)
      : startsWithDigit (letter :: tail) = false ∧ ∀ other, letter :: tail ≠ '.' :: other := by
    rcases hletter with rfl | rfl <;> exact ⟨rfl, nofun⟩
  cases h with
  | none => exact ⟨hrest.startsWithDigit, hrest.ne_cons (by decide)⟩
  | unsigned h | plus h | minus h => exact hletter h _

-----------------------------------------------------------------------------------------
-- Whole numbers
-----------------------------------------------------------------------------------------

theorem Numeral.ofDigitChars_fraction (numeral : Numeral)
    : Nat.ofDigitChars 10 numeral.fraction (digitsValue numeral.whole) = numeral.significand := by
  rw [Numeral.significand, digitsValue, digitsValue, Nat.ofDigitChars_append]

theorem readNumber_of_numeral (numeral : Numeral) (isNegative : Bool) {rest : List Char}
    (hrest : EndsNumber rest)
    : readNumber isNegative (numeral.text ++ rest)
      = (if !numeral.fractionText.isEmpty || !numeral.exponentText.isEmpty then
            toFloat isNegative
              { significand := numeral.significand, exponent := numeral.exponent }
          else
            toInteger isNegative (digitsValue numeral.whole) numeral.skipped.length).map
          (·, rest) := by
  obtain ⟨hexponentDigit, hexponentPoint⟩ := numeral.isExponent.head_append hrest
  have hfractionDigit := numeral.isFraction.startsWithDigit_append hexponentDigit
  rw [Numeral.text, List.append_assoc, List.append_assoc, readNumber,
    readIntegerPart_of_isWhole numeral.isWhole numeral.keepsWhole hfractionDigit]
  dsimp only [bind, Except.bind]
  rw [readFraction_of_fractionText numeral.isFraction numeral.keepsFraction hexponentDigit
    hexponentPoint, numeral.ofDigitChars_fraction]
  dsimp only
  rw [readExponent_of_exponentText numeral.isExponent hrest]
  dsimp only
  rw [← Numeral.exponent]
  split
  · cases toFloat isNegative ⟨numeral.significand, numeral.exponent⟩ <;> rfl
  · cases toInteger isNegative (digitsValue numeral.whole) numeral.skipped.length <;> rfl

theorem FitsInteger.lt {isNegative : Bool} {magnitude : Nat} (h : FitsInteger isNegative magnitude)
    : magnitude < UInt64.size := by
  cases isNegative with
  | false => exact h
  | true => exact Nat.lt_of_le_of_lt h.2 (by decide)

theorem toInteger_of_fits {isNegative : Bool} {magnitude : Nat}
    (h : FitsInteger isNegative magnitude)
    : toInteger isNegative magnitude 0
      = .ok (.integer (if isNegative then -(magnitude : Int) else magnitude)) := by
  cases isNegative with
  | false => rfl
  | true =>
      have hfits : 0 < magnitude ∧ magnitude ≤ maxNegativeMagnitude := h
      simp [toInteger, hfits]

theorem toInteger_of_not_fits {isNegative : Bool} {magnitude skipped : Nat}
    (hsize : magnitude < UInt64.size) (h : skipped = 0 → ¬FitsInteger isNegative magnitude)
    : toInteger isNegative magnitude skipped
      = toFloat isNegative { significand := magnitude, exponent := skipped } := by
  cases isNegative with
  | false =>
      have hskipped : skipped ≠ 0 := fun hnone => h hnone hsize
      simp [toInteger, hskipped]
  | true =>
      have hinteger : ¬(skipped = 0 ∧ 0 < magnitude ∧ magnitude ≤ maxNegativeMagnitude) :=
        fun ⟨hnone, hfits⟩ => h hnone hfits
      simp [toInteger, hinteger]

/-- Digits alone, all of which are kept. -/
def Numeral.ofWhole {digits : List Char} (hdigits : IsWhole digits)
    (hsize : digitsValue digits < UInt64.size)
    : Numeral :=
  {
    whole := digits,
    skipped := [],
    fraction := [],
    dropped := [],
    fractionText := [],
    power := 0,
    exponentText := [],
    isWhole := (List.append_nil digits).symm ▸ hdigits,
    keepsWhole := keepsDigits_of_fits hsize,
    isFraction := .none,
    keepsFraction := keepsDigits_of_fits hsize,
    isExponent := .none
  }

/-- Digits alone that do not fit in an integer are read as a decimal too. -/
theorem Numeral.toInteger_eq (numeral : Numeral) (isNegative : Bool)
    (hfraction : numeral.fractionText = []) (hexponent : numeral.exponentText = [])
    (hinteger : IsDigits numeral.text → ¬FitsInteger isNegative (digitsValue numeral.text))
    : toInteger isNegative (digitsValue numeral.whole) numeral.skipped.length
      = toFloat isNegative
          { significand := numeral.significand, exponent := numeral.exponent } := by
  have htext : numeral.text = numeral.whole ++ numeral.skipped := by
    rw [Numeral.text, hfraction, hexponent, List.append_nil, List.append_nil]
  have hnone : numeral.fraction = [] := by
    have h := numeral.isFraction
    rw [hfraction] at h
    generalize hdigits : numeral.fraction ++ numeral.dropped = digits at h
    cases h
    exact (List.append_eq_nil_iff.1 hdigits).1
  have hpower : numeral.power = 0 := by
    have h := numeral.isExponent
    rw [hexponent] at h
    generalize numeral.power = power at h ⊢
    cases h
    rfl
  have hsize : digitsValue numeral.whole < UInt64.size := numeral.keepsWhole.fits
  rw [toInteger_of_not_fits hsize, Numeral.significand, Numeral.exponent, hnone, hpower,
    List.append_nil]
  · simp
  · intro hskipped
    rw [htext, List.length_eq_zero_iff.1 hskipped, List.append_nil] at hinteger
    have hwhole := numeral.isWhole.toIsDigits
    rw [List.length_eq_zero_iff.1 hskipped, List.append_nil] at hwhole
    exact hinteger hwhole

theorem readNumber_of_not_integer (numeral : Numeral) {isNegative : Bool}
    (hinteger : IsDigits numeral.text → ¬FitsInteger isNegative (digitsValue numeral.text))
    {rest : List Char} (hrest : EndsNumber rest)
    : readNumber isNegative (numeral.text ++ rest)
      = (toFloat isNegative
          { significand := numeral.significand, exponent := numeral.exponent }).map (·, rest) := by
  rw [readNumber_of_numeral numeral isNegative hrest]
  split
  · rfl
  · rename_i hplain
    simp only [Bool.or_eq_true, Bool.not_eq_true', not_or, Bool.not_eq_false,
      List.isEmpty_iff] at hplain
    rw [numeral.toInteger_eq isNegative hplain.1 hplain.2 hinteger]

theorem toFloat_eq_ok_iff {isNegative : Bool} {decimal : Decimal} {number : Number}
    : toFloat isNegative decimal = .ok number
      ↔ ∃ magnitude,
          Binary64.ofDecimal? decimal.significand decimal.exponent = some magnitude
          ∧ number = .float (if isNegative then magnitude.negate else magnitude) := by
  rw [toFloat]
  cases Binary64.ofDecimal? decimal.significand decimal.exponent <;> simp [eq_comm]

theorem readNumber_of_magnitudeText {isNegative : Bool} {number : Number} {text : List Char}
    (h : MagnitudeText isNegative number text) {rest : List Char} (hrest : EndsNumber rest)
    : readNumber isNegative (text ++ rest) = .ok (number, rest) := by
  cases h with
  | integer hdigits hfits =>
      have hread :=
        readNumber_of_numeral (Numeral.ofWhole hdigits hfits.lt) isNegative hrest
      simp only [Numeral.text, Numeral.ofWhole, List.append_nil, List.isEmpty_nil, Bool.not_true,
        Bool.or_false, Bool.false_eq_true, if_false, List.length_nil, toInteger_of_fits hfits]
        at hread
      exact hread
  | float numeral hinteger hmagnitude =>
      rw [readNumber_of_not_integer numeral hinteger hrest,
        toFloat_eq_ok_iff.2 ⟨_, hmagnitude, rfl⟩]
      rfl

theorem MagnitudeText.startsWithDigit {isNegative : Bool} {number : Number} {text : List Char}
    (h : MagnitudeText isNegative number text) (rest : List Char)
    : startsWithDigit (text ++ rest) = true := by
  cases h with
  | integer hdigits => exact hdigits.toIsDigits.startsWithDigit rest
  | float numeral =>
      rw [Numeral.text, List.append_assoc, List.append_assoc]
      exact numeral.isWhole.toIsDigits.startsWithDigit _

-----------------------------------------------------------------------------------------
-- Nothing else is read
-----------------------------------------------------------------------------------------

/-- Digits can always be split into those that are kept and the others, by induction on them. -/
theorem exists_keepsDigits (digits : List Char) {value : Nat} (hvalue : value < UInt64.size)
    : ∃ kept dropped, digits = kept ++ dropped ∧ KeepsDigits value kept dropped := by
  induction digits generalizing value with
  | nil => exact ⟨[], [], rfl, keepsDigits_of_fits hvalue⟩
  | cons c digits ih =>
      by_cases hfits : Nat.ofDigitChars 10 [c] value < UInt64.size
      · obtain ⟨kept, dropped, rfl, hkeeps⟩ := ih hfits
        exact ⟨c :: kept, dropped, rfl, hkeeps.fits, hkeeps.full⟩
      · refine ⟨[], c :: digits, rfl, hvalue, fun other hother => ?_⟩
        obtain rfl := Option.some.inj hother
        exact Nat.not_lt.1 hfits

theorem isDigits_takeWhile {text : List Char} (h : startsWithDigit text = true)
    : IsDigits (text.takeWhile Char.isDigit) := by
  cases text with
  | nil => cases h
  | cons c text =>
      have hdigit : c.isDigit = true := h
      refine ⟨?_, List.all_eq_true.1 List.all_takeWhile⟩
      rw [List.takeWhile_cons_of_pos hdigit]
      exact List.cons_ne_nil c _

theorem startsWithDigit_dropWhile (text : List Char)
    : startsWithDigit (text.dropWhile Char.isDigit) = false := by
  induction text with
  | nil => rfl
  | cons c text ih =>
      by_cases hdigit : c.isDigit = true
      · rwa [List.dropWhile_cons_of_pos hdigit]
      · rw [List.dropWhile_cons_of_neg hdigit]
        exact Bool.eq_false_iff.2 hdigit

theorem exists_isWhole_of_readIntegerPart {text : List Char} {read : Nat × Nat × List Char}
    (h : readIntegerPart text = .ok read)
    : ∃ digits rest, text = digits ++ rest ∧ IsWhole digits ∧ startsWithDigit rest = false := by
  unfold readIntegerPart at h
  split at h
  · cases h
  · rename_i rest
    split at h
    · cases h
    · rename_i hrest
      exact ⟨['0'], rest, rfl, by decide, Bool.eq_false_iff.2 hrest⟩
  · rename_i c rest hzero
    split at h
    · rename_i hdigit
      refine ⟨_, _, List.takeWhile_append_dropWhile.symm, ⟨isDigits_takeWhile hdigit, ?_⟩,
        startsWithDigit_dropWhile (c :: rest)⟩
      rw [List.takeWhile_cons_of_pos hdigit]
      intro hhead
      exact absurd (Option.some.inj hhead) hzero
    · cases h

theorem readFractionDigits_rest (decimal : Decimal) (text : List Char)
    : (readFractionDigits decimal text).2 = text.dropWhile Char.isDigit := by
  induction text generalizing decimal with
  | nil => rfl
  | cons c text ih =>
      by_cases hdigit : c.isDigit = true
      · simp only [readFractionDigits, hdigit, if_true, List.dropWhile_cons]
        split
        · exact ih _
        · rfl
      · simp [readFractionDigits, hdigit]

theorem exists_fractionText_of_readFraction {decimal read : Decimal} {text left : List Char}
    {hasPoint : Bool} (h : readFraction decimal text = .ok (hasPoint, read, left))
    : ∃ digits written, text = written ++ left ∧ FractionText digits written := by
  unfold readFraction at h
  split at h
  · rename_i rest
    split at h
    · rename_i hdigit
      have hleft : rest.dropWhile Char.isDigit = left := by
        rw [← readFractionDigits_rest decimal, (Prod.mk.inj (Except.ok.inj h)).2]
      refine ⟨_, _, ?_, .point (isDigits_takeWhile hdigit)⟩
      rw [List.cons_append, ← hleft, List.takeWhile_append_dropWhile]
    · cases h
  · cases h
    exact ⟨[], [], rfl, .none⟩

theorem isDigits_of_dropWhile_eq_nil {digits : List Char} (hstarts : startsWithDigit digits = true)
    (h : digits.dropWhile Char.isDigit = [])
    : IsDigits digits := by
  have hall := isDigits_takeWhile hstarts
  rwa [← List.append_nil (digits.takeWhile _), ← h, List.takeWhile_append_dropWhile] at hall

theorem exists_exponentText_of_readExponent {decimal read : Decimal} {text : List Char}
    {hasExponent : Bool} (h : readExponent decimal text = .ok (hasExponent, read, []))
    : ∃ power, ExponentText power text := by
  cases text with
  | nil => exact ⟨0, .none⟩
  | cons letter text =>
      rw [readExponent_cons] at h
      split at h
      · rename_i hexponent
        have hletter : IsExponentLetter letter := by simpa [IsExponentLetter] using hexponent
        dsimp only at h
        split at h
        · rename_i hdigit
          have hnone := (Prod.mk.inj (Prod.mk.inj (Except.ok.inj h)).2).2
          have hdigits := isDigits_of_dropWhile_eq_nil hdigit hnone
          unfold exponentSign at hdigits
          split at hdigits
          · exact ⟨_, .plus hletter hdigits⟩
          · exact ⟨_, .minus hletter hdigits⟩
          · exact ⟨_, .unsigned hletter hdigits⟩
        · cases h
      · cases h

theorem exists_numeral_of_readNumber {isNegative : Bool} {text : List Char} {number : Number}
    (h : readNumber isNegative text = .ok (number, []))
    : ∃ numeral : Numeral, numeral.text = text := by
  unfold readNumber at h
  simp only [bind_eq_ok_iff, Prod.exists] at h
  obtain ⟨significand, length, rest, hinteger, hasPoint, decimal, exponentText, hfraction,
    hasExponent, read, left, hexponent, hnumber⟩ := h
  obtain rfl : left = [] := by
    split at hnumber
    all_goals
      obtain ⟨_, _, hok⟩ := bind_eq_ok_iff.1 hnumber
      exact (Prod.mk.inj (Except.ok.inj hok)).2
  obtain ⟨wholeDigits, tail, rfl, hwhole, htail⟩ := exists_isWhole_of_readIntegerPart hinteger
  have hzero : 0 < UInt64.size := by decide
  obtain ⟨whole, skipped, rfl, hkeeps⟩ := exists_keepsDigits wholeDigits hzero
  rw [readIntegerPart_of_isWhole hwhole hkeeps htail] at hinteger
  cases hinteger
  obtain ⟨fractionDigits, fractionText, rfl, hisFraction⟩ :=
    exists_fractionText_of_readFraction hfraction
  obtain ⟨fraction, dropped, rfl, hkeepsFraction⟩ := exists_keepsDigits fractionDigits hkeeps.fits
  obtain ⟨power, hisExponent⟩ := exists_exponentText_of_readExponent hexponent
  refine
    ⟨{
        whole, skipped, fraction, dropped, fractionText, power, exponentText,
        isWhole := hwhole,
        keepsWhole := hkeeps,
        isFraction := hisFraction,
        keepsFraction := hkeepsFraction,
        isExponent := hisExponent
      }, ?_⟩
  rw [Numeral.text, List.append_assoc]

theorem FractionText.eq_nil_of_isDigit {digits text : List Char} (h : FractionText digits text)
    (htext : ∀ c ∈ text, c.isDigit = true)
    : text = [] := by
  cases h with
  | none => rfl
  | point => exact absurd (htext '.' List.mem_cons_self) (by decide)

theorem ExponentText.eq_nil_of_isDigit {power : Int} {text : List Char}
    (h : ExponentText power text) (htext : ∀ c ∈ text, c.isDigit = true)
    : text = [] := by
  cases h with
  | none => rfl
  | unsigned hletter | plus hletter | minus hletter =>
      have hdigit := htext _ List.mem_cons_self
      rcases hletter with rfl | rfl <;> exact absurd hdigit (by decide)

/-- A numeral of digits alone has neither a point nor an exponent. -/
theorem Numeral.isWhole_text (numeral : Numeral) (h : IsDigits numeral.text)
    : IsWhole numeral.text := by
  have hfraction : numeral.fractionText = [] :=
    numeral.isFraction.eq_nil_of_isDigit fun c hc => h.isDigit c (by simp [Numeral.text, hc])
  have hexponent : numeral.exponentText = [] :=
    numeral.isExponent.eq_nil_of_isDigit fun c hc => h.isDigit c (by simp [Numeral.text, hc])
  rw [Numeral.text, hfraction, hexponent, List.append_nil, List.append_nil]
  exact numeral.isWhole

/-- A number is read from the texts that write it and from no others. -/
theorem readNumber_eq_ok_iff {isNegative : Bool} {text : List Char} {number : Number}
    : readNumber isNegative text = .ok (number, []) ↔ MagnitudeText isNegative number text := by
  have hends : EndsNumber [] := nofun
  constructor
  · intro hread
    obtain ⟨numeral, rfl⟩ := exists_numeral_of_readNumber hread
    by_cases hfits : IsDigits numeral.text ∧ FitsInteger isNegative (digitsValue numeral.text)
    · have hinteger := MagnitudeText.integer (numeral.isWhole_text hfits.1) hfits.2
      have hsame := readNumber_of_magnitudeText hinteger hends
      rw [List.append_nil, hread] at hsame
      obtain rfl := (Prod.mk.inj (Except.ok.inj hsame)).1
      exact hinteger
    · have hinteger : IsDigits numeral.text → ¬FitsInteger isNegative (digitsValue numeral.text) :=
        fun hdigits hmagnitude => hfits ⟨hdigits, hmagnitude⟩
      have hfloat := readNumber_of_not_integer numeral hinteger hends
      rw [List.append_nil, hread] at hfloat
      cases hdecimal : toFloat isNegative ⟨numeral.significand, numeral.exponent⟩ with
      | error fault =>
          rw [hdecimal] at hfloat
          cases hfloat
      | ok found =>
          rw [hdecimal] at hfloat
          obtain rfl : number = found := (Prod.mk.inj (Except.ok.inj hfloat)).1
          obtain ⟨magnitude, hmagnitude, rfl⟩ := toFloat_eq_ok_iff.1 hdecimal
          exact .float numeral hinteger hmagnitude
  · intro hwritten
    have hread := readNumber_of_magnitudeText hwritten hends
    rwa [List.append_nil] at hread

end MongoConfig.Json

import MongoConfig.Json.Reader
import MongoConfig.Proofs.Text.Percent
/-! How JSON values are written.
Each relation holds of a value and a text that writes it, rule by rule of the grammar. White space
may stand around values and keys, characters of a string may be escaped, numbers may have fractions
and exponents, and at most as many arrays and objects are nested as the depth allows.
-/

namespace MongoConfig.Json

/-- Text between values that writes nothing. -/
def IsGap (text : List Char) : Prop :=
  ∀ c ∈ text, c ∈ [' ', '\t', '\n', '\r']

-----------------------------------------------------------------------------------------
-- Strings
-----------------------------------------------------------------------------------------

/-- The letters that stand for characters after a backslash. -/
def escapes : List (Char × Char) :=
  [
    ('"', '"'), ('\\', '\\'), ('/', '/'), ('b', '\x08'), ('f', '\x0c'), ('n', '\n'), ('r', '\r'),
    ('t', '\t')
  ]

/-- A number of 16 bits in hexadecimal digits. -/
inductive CodeText (code : Nat) : List Char → Prop where
  | mk {digit₁ digit₂ digit₃ digit₄ : Char} (hcode : code < 0x10000)
      (hdigit₁ : Text.Percent.IsHexDigit (code / 0x1000) digit₁)
      (hdigit₂ : Text.Percent.IsHexDigit (code / 0x100 % 16) digit₂)
      (hdigit₃ : Text.Percent.IsHexDigit (code / 0x10 % 16) digit₃)
      (hdigit₄ : Text.Percent.IsHexDigit (code % 16) digit₄)
      : CodeText code [digit₁, digit₂, digit₃, digit₄]

/-- The first one of the surrogates of a character outside the first plane. -/
def highSurrogate (c : Char) : Nat :=
  0xD800 + (c.toNat - 0x10000) / 0x400

def lowSurrogate (c : Char) : Nat :=
  0xDC00 + (c.toNat - 0x10000) % 0x400

/-- A character of a string. One outside the first plane is escaped as two surrogates. -/
inductive CharText (c : Char) : List Char → Prop where
  | plain (hquote : c ≠ '"') (hbackslash : c ≠ '\\') (hprintable : 0x20 ≤ c.toNat)
      : CharText c [c]
  | escape {letter : Char} (hescape : (letter, c) ∈ escapes) : CharText c ['\\', letter]
  | code {digits : List Char} (hcode : CodeText c.toNat digits)
      : CharText c ('\\' :: 'u' :: digits)
  | surrogates {high low : List Char} (hplane : 0x10000 ≤ c.toNat)
      (hhigh : CodeText (highSurrogate c) high) (hlow : CodeText (lowSurrogate c) low)
      : CharText c ('\\' :: 'u' :: high ++ '\\' :: 'u' :: low)

/-- The characters of a string, without the quotes around them. -/
inductive StringText : List Char → List Char → Prop where
  | nil : StringText [] []
  | cons {c : Char} {cs head rest : List Char} (hhead : CharText c head)
      (hrest : StringText cs rest)
      : StringText (c :: cs) (head ++ rest)

/-- The key of a member, with the white space up to the colon. -/
inductive KeyText : String → List Char → Prop where
  | mk {chars before text after : List Char} (hbefore : IsGap before)
      (hchars : StringText chars text) (hafter : IsGap after)
      : KeyText (String.ofList chars) (before ++ '"' :: text ++ '"' :: after)

/-- Whether a character writes itself. -/
def isPlain (c : Char) : Bool :=
  c != '"' && c != '\\' && 0x20 ≤ c.toNat

theorem stringText_of_isPlain {chars : List Char} (h : chars.all isPlain = true)
    : StringText chars chars := by
  induction chars with
  | nil => exact .nil
  | cons c chars ih =>
      rw [List.all_cons, Bool.and_eq_true] at h
      obtain ⟨hc, hchars⟩ := h
      simp only [isPlain, Bool.and_eq_true, bne_iff_ne, decide_eq_true_eq] at hc
      exact .cons (.plain hc.1.1 hc.1.2 hc.2) (ih hchars)

theorem keyText_of_isPlain {name : String} (h : name.toList.all isPlain = true)
    : KeyText name ('"' :: name.toList ++ ['"']) := by
  have hkey : KeyText (String.ofList name.toList) ([] ++ '"' :: name.toList ++ '"' :: []) :=
    .mk nofun (stringText_of_isPlain h) nofun
  rwa [String.ofList_toList] at hkey

-----------------------------------------------------------------------------------------
-- Numbers
-----------------------------------------------------------------------------------------

/-- One digit or more. -/
structure IsDigits (text : List Char) : Prop where
  ne_nil : text ≠ []
  isDigit : ∀ c ∈ text, c.isDigit = true

instance (text : List Char) : Decidable (IsDigits text) :=
  decidable_of_iff (text ≠ [] ∧ text.all Char.isDigit = true)
    ⟨fun h => ⟨h.1, List.all_eq_true.1 h.2⟩, fun h => ⟨h.ne_nil, List.all_eq_true.2 h.isDigit⟩⟩

/-- The digits of an integer. Only zero itself starts with a zero. -/
structure IsWhole (text : List Char) : Prop extends IsDigits text where
  eq_zero : '0' ∈ text.head? → text = ['0']

instance (text : List Char) : Decidable (IsWhole text) :=
  decidable_of_iff (IsDigits text ∧ ('0' ∈ text.head? → text = ['0']))
    ⟨fun h => ⟨h.1, h.2⟩, fun h => ⟨h.toIsDigits, h.eq_zero⟩⟩

def digitsValue (digits : List Char) : Nat :=
  Nat.ofDigitChars 10 digits 0

/-- Of the digits after a value the first ones are kept: what they write with it fits in 64 bits,
and with one digit more it would not. -/
structure KeepsDigits (value : Nat) (kept dropped : List Char) : Prop where
  fits : Nat.ofDigitChars 10 kept value < UInt64.size
  full : ∀ c ∈ dropped.head?, UInt64.size ≤ Nat.ofDigitChars 10 (kept ++ [c]) value

instance (value : Nat) (kept dropped : List Char) : Decidable (KeepsDigits value kept dropped) :=
  decidable_of_iff
    (Nat.ofDigitChars 10 kept value < UInt64.size
      ∧ (dropped.head?.all fun c => decide (UInt64.size ≤ Nat.ofDigitChars 10 (kept ++ [c]) value)))
    (by
      rw [Option.all_eq_true]
      exact
        ⟨fun h => ⟨h.1, fun c hc => of_decide_eq_true (h.2 c hc)⟩,
          fun h => ⟨h.fits, fun c hc => decide_eq_true (h.full c hc)⟩⟩)

/-- Digits after a point. Where there are none, there is no point either. -/
inductive FractionText : List Char → List Char → Prop where
  | none : FractionText [] []
  | point {digits : List Char} (hdigits : IsDigits digits) : FractionText digits ('.' :: digits)

def IsExponentLetter (c : Char) : Prop :=
  c = 'e' ∨ c = 'E'

/-- The power of ten that an exponent writes. -/
inductive ExponentText : Int → List Char → Prop where
  | none : ExponentText 0 []
  | unsigned {letter : Char} {digits : List Char} (hletter : IsExponentLetter letter)
      (hdigits : IsDigits digits)
      : ExponentText (digitsValue digits) (letter :: digits)
  | plus {letter : Char} {digits : List Char} (hletter : IsExponentLetter letter)
      (hdigits : IsDigits digits)
      : ExponentText (digitsValue digits) (letter :: '+' :: digits)
  | minus {letter : Char} {digits : List Char} (hletter : IsExponentLetter letter)
      (hdigits : IsDigits digits)
      : ExponentText (-digitsValue digits) (letter :: '-' :: digits)

/-- A decimal as it is written, without its sign. Digits that are not kept make no difference to the
significand; those before the point still count for the size. -/
structure Numeral where
  whole : List Char
  skipped : List Char
  fraction : List Char
  dropped : List Char
  fractionText : List Char
  power : Int
  exponentText : List Char
  isWhole : IsWhole (whole ++ skipped)
  keepsWhole : KeepsDigits 0 whole skipped
  isFraction : FractionText (fraction ++ dropped) fractionText
  keepsFraction : KeepsDigits (digitsValue whole) fraction dropped
  isExponent : ExponentText power exponentText

namespace Numeral

def text (numeral : Numeral) : List Char :=
  numeral.whole ++ numeral.skipped ++ numeral.fractionText ++ numeral.exponentText

def significand (numeral : Numeral) : Nat :=
  digitsValue (numeral.whole ++ numeral.fraction)

def exponent (numeral : Numeral) : Int :=
  numeral.skipped.length - numeral.fraction.length + numeral.power

end Numeral

/-- Whether a sign and a magnitude make an integer of 64 bits. There is no negative zero. -/
def FitsInteger (isNegative : Bool) (magnitude : Nat) : Prop :=
  if isNegative then 0 < magnitude ∧ magnitude ≤ UInt64.size / 2 else magnitude < UInt64.size

instance (isNegative : Bool) (magnitude : Nat) : Decidable (FitsInteger isNegative magnitude) :=
  match isNegative with
  | true => inferInstanceAs (Decidable (0 < magnitude ∧ magnitude ≤ UInt64.size / 2))
  | false => inferInstanceAs (Decidable (magnitude < UInt64.size))

/-- What stands behind the sign of a number. Digits alone write an integer, if it fits in 64 bits.
Any other text writes the floating point number of a decimal, unless that overflows. -/
inductive MagnitudeText (isNegative : Bool) : Number → List Char → Prop where
  | integer {digits : List Char} (hdigits : IsWhole digits)
      (hfits : FitsInteger isNegative (digitsValue digits))
      : MagnitudeText isNegative
          (.integer (if isNegative then -digitsValue digits else digitsValue digits)) digits
  | float (numeral : Numeral) {magnitude : Binary64}
      (hinteger : IsDigits numeral.text → ¬FitsInteger isNegative (digitsValue numeral.text))
      (hmagnitude : Binary64.ofDecimal? numeral.significand numeral.exponent = some magnitude)
      : MagnitudeText isNegative (.float (if isNegative then magnitude.negate else magnitude))
          numeral.text

inductive NumberText : Number → List Char → Prop where
  | positive {number : Number} {text : List Char} (hmagnitude : MagnitudeText false number text)
      : NumberText number text
  | negative {number : Number} {text : List Char} (hmagnitude : MagnitudeText true number text)
      : NumberText number ('-' :: text)

-----------------------------------------------------------------------------------------
-- Values
-----------------------------------------------------------------------------------------

mutual
/-- A value in which at most `depth` arrays and objects are nested. -/
inductive ValueText : Nat → Draft → List Char → Prop where
  | null {depth : Nat} : ValueText depth .null ['n', 'u', 'l', 'l']
  | yes {depth : Nat} : ValueText depth (.bool true) ['t', 'r', 'u', 'e']
  | no {depth : Nat} : ValueText depth (.bool false) ['f', 'a', 'l', 's', 'e']
  | number {depth : Nat} {number : Number} {text : List Char} (hnumber : NumberText number text)
      : ValueText depth (.number number) text
  | string {depth : Nat} {chars text : List Char} (hchars : StringText chars text)
      : ValueText depth (.string (String.ofList chars)) ('"' :: text ++ ['"'])
  | emptyArray {depth : Nat} {gap : List Char} (hgap : IsGap gap)
      : ValueText (depth + 1) (.array .closed) ('[' :: gap ++ [']'])
  | array {depth : Nat} {items : DraftItems} {text : List Char}
      (hitems : ItemsText depth items text)
      : ValueText (depth + 1) (.array items) ('[' :: text ++ [']'])
  | emptyObject {depth : Nat} {gap : List Char} (hgap : IsGap gap)
      : ValueText (depth + 1) (.object .closed) ('\x7b' :: gap ++ ['\x7d'])
  | object {depth : Nat} {members : DraftMembers} {text : List Char}
      (hmembers : MembersText depth members text)
      : ValueText (depth + 1) (.object members) ('\x7b' :: text ++ ['\x7d'])
  | spaced {depth : Nat} {draft : Draft} {before text after : List Char} (hbefore : IsGap before)
      (hvalue : ValueText depth draft text) (hafter : IsGap after)
      : ValueText depth draft (before ++ text ++ after)

/-- One item or more, with commas between them. -/
inductive ItemsText : Nat → DraftItems → List Char → Prop where
  | last {depth : Nat} {draft : Draft} {text : List Char} (hvalue : ValueText depth draft text)
      : ItemsText depth (.item draft .closed) text
  | item {depth : Nat} {draft : Draft} {items : DraftItems} {text rest : List Char}
      (hvalue : ValueText depth draft text) (hrest : ItemsText depth items rest)
      : ItemsText depth (.item draft items) (text ++ ',' :: rest)

/-- One member or more, with commas between them. -/
inductive MembersText : Nat → DraftMembers → List Char → Prop where
  | last {depth : Nat} {name : String} {draft : Draft} {key text : List Char}
      (hkey : KeyText name key) (hvalue : ValueText depth draft text)
      : MembersText depth (.member name draft .closed) (key ++ ':' :: text)
  | member {depth : Nat} {name : String} {draft : Draft} {members : DraftMembers}
      {key text rest : List Char} (hkey : KeyText name key) (hvalue : ValueText depth draft text)
      (hrest : MembersText depth members rest)
      : MembersText depth (.member name draft members) (key ++ ':' :: text ++ ',' :: rest)
end

theorem valueText_of_isPlain {depth : Nat} {text : String} (h : text.toList.all isPlain = true)
    : ValueText depth (.string text) ('"' :: text.toList ++ ['"']) := by
  have hvalue
      : ValueText depth (.string (String.ofList text.toList)) ('"' :: text.toList ++ ['"']) :=
    .string (stringText_of_isPlain h)
  rwa [String.ofList_toList] at hvalue

/-- A text that is a JSON document. -/
def DocumentText (draft : Draft) (text : String) : Prop :=
  ValueText maxDepth draft text.toList

end MongoConfig.Json

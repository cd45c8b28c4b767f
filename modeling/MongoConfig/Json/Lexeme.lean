import MongoConfig.Json.Draft
/-! The smallest parts of a JSON text: words, numbers and strings.
Each reader returns what it read and the rest of the text. A number keeps as many digits as fit in
64 bits; digits after these only count for the size of the number.
-/

namespace MongoConfig.Json

def isSpace (c : Char) : Bool :=
  c = ' ' || c = '\n' || c = '\t' || c = '\r'

def skipSpace (text : List Char) : List Char :=
  text.dropWhile isSpace

/-- Reads the rest of a word. -/
def readWord : List Char → List Char → Except Fault (List Char)
  | [], text => .ok text
  | _ :: _, [] => .error .ended
  | expected :: word, c :: rest => if c = expected then readWord word rest else .error .malformed

def maxSignificand : Nat :=
  18446744073709551615

/-- The significand with one more digit, if it still fits. Reduction leaves it alone, or it would
count up to the limit. -/
@[irreducible]
def appendDigit? (significand : Nat) (digit : Char) : Option Nat :=
  let appended := significand * 10 + (digit.toNat - '0'.toNat)
  if appended ≤ maxSignificand then some appended else none

/-- A decimal as it is being read. -/
structure Decimal where
  significand : Nat
  exponent : Int
deriving DecidableEq, Repr

/-- A row of digits: the significand as far as it fits, the number of digits that did not, and the
rest of the text. -/
def readIntegerDigits (significand skipped : Nat) : List Char → Nat × Nat × List Char
  | [] => (significand, skipped, [])
  | c :: rest =>
      if c.isDigit then
        match skipped, appendDigit? significand c with
        | 0, some appended => readIntegerDigits appended 0 rest
        | _, _ => readIntegerDigits significand (skipped + 1) rest
      else
        (significand, skipped, c :: rest)

/-- The digits after a point. Once a digit does not fit, it and all later ones are dropped. -/
def readFractionDigits (decimal : Decimal) : List Char → Decimal × List Char
  | [] => (decimal, [])
  | c :: rest =>
      if c.isDigit then
        match appendDigit? decimal.significand c with
        | some appended =>
            readFractionDigits { significand := appended, exponent := decimal.exponent - 1 } rest
        | none => (decimal, rest.dropWhile Char.isDigit)
      else
        (decimal, c :: rest)

def startsWithDigit : List Char → Bool
  | [] => false
  | c :: _ => c.isDigit

/-- The fault of a text in which a digit should come next. -/
def digitFault : List Char → Fault
  | [] => .ended
  | _ :: _ => .malformed

/-- Reads a point and the digits after it, if there is one; tells whether there was. -/
def readFraction (decimal : Decimal) (text : List Char)
    : Except Fault (Bool × Decimal × List Char) :=
  match text with
  | '.' :: rest =>
      if startsWithDigit rest then
        .ok (true, readFractionDigits decimal rest)
      else
        .error (digitFault rest)
  | _ => .ok (false, decimal, text)

/-- Reads an exponent, if there is one; tells whether there was. -/
def readExponent (decimal : Decimal) (text : List Char)
    : Except Fault (Bool × Decimal × List Char) :=
  match text with
  | [] => .ok (false, decimal, [])
  | c :: rest =>
      if c = 'e' || c = 'E' then
        let (isNegative, digits) :=
          match rest with
          | '+' :: digits => (false, digits)
          | '-' :: digits => (true, digits)
          | digits => (false, digits)
        if startsWithDigit digits then
          let written :=
            (digits.takeWhile Char.isDigit).foldl
              (fun value digit => value * 10 + (digit.toNat - '0'.toNat)) 0
          let shift := if isNegative then -(written : Int) else written
          .ok
            (true, { decimal with exponent := decimal.exponent + shift },
              digits.dropWhile Char.isDigit)
        else
          .error (digitFault digits)
      else
        .ok (false, decimal, c :: rest)

/-- The integer part of a number, which has no leading zero unless it is zero. -/
def readIntegerPart (text : List Char) : Except Fault (Nat × Nat × List Char) :=
  match text with
  | [] => .error .ended
  | '0' :: rest => if startsWithDigit rest then .error .malformed else .ok (0, 0, rest)
  | c :: rest => if c.isDigit then .ok (readIntegerDigits 0 0 (c :: rest)) else .error .malformed

/-- The floating point number of a decimal. One that overflows is not JSON that can be read. -/
def toFloat (isNegative : Bool) (decimal : Decimal) : Except Fault Number :=
  match Binary64.ofDecimal? decimal.significand decimal.exponent with
  | some value => .ok (.float (if isNegative then value.negate else value))
  | none => .error .malformed

/-- The least integer of 64 bits has this magnitude. -/
def maxNegativeMagnitude : Nat :=
  9223372036854775808

/-- The number of a decimal that was written as an integer. A negative zero and an integer that
does not fit in 64 bits are floating point numbers. -/
def toInteger (isNegative : Bool) (significand skipped : Nat) : Except Fault Number :=
  if skipped = 0 ∧ !isNegative then
    .ok (.integer significand)
  else if skipped = 0 ∧ 0 < significand ∧ significand ≤ maxNegativeMagnitude then
    .ok (.integer (-(significand : Int)))
  else
    toFloat isNegative { significand, exponent := skipped }

/-- Reads a number after its sign. -/
def readNumber (isNegative : Bool) (text : List Char)
    : Except Fault (Number × List Char) := do
  let (significand, skipped, rest) ← readIntegerPart text
  let (hasPoint, decimal, rest) ← readFraction { significand, exponent := skipped } rest
  let (hasExponent, decimal, rest) ← readExponent decimal rest
  let number ←
    if hasPoint || hasExponent then
      toFloat isNegative decimal
    else
      toInteger isNegative significand skipped
  .ok (number, rest)

def hexDigit? (c : Char) : Option Nat :=
  if c.isDigit then some (c.toNat - '0'.toNat)
  else if 'a' ≤ c && c ≤ 'f' then some (c.toNat - 'a'.toNat + 10)
  else if 'A' ≤ c && c ≤ 'F' then some (c.toNat - 'A'.toNat + 10)
  else none

/-- The number that four hexadecimal digits write. -/
def hexQuad? (a b c d : Char) : Option Nat :=
  match hexDigit? a, hexDigit? b, hexDigit? c, hexDigit? d with
  | some a, some b, some c, some d => some (((a * 16 + b) * 16 + c) * 16 + d)
  | _, _, _, _ => none

/-- Four hexadecimal digits take four bytes; a text with fewer bytes left has ended. -/
def hexFault (text : List Char) : Fault :=
  if text.foldl (fun size c => size + c.utf8Size) 0 < 4 then .ended else .malformed

def readHex : List Char → Except Fault (Nat × List Char)
  | a :: b :: c :: d :: rest =>
      match hexQuad? a b c d with
      | some value => .ok (value, rest)
      | none => .error .malformed
  | text => .error (hexFault text)

def isHighSurrogate (code : Nat) : Bool :=
  0xD800 ≤ code && code ≤ 0xDBFF

def isLowSurrogate (code : Nat) : Bool :=
  0xDC00 ≤ code && code ≤ 0xDFFF

/-- Reads the low half of a surrogate pair. -/
def readLowSurrogate (high : Nat) : List Char → Except Fault (Char × List Char)
  | '\\' :: 'u' :: rest => do
      let (low, rest) ← readHex rest
      if isLowSurrogate low then
        .ok (Char.ofNat (0x10000 + (high - 0xD800) * 0x400 + (low - 0xDC00)), rest)
      else
        .error .malformed
  | [] => .error .ended
  | ['\\'] => .error .ended
  | _ => .error .malformed

/-- Reads a character after `\u`. Two surrogates in a row write one character, and a surrogate
alone writes none. -/
def readUnicodeEscape (text : List Char) : Except Fault (Char × List Char) := do
  let (code, rest) ← readHex text
  if isHighSurrogate code then
    readLowSurrogate code rest
  else if isLowSurrogate code then
    .error .malformed
  else
    .ok (Char.ofNat code, rest)

/-- Reads a character after a backslash. -/
def readEscape : List Char → Except Fault (Char × List Char)
  | [] => .error .ended
  | c :: rest =>
      match c with
      | '"' => .ok ('"', rest)
      | '\\' => .ok ('\\', rest)
      | '/' => .ok ('/', rest)
      | 'b' => .ok ('\x08', rest)
      | 'f' => .ok ('\x0c', rest)
      | 'n' => .ok ('\n', rest)
      | 'r' => .ok ('\r', rest)
      | 't' => .ok ('\t', rest)
      | 'u' => readUnicodeEscape rest
      | _ => .error .malformed

/-- Reads a string after its opening quote, character by character; `fuel` bounds their number. -/
def readStringFrom : Nat → List Char → Except Fault (List Char × List Char)
  | 0, _ => .error .ended
  | _ + 1, [] => .error .ended
  | fuel + 1, c :: rest =>
      if c = '"' then
        .ok ([], rest)
      else if c = '\\' then do
        let (escaped, rest) ← readEscape rest
        let (tail, rest) ← readStringFrom fuel rest
        .ok (escaped :: tail, rest)
      else if c.toNat < 0x20 then
        .error .malformed
      else do
        let (tail, rest) ← readStringFrom fuel rest
        .ok (c :: tail, rest)

/-- Reads a string after its opening quote. -/
def readString (text : List Char) : Except Fault (String × List Char) :=
  (readStringFrom (text.length + 1) text).map fun found => (String.ofList found.1, found.2)

end MongoConfig.Json

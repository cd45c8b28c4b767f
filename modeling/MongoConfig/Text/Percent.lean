import MongoConfig.Text.Split
import MongoConfig.Text.Utf8
/-! Percent escapes in the parts of a URI, and lists of options in its query.
An escape stands for one byte; a percent sign without two hexadecimal digits after it stands for
itself. A plus sign is a space, and it is taken for one before any escape is read, so that an
escaped plus sign stays a plus sign.
-/

namespace MongoConfig.Text.Percent

def hexDigit? (byte : UInt8) : Option Nat :=
  let n := byte.toNat
  if 0x30 ≤ n && n ≤ 0x39 then some (n - 0x30)
  else if 0x41 ≤ n && n ≤ 0x46 then some (n - 0x41 + 10)
  else if 0x61 ≤ n && n ≤ 0x66 then some (n - 0x61 + 10)
  else none

/-- The byte that an escape with these two digits stands for. -/
def escaped? (high low : UInt8) : Option UInt8 :=
  match hexDigit? high, hexDigit? low with
  | some h, some l => some (UInt8.ofNat (16 * h + l))
  | _, _ => none

def decodeBytes : List UInt8 → List UInt8
  | [] => []
  | [a] => [a]
  | [a, b] => [a, b]
  | a :: b :: c :: rest =>
      if a = 0x25 then
        match escaped? b c with
        | some byte => byte :: decodeBytes rest
        | none => a :: decodeBytes (b :: c :: rest)
      else
        a :: decodeBytes (b :: c :: rest)

def plusToSpace (c : Char) : Char :=
  if c = '+' then ' ' else c

/-- The text that the escapes of a part stand for. Plus signs stay as they are. -/
def decodeEscapes (text : List Char) : List Char :=
  Utf8.decodeLossy (decodeBytes (Utf8.encode text))

/-- The text that an escaped part stands for. -/
def decode (text : List Char) : List Char :=
  decodeEscapes (text.map plusToSpace)

/-- The text that a part stands for, if its escapes write UTF-8. Plus signs stay as they are. -/
def decodeStrict? (text : List Char) : Option (List Char) :=
  Utf8.decode? (decodeBytes (Utf8.encode text))

/-- Letters, digits and four signs stand for themselves in every part of a URI. -/
def isUnreserved (byte : UInt8) : Bool :=
  let c := Char.ofNat byte.toNat
  c.isAlphanum || c = '-' || c = '.' || c = '_' || c = '~'

def upperHexDigit (value : Nat) : Char :=
  if value < 10 then Char.ofNat (0x30 + value) else Char.ofNat (0x41 + value - 10)

def escape (byte : UInt8) : List Char :=
  ['%', upperHexDigit (byte.toNat / 16), upperHexDigit (byte.toNat % 16)]

def escapeByte (byte : UInt8) : List Char :=
  if isUnreserved byte then [Char.ofNat byte.toNat] else escape byte

/-- The text with every byte escaped that is not unreserved. -/
def encode (text : List Char) : List Char :=
  (Utf8.encode text).flatMap escapeByte

/-- Letters, digits and four signs stand for themselves in the fields of a form. -/
def isFormSafe (byte : UInt8) : Bool :=
  let c := Char.ofNat byte.toNat
  c.isAlphanum || c = '*' || c = '-' || c = '.' || c = '_'

def formByte (byte : UInt8) : List Char :=
  if byte = 0x20 then ['+']
  else if isFormSafe byte then [Char.ofNat byte.toNat]
  else escape byte

/-- The text as a field of a form (`application/x-www-form-urlencoded`): a space is a plus sign. -/
def encodeForm (text : List Char) : List Char :=
  (Utf8.encode text).flatMap formByte

/-- The key and the value of one option; an option without an equals sign has an empty value. -/
def readPair (option : List Char) : String × String :=
  let cut := (cutFirst '=' option).getD (option, [])
  (String.ofList (decode cut.1), String.ofList (decode cut.2))

/-- The decoded options of a query in order. Empty ones are skipped. -/
def readPairs (query : List Char) : List (String × String) :=
  ((pieces '&' query).filter (!·.isEmpty)).map readPair

def writePair (pair : String × String) : List Char :=
  encodeForm pair.1.toList ++ '=' :: encodeForm pair.2.toList

/-- The query that gives the options in order. -/
def writePairs (pairs : List (String × String)) : List Char :=
  ['&'].intercalate (pairs.map writePair)

end MongoConfig.Text.Percent

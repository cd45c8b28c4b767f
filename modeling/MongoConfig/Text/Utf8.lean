/-! Reading bytes as UTF-8.
The reader goes through the bytes once. It knows which bytes may come next, so a sequence that
breaks off is noticed at its first wrong byte, and that byte starts anew. Every character and
every longest broken sequence yields one item; a lenient reader shows the latter as U+FFFD and a
strict one refuses the whole.
-/

namespace MongoConfig.Text.Utf8

/-- A character whose first bytes have been read: the number of bytes still missing, the bits
read so far, and the bounds of the next byte. -/
structure Pending where
  missing : Nat
  bits : Nat
  low : Nat
  high : Nat

/-- What a byte leads to. -/
inductive Step where
  | done (c : Char)
  | more (pending : Pending)
  | wrong

/-- A byte where a character starts. The bounds of the second byte keep out overlong forms,
surrogates and everything above U+10FFFF. -/
def start (byte : Nat) : Step :=
  if byte < 0x80 then .done (Char.ofNat byte)
  else if byte < 0xC2 then .wrong
  else if byte < 0xE0 then .more ⟨1, byte - 0xC0, 0x80, 0xBF⟩
  else if byte = 0xE0 then .more ⟨2, 0x0, 0xA0, 0xBF⟩
  else if byte = 0xED then .more ⟨2, 0xD, 0x80, 0x9F⟩
  else if byte < 0xF0 then .more ⟨2, byte - 0xE0, 0x80, 0xBF⟩
  else if byte = 0xF0 then .more ⟨3, 0x0, 0x90, 0xBF⟩
  else if byte < 0xF4 then .more ⟨3, byte - 0xF0, 0x80, 0xBF⟩
  else if byte = 0xF4 then .more ⟨3, 0x4, 0x80, 0x8F⟩
  else .wrong

/-- A byte within the bounds of a pending character. -/
def Pending.extend (pending : Pending) (byte : Nat) : Step :=
  let bits := pending.bits * 64 + (byte - 0x80)
  if pending.missing = 1 then
    .done (Char.ofNat bits)
  else
    .more ⟨pending.missing - 1, bits, 0x80, 0xBF⟩

/-- The items that a step completes, and the state after it; `none` is a broken sequence. -/
def Step.outcome : Step → List (Option Char) × Option Pending
  | .done c => ([some c], none)
  | .more pending => ([], some pending)
  | .wrong => ([none], none)

def advance (pending : Option Pending) (byte : Nat)
    : List (Option Char) × Option Pending :=
  match pending with
  | none => (start byte).outcome
  | some pending =>
      if pending.low ≤ byte && byte ≤ pending.high then
        (pending.extend byte).outcome
      else
        (none :: (start byte).outcome.1, (start byte).outcome.2)

def scanFrom (pending : Option Pending) : List UInt8 → List (Option Char)
  | [] => if pending.isSome then [none] else []
  | byte :: rest =>
      (advance pending byte.toNat).1 ++ scanFrom (advance pending byte.toNat).2 rest

/-- The characters that the bytes write, with `none` for each longest broken sequence. -/
def scan (bytes : List UInt8) : List (Option Char) :=
  scanFrom none bytes

/-- The text that the bytes write, with U+FFFD for each longest broken sequence. -/
def decodeLossy (bytes : List UInt8) : List Char :=
  (scan bytes).map (·.getD '\ufffd')

/-- The text that the bytes write, if no sequence is broken. -/
def decode? (bytes : List UInt8) : Option (List Char) :=
  (scan bytes).mapM id

/-- The bytes that write a text. -/
def encode (text : List Char) : List UInt8 :=
  text.flatMap String.utf8EncodeChar

end MongoConfig.Text.Utf8

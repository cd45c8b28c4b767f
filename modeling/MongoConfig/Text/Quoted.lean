import MongoConfig.Text.Quoted.Table
/-! Quoted texts for messages.
Quotes and backslashes get a backslash, four control characters have a letter of their own, and
every other character without a shape is shown by its code point in hexadecimal digits.
-/

namespace MongoConfig.Text

def isShapeless (c : Char) : Bool :=
  shapelessRuns.any fun run => run.1 ≤ c.toNat && c.toNat ≤ run.2

def escapeChar (c : Char) : List Char :=
  if c = '"' then ['\\', '"']
  else if c = '\\' then ['\\', '\\']
  else if c = '\n' then ['\\', 'n']
  else if c = '\r' then ['\\', 'r']
  else if c = '\t' then ['\\', 't']
  else if c.toNat = 0 then ['\\', '0']
  else if isShapeless c then
    ['\\', 'u', '\x7b'] ++ Nat.toDigits 16 c.toNat ++ ['\x7d']
  else [c]

/-- The text between quotes, so that a reader sees where it starts and ends. -/
def quoted (text : String) : String :=
  String.ofList (['"'] ++ text.toList.flatMap escapeChar ++ ['"'])

end MongoConfig.Text

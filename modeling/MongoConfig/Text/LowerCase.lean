import MongoConfig.Text.LowerCase.Table
/-! Lower case of characters and of whole texts.
A character goes to lower case on its own, except the capital sigma: at the end of a word it
becomes the final form. A word ends where the nearest characters that are not case-ignorable are
cased before and not cased after.
-/

namespace MongoConfig.Text

def isCased (c : Char) : Bool :=
  casedRuns.any fun run => run.1 ≤ c.toNat && c.toNat ≤ run.2

def isCaseIgnorable (c : Char) : Bool :=
  caseIgnorableRuns.any fun run => run.1 ≤ c.toNat && c.toNat ≤ run.2

/-- The simple lower case of a code point; one that no run covers is its own lower case. -/
def lowerCode (code : Nat) : Nat :=
  match lowerRuns.find? (·.covers code) with
  | some run => (code + run.offset).toNat
  | none => code

/-- The lower case of one character. Only the capital i with a dot above needs two characters. -/
def lowerChar (c : Char) : List Char :=
  if c.toNat = 0x130 then
    ['i', '\u0307']
  else
    [Char.ofNat (lowerCode c.toNat)]

/-- The lower case of every character, each on its own. -/
def lowerEach (text : List Char) : List Char :=
  text.flatMap lowerChar

def startsCased (text : List Char) : Bool :=
  match text.dropWhile isCaseIgnorable with
  | [] => false
  | c :: _ => isCased c

/-- The lower case of what is left of a text; `inWord` tells whether the nearest character before
it that is not case-ignorable is cased. -/
def lowerFrom (inWord : Bool) : List Char → List Char
  | [] => []
  | c :: rest =>
      let lowered :=
        if c.toNat = 0x3A3 then
          if inWord && !startsCased rest then ['\u03c2'] else ['\u03c3']
        else
          lowerChar c
      lowered ++ lowerFrom (if isCaseIgnorable c then inWord else isCased c) rest

/-- The lower case of a text. -/
def lower (text : List Char) : List Char :=
  lowerFrom false text

end MongoConfig.Text

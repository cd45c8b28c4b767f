/-! Blank characters and trimming.
A blank is a character with the property White_Space. The zero width space and the byte order
mark lack that property, so they are kept where a tab or an ideographic space is cut off.
-/

namespace MongoConfig.Text

/-- The code points with the property White_Space, as first and last members of runs. -/
def blankRuns : List (Nat × Nat) :=
  [
    (0x9, 0xD), (0x20, 0x20), (0x85, 0x85), (0xA0, 0xA0), (0x1680, 0x1680), (0x2000, 0x200A),
    (0x2028, 0x2029), (0x202F, 0x202F), (0x205F, 0x205F), (0x3000, 0x3000)
  ]

def isBlank (c : Char) : Bool :=
  blankRuns.any fun run => run.1 ≤ c.toNat && c.toNat ≤ run.2

/-- Every character that core counts as white space is a blank. -/
theorem isBlank_of_isWhitespace {c : Char} (h : c.isWhitespace = true)
    : isBlank c = true := by
  simp only [Char.isWhitespace, Bool.or_eq_true, decide_eq_true_eq] at h
  rcases h with ((rfl | rfl) | rfl) | rfl <;> decide

def trimStart (text : List Char) : List Char :=
  text.dropWhile isBlank

def trimEnd (text : List Char) : List Char :=
  (text.reverse.dropWhile isBlank).reverse

/-- Cuts the blanks off both ends; blanks inside the text are kept. -/
def trim (text : List Char) : List Char :=
  trimEnd (trimStart text)

/-- Whether nothing but blanks is written. -/
def isAllBlank (text : String) : Bool :=
  (trim text.toList).isEmpty

@[simp]
theorem trimStart_nil : trimStart [] = [] :=
  rfl

@[simp]
theorem trimEnd_nil : trimEnd [] = [] :=
  rfl

@[simp]
theorem trim_nil : trim [] = [] :=
  rfl

theorem trimStart_of_not_blank {c : Char} (h : isBlank c = false) (rest : List Char)
    : trimStart (c :: rest) = c :: rest := by
  simp [trimStart, h]

theorem trimEnd_of_not_blank {c : Char} (h : isBlank c = false) (front : List Char)
    : trimEnd (front ++ [c]) = front ++ [c] := by
  simp [trimEnd, h]

end MongoConfig.Text

/-! Upper case as far as it is written in ASCII.
Names that are compared without regard to case hold ASCII characters only, so a text matches one
exactly if its upper case is written in ASCII and equals the name.
-/

namespace MongoConfig.Text

/-- The characters outside ASCII whose upper case is written in ASCII: the sharp s, the dotless i,
the long s and the ligatures of f and of s with t. -/
def foreignCapitals : List (Nat × List Char) :=
  [
    (0xDF, ['S', 'S']),
    (0x131, ['I']),
    (0x17F, ['S']),
    (0xFB00, ['F', 'F']),
    (0xFB01, ['F', 'I']),
    (0xFB02, ['F', 'L']),
    (0xFB03, ['F', 'F', 'I']),
    (0xFB04, ['F', 'F', 'L']),
    (0xFB05, ['S', 'T']),
    (0xFB06, ['S', 'T'])
  ]

/-- The upper case of a character, if it is written in ASCII. -/
def capitals? (c : Char) : Option (List Char) :=
  if c.toNat < 0x80 then
    some [c.toUpper]
  else
    (foreignCapitals.find? (·.1 == c.toNat)).map (·.2)

/-- The upper case of a text, if all of it is written in ASCII. -/
def upper? : List Char → Option (List Char)
  | [] => some []
  | c :: rest =>
      match capitals? c, upper? rest with
      | some front, some back => some (front ++ back)
      | _, _ => none

end MongoConfig.Text

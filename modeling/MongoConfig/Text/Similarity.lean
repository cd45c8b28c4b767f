/-! How alike two words are.
Equal letters of two words are paired if they do not stand too far apart. Three shares count alike:
that of the paired letters in either word, and that of the pairs which keep to the order of those
made before. Each letter of a common start then adds a tenth of what is missing to full likeness.
-/

namespace MongoConfig.Text

/-- A number from zero to one, as a fraction. -/
structure Share where
  part : Nat
  whole : Nat
deriving DecidableEq, Repr

namespace Share

def nothing : Share :=
  ⟨0, 1⟩

def isLess (first second : Share) : Bool :=
  first.part * second.whole < second.part * first.whole

/-- Adds tenths of what is missing to the whole. Ten of them make it full. -/
def raised (share : Share) (tenths : Nat) : Share :=
  ⟨10 * share.part + min tenths 10 * (share.whole - share.part), 10 * share.whole⟩

/-- A share that is within the whole stays so. -/
theorem raised_part_le {share : Share} (tenths : Nat) (h : share.part ≤ share.whole)
    : (share.raised tenths).part ≤ (share.raised tenths).whole := by
  have := Nat.mul_le_mul_right (share.whole - share.part) (Nat.min_le_right tenths 10)
  simp only [raised]
  omega

end Share

/-- The letters of a word, some of which are paired with letters of another word. A pair crosses
if its letter stands before that of the pair made last. -/
structure Pairing where
  free : List (Char × Nat)
  pairs : Nat
  crossings : Nat
  last : Nat
deriving DecidableEq, Repr

namespace Pairing

/-- Nothing is paired yet. -/
def start (word : List Char) : Pairing :=
  {
    free := word.zipIdx,
    pairs := 0,
    crossings := 0,
    last := 0
  }

/-- Pairs a letter of the other word with the first free letter that equals it and stands at most
`reach` places away. -/
def add (reach : Nat) (pairing : Pairing) (letter : Char × Nat) : Pairing :=
  match pairing.free.find? fun (spot : Char × Nat) =>
      spot.1 = letter.1 && letter.2 ≤ spot.2 + reach && spot.2 ≤ letter.2 + reach with
  | none => pairing
  | some spot =>
      {
        free := pairing.free.erase spot,
        pairs := pairing.pairs + 1,
        crossings := if spot.2 < pairing.last then pairing.crossings + 1 else pairing.crossings,
        last := spot.2
      }

end Pairing

/-- Letters pair up within half of the longer word, less one place. -/
def pairing (first second : List Char) : Pairing :=
  first.zipIdx.foldl (Pairing.add (max first.length second.length / 2 - 1)) (.start second)

/-- The mean of the three shares, or nothing if no letters pair up. -/
def pairedShare (first second : List Char) : Share :=
  let found := pairing first second
  if found.pairs = 0 then
    .nothing
  else
    ⟨
      found.pairs * found.pairs * (first.length + second.length)
        + (found.pairs - found.crossings) * (first.length * second.length),
      3 * (found.pairs * (first.length * second.length))
    ⟩

def commonStart : List Char → List Char → Nat
  | a :: first, b :: second => if a = b then commonStart first second + 1 else 0
  | _, _ => 0

/-- How alike two words are. -/
def similarity (first second : List Char) : Share :=
  (pairedShare first second).raised (commonStart first second)

/-- The better of the best word so far and one more; the earlier one if they are alike. -/
def better (word : List Char) (best : Option (String × Share)) (candidate : String)
    : Option (String × Share) :=
  match best with
  | none => some (candidate, similarity candidate.toList word)
  | some (earlier, record) =>
      if record.isLess (similarity candidate.toList word) then
        some (candidate, similarity candidate.toList word)
      else
        some (earlier, record)

/-- The first of the words that is most like `word`, if it is so to the `least` share. -/
def closest? (least : Share) (words : List String) (word : List Char) : Option String :=
  ((words.foldl (better word) none).filter fun best => !best.2.isLess least).map (·.1)

theorem better_eq_some {word : List Char} {best : Option (String × Share)} {candidate : String}
    {found : String × Share} (h : better word best candidate = some found)
    : found.1 = candidate ∨ best = some found := by
  unfold better at h
  split at h
  · cases h
    exact .inl rfl
  · split at h
    · cases h
      exact .inl rfl
    · exact .inr h

theorem mem_of_foldl_better {word : List Char} {words : List String}
    {best : Option (String × Share)} {found : String × Share}
    (h : words.foldl (better word) best = some found)
    : found.1 ∈ words ∨ best = some found := by
  induction words generalizing best with
  | nil => exact .inr h
  | cons candidate words ih =>
      rcases ih h with hmem | hbest
      · exact .inl (List.mem_cons_of_mem _ hmem)
      · rcases better_eq_some hbest with rfl | hbest
        · exact .inl List.mem_cons_self
        · exact .inr hbest

/-- Only one of the words is found. -/
theorem mem_of_closest? {least : Share} {words : List String} {word : List Char} {found : String}
    (h : closest? least words word = some found)
    : found ∈ words := by
  obtain ⟨best, hbest, rfl⟩ := Option.map_eq_some_iff.1 h
  rcases mem_of_foldl_better (Option.filter_eq_some_iff.1 hbest).1 with hmem | hnone
  · exact hmem
  · cases hnone

end MongoConfig.Text

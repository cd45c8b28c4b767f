import MongoConfig.Binary64.Basic
/-! The shortest decimal text of a floating point number.
The digits are those of the coarsest decimal grid that has a point which rounds to the number; of
two such points on that grid the nearer one is taken, and of two equally near ones the even one.
Numbers from 1e-5 up to 1e16 are written without an exponent, and a point always shows that the
number is not an integer of its own.
-/

namespace MongoConfig.Binary64

/-- A point `digits * 10 ^ exponent` of a decimal grid. -/
structure DecimalPoint where
  digits : Nat
  exponent : Int

/-- The point of the grid `10 ^ exponent` that is nearest to the magnitude, if it rounds to it; of
two equally near ones the even one. All distances are taken in quarters of the unit of the last
binary place. -/
def gridPoint? (x : Binary64) (exponent : Int) : Option DecimalPoint :=
  let unit := Nat.pow 10 exponent.toNat * Nat.pow 2 (2 - x.exponent).toNat
  let quarter := Nat.pow 10 (-exponent).toNat * Nat.pow 2 (x.exponent - 2).toNat
  let narrow := x.significand = leastNormal && minExponent < x.exponent
  let value := 4 * x.significand * quarter
  let low := (4 * x.significand - if narrow then 1 else 2) * quarter
  let high := (4 * x.significand + 2) * quarter
  let closed := x.significand % 2 == 0
  let rounds (digits : Nat) : Bool :=
    let point := digits * unit
    if closed then low ≤ point && point ≤ high else low < point && point < high
  let below := value / unit
  let above := below + 1
  let distanceBelow := value - below * unit
  let distanceAbove := above * unit - value
  let belowCloser :=
    distanceBelow < distanceAbove || (distanceBelow == distanceAbove && below % 2 == 0)
  if rounds below && (belowCloser || !rounds above) then
    some ⟨below, exponent⟩
  else if rounds above then
    some ⟨above, exponent⟩
  else
    none

/-- The shortest decimal that rounds to the magnitude of a number other than zero. The grids are
tried from the coarsest to the finest; the last one is finer than any two numbers are apart. -/
def shortest (x : Binary64) : DecimalPoint :=
  ((List.range 633).findSome? fun (i : Nat) => gridPoint? x (308 - (i : Int))).getD ⟨0, 0⟩

def magnitudeText (x : Binary64) : List Char :=
  if x.isZero then
    "0.0".toList
  else
    let point := x.shortest
    let digits := Nat.toDigits 10 point.digits
    let leading := point.exponent + digits.length - 1
    if -5 ≤ leading ∧ leading ≤ 15 then
      if 0 ≤ point.exponent then
        digits ++ List.replicate point.exponent.toNat '0' ++ ".0".toList
      else if 0 ≤ leading then
        digits.take (leading.toNat + 1) ++ ['.'] ++ digits.drop (leading.toNat + 1)
      else
        "0.".toList ++ List.replicate (-leading - 1).toNat '0' ++ digits
    else
      let fraction := if digits.length = 1 then [] else '.' :: digits.drop 1
      let sign := if 0 ≤ leading then '+' else '-'
      digits.take 1 ++ fraction ++ ['e', sign] ++ Nat.toDigits 10 leading.natAbs

/-- The shortest text that reads back as the number. -/
def text (x : Binary64) : String :=
  String.ofList ((if x.negative then ['-'] else []) ++ magnitudeText x)

end MongoConfig.Binary64

/-! Finite binary floating point numbers of double precision.
A number is a sign and a magnitude `significand * 2 ^ exponent`. All arithmetic is exact on natural
numbers, followed by one rounding to the nearest number; of two equally near ones the even one is
taken.
-/

namespace MongoConfig

/-- A finite number of double precision. -/
structure Binary64 where
  negative : Bool
  significand : Nat
  exponent : Int
deriving DecidableEq, Repr

namespace Binary64

/-- The least exponent, at which the smallest numbers are written. -/
def minExponent : Int :=
  -1074

/-- The greatest exponent; a magnitude that needs a greater one overflows. -/
def maxExponent : Int :=
  971

/-- The least significand of 53 bits. A smaller one occurs at the least exponent only. -/
def leastNormal : Nat :=
  4503599627370496

def isZero (x : Binary64) : Bool :=
  x.significand == 0

/-- Numbers are compared by value, so the two zeros are equal. -/
instance : BEq Binary64 where
  beq x y := x.isZero && y.isZero || decide (x = y)

def negate (x : Binary64) : Binary64 :=
  { x with negative := !x.negative }

/-- The quotient rounded to the nearest natural number, a half to the even one. -/
def roundQuotient (numerator denominator : Nat) : Nat :=
  let quotient := numerator / denominator
  let twiceRest := 2 * (numerator % denominator)
  if twiceRest < denominator then quotient
  else if twiceRest > denominator then quotient + 1
  else if quotient % 2 = 0 then quotient
  else quotient + 1

/-- The greatest `e` with `2 ^ e` at most the quotient of two positive numbers. -/
def floorLog2 (numerator denominator : Nat) : Int :=
  let guess : Int := (Nat.log2 numerator : Int) - Nat.log2 denominator
  if denominator * Nat.pow 2 guess.toNat ≤ numerator * Nat.pow 2 (-guess).toNat then
    guess
  else
    guess - 1

/-- The number nearest to a quotient, if it does not overflow. -/
def ofRatio? (numerator denominator : Nat) : Option Binary64 :=
  if numerator = 0 then
    some ⟨false, 0, minExponent⟩
  else
    let exponent := max (floorLog2 numerator denominator - 52) minExponent
    let significand :=
      roundQuotient (numerator * Nat.pow 2 (-exponent).toNat)
        (denominator * Nat.pow 2 exponent.toNat)
    let carried := significand = 2 * leastNormal
    let exponent := if carried then exponent + 1 else exponent
    let significand := if carried then leastNormal else significand
    if exponent ≤ maxExponent then some ⟨false, significand, exponent⟩ else none

/-- The product of two magnitudes, if it does not overflow. -/
def mul? (x y : Binary64) : Option Binary64 :=
  let exponent := x.exponent + y.exponent
  ofRatio? (x.significand * y.significand * Nat.pow 2 exponent.toNat)
    (Nat.pow 2 (-exponent).toNat)

/-- The quotient of two magnitudes, if it does not overflow. -/
def div? (x y : Binary64) : Option Binary64 :=
  let exponent := x.exponent - y.exponent
  ofRatio? (x.significand * Nat.pow 2 exponent.toNat)
    (y.significand * Nat.pow 2 (-exponent).toNat)

def powerOfTen? (exponent : Nat) : Option Binary64 :=
  ofRatio? (Nat.pow 10 exponent) 1

/-- Multiplies a magnitude by a power of ten. The power is rounded first; one beyond the range of
the numbers is split into factors, and each factor rounds the result once. -/
def scaleByTen? (x : Binary64) (exponent : Int) : Option Binary64 :=
  if exponent.natAbs ≤ 308 then
    (powerOfTen? exponent.natAbs).bind fun power =>
      if 0 ≤ exponent then mul? x power else div? x power
  else if x.isZero then
    some x
  else if 0 ≤ exponent then
    none
  else
    ((powerOfTen? 308).bind (div? x)).bind fun smaller => scaleByTen? smaller (exponent + 308)
termination_by exponent.natAbs
decreasing_by omega

/-- The number that a decimal significand and exponent write, if it does not overflow. -/
def ofDecimal? (significand : Nat) (exponent : Int) : Option Binary64 :=
  (ofRatio? significand 1).bind fun x => scaleByTen? x exponent

end Binary64

end MongoConfig

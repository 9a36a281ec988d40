/-! Finite doubles as an integer times a power of two, and rounding a fraction to the
nearest of them. -/

namespace DocForm.Decimal

/-- The number `significand * 2 ^ exponent` with a sign. -/
structure Binary where
  negative : Bool
  significand : Nat
  exponent : Int
deriving DecidableEq, Repr

/-- The exponent of the smallest positive double. -/
def leastExponent : Int := -1074

/-- The significands of normal doubles run from here to twice this. -/
def leastNormal : Nat := Nat.pow 2 52

/-- The parts of a double, unless it is infinite or not a number. -/
def Binary.ofFloat? (x : Float) : Option Binary :=
  let bits := x.toBits.toNat
  let negative := decide (Nat.pow 2 63 ≤ bits)
  let biased : Nat := bits / leastNormal % Nat.pow 2 11
  let fraction : Nat := bits % leastNormal
  if biased = 2047 then none
  else if biased = 0 then some ⟨negative, fraction, leastExponent⟩
  else some ⟨negative, leastNormal + fraction, (biased : Int) - 1075⟩

/-- The quotient rounded to the nearest integer, a half going to the even one. -/
def divideToEven (numerator denominator : Nat) : Nat :=
  let quotient := numerator / denominator
  let twice := 2 * (numerator % denominator)
  if denominator < twice then quotient + 1
  else if twice = denominator && quotient % 2 = 1 then quotient + 1
  else quotient

/-- The double nearest to `numerator / denominator`, a tie going to the even
significand; infinity when the fraction is too large. -/
def nearestDouble (negative : Bool) (numerator denominator : Nat) : Float :=
  let guess : Int := (Nat.log2 numerator : Int) - Nat.log2 denominator - 52
  let scaled (exponent : Int) : Nat × Nat :=
    (numerator * Nat.pow 2 (-exponent).toNat, denominator * Nat.pow 2 exponent.toNat)
  let low := scaled guess
  let settled := if low.1 / low.2 < leastNormal then guess - 1 else guess
  let exponent := max settled leastExponent
  let parts := scaled exponent
  let significand := divideToEven parts.1 parts.2
  let magnitude :=
    if numerator = 0 then 0
    else if significand < leastNormal then significand
    else
      let biased := (exponent + 1075).toNat
      min (biased * leastNormal + (significand - leastNormal)) (2047 * leastNormal)
  Float.ofBits (UInt64.ofNat (if negative then Nat.pow 2 63 + magnitude else magnitude))

/-- The double nearest to `significand * 10 ^ exponent`. Bounds on the decimal magnitude
keep powers small: beyond them the double is zero or infinite anyway. -/
def nearestDecimal (negative : Bool) (significand : Nat) (exponent : Int) : Float :=
  let bits : Int := Nat.log2 significand
  if significand = 0 || (bits + 1) * 31 / 100 + exponent < -330 then nearestDouble negative 0 1
  else if 310 < bits * 3 / 10 + exponent then nearestDouble negative (Nat.pow 10 310) 1
  else
    nearestDouble negative (significand * Nat.pow 10 exponent.toNat)
      (Nat.pow 10 (-exponent).toNat)

def Binary.integer? (binary : Binary) : Option Int :=
  let scale := Nat.pow 2 (-binary.exponent).toNat
  if binary.significand % scale = 0 then
    let magnitude : Int := binary.significand / scale * Nat.pow 2 binary.exponent.toNat
    some (if binary.negative then -magnitude else magnitude)
  else none

def whole? (x : Float) : Option Int := (Binary.ofFloat? x).bind Binary.integer?

def isWhole (x : Float) : Bool := (whole? x).isSome

end DocForm.Decimal

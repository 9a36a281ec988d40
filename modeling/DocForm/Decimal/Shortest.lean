import DocForm.Decimal.Binary
import DocForm.Decimal.Digits

/-! The shortest decimal that reads back as a given double. -/

namespace DocForm.Decimal

inductive Tie where
  | up
  | even
deriving DecidableEq, Repr

/-- The number `digits * 10 ^ exponent`. -/
structure Scaled where
  digits : Nat
  exponent : Int
deriving DecidableEq, Repr

/-- The real numbers that round to one double, all times `unit`: the double itself and
the ends of the interval, which belong to it when `closed`. -/
structure Interval where
  low : Nat
  value : Nat
  high : Nat
  unit : Nat
  closed : Bool

/-- A double's interval in quarters of its last place. Below a power of two the
neighbour is only half as far away. -/
def Binary.interval (x : Binary) : Interval :=
  let shrink := x.significand = leastNormal ∧ x.exponent ≠ leastExponent
  let up := Nat.pow 2 (x.exponent - 2).toNat
  { low := (4 * x.significand - if shrink then 1 else 2) * up
    value := 4 * x.significand * up
    high := (4 * x.significand + 2) * up
    unit := Nat.pow 2 (2 - x.exponent).toNat
    closed := x.significand % 2 = 0 }

/-- The exponent of the largest power of ten not above a positive fraction. -/
def powerBelow (numerator denominator : Nat) : Int :=
  if denominator ≤ numerator then (digitCount (numerator / denominator) : Int) - 1
  else
    let gap := digitCount denominator - digitCount numerator
    if denominator ≤ numerator * Nat.pow 10 gap then -(gap : Int) else -(gap : Int) - 1

/-- The multiple of `10 ^ exponent` beside the interval's value that lies in the interval
and is nearest to it. -/
def Interval.onGrid? (span : Interval) (tie : Tie) (exponent : Int) : Option Scaled :=
  -- Both factors bring the interval and the grid to whole numbers.
  let fine := Nat.pow 10 (-exponent).toNat
  let step := span.unit * Nat.pow 10 exponent.toNat
  let inside (count : Nat) : Bool :=
    if span.closed then span.low * fine ≤ count * step && count * step ≤ span.high * fine
    else span.low * fine < count * step && count * step < span.high * fine
  let below := span.value * fine / step
  let rest := 2 * (span.value * fine % step)
  let above := below + 1
  let preferAbove := decide (step < rest) ||
    (rest == step && match tie with | .up => true | .even => below % 2 = 1)
  match inside below, inside above with
  | true, true => some ⟨if preferAbove then above else below, exponent⟩
  | true, false => some ⟨below, exponent⟩
  | false, true => some ⟨above, exponent⟩
  | false, false => none

/-- Try grids of one digit more at a time. -/
def Interval.search (span : Interval) (tie : Tie) : Nat → Int → Scaled
  | 0, exponent =>
    ⟨span.value * Nat.pow 10 (-exponent).toNat / (span.unit * Nat.pow 10 exponent.toNat), exponent⟩
  | more + 1, exponent =>
    match span.onGrid? tie exponent with
    | some found => found
    | none => span.search tie more (exponent - 1)

/-- The decimal with the fewest digits that rounds to the double, and of those the one
nearest to it. -/
def Binary.shortest (x : Binary) (tie : Tie) : Scaled :=
  if x.significand = 0 then ⟨0, 0⟩
  else
    let span := x.interval
    span.search tie 17 (powerBelow span.value span.unit)

end DocForm.Decimal

import DocForm.Decimal.Shortest

/-! How a double is written: the shortest digits, laid out with or without an exponent. -/

namespace DocForm.Decimal

/-- The choices that a written form makes. A number whose leading digit stands at a power
of ten between `lowest` and `highest` is written without an exponent; without bounds
every number is. -/
structure Layout where
  tie : Tie
  bounds : Option (Int × Int)
  wholeMark : String

/-- In sentences a number never has an exponent, and a whole one has no point. -/
def Layout.prose : Layout := ⟨.up, none, ""⟩

/-- In data a number always shows that it may have a fraction; an exponent is used below
`1e-5` and from `1e16` on. -/
def Layout.data : Layout := ⟨.even, some (-5, 15), ".0"⟩

/-- Digits without the zeros at their end, and the power of ten of the first of them. -/
def Scaled.leading (x : Scaled) : List Char × Int :=
  let digits := digitsOf x.digits
  let kept := (digits.reverse.dropWhile (· == '0')).reverse
  (if kept.isEmpty then ['0'] else kept, x.exponent + digits.length - 1)

def positional (wholeMark : String) (digits : List Char) (power : Int) : List Char :=
  if power < 0 then
    '0' :: '.' :: (List.replicate (-power - 1).toNat '0' ++ digits)
  else
    let whole := power.toNat + 1
    let padded := digits ++ List.replicate (whole - digits.length) '0'
    let fraction := padded.drop whole
    padded.take whole ++ if fraction.isEmpty then wholeMark.toList else '.' :: fraction

def scientific (digits : List Char) (power : Int) : List Char :=
  let fraction := digits.drop 1
  let sign := if power < 0 then '-' else '+'
  digits.take 1 ++ (if fraction.isEmpty then [] else '.' :: fraction) ++
    'e' :: sign :: digitsOf power.natAbs

def Layout.render (layout : Layout) (x : Float) : String :=
  match Binary.ofFloat? x with
  | none => if x.isNaN then "NaN" else if x < 0 then "-inf" else "inf"
  | some parts =>
    let (digits, power) := (parts.shortest layout.tie).leading
    let plain := match layout.bounds with
      | none => true
      | some (lowest, highest) => parts.significand = 0 || (lowest ≤ power && power ≤ highest)
    let body :=
      if plain then positional layout.wholeMark digits power else scientific digits power
    String.ofList (if parts.negative then '-' :: body else body)

end DocForm.Decimal

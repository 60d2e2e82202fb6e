import ClauseFlow.Number.Numeral

/-!
# Shortest decimal notation

A finite number is written with the fewest digits that read back as the same number; of several such
notations the one nearest to the number is taken, and of two equally near ones the one whose last
digit is even. Where the point or an exponent goes is decided afterwards: `text` always writes
positionally, `scientificText` uses an exponent for very large and very small numbers.
-/

namespace ClauseFlow.Binary64

/-- A positive decimal number: `digits * 10 ^ exponent`. -/
structure Decimal where
  digits : Nat
  exponent : Int
  deriving DecidableEq

/-- The position of the leading digit of `numerator / denominator`, as the power of ten just above
it, when the quotient is at least one. -/
def powerAbove (numerator denominator : Nat) : Nat :=
  (Nat.toDigits 10 (numerator / denominator)).length

/-- The least `k ≤ fuel` with `10 ^ k * numerator ≥ denominator`. -/
def zerosAfterPoint (denominator : Nat) : (fuel : Nat) → (numerator : Nat) → Nat
  | 0, _ => 0
  | fuel + 1, numerator =>
      if denominator ≤ numerator then 0 else zerosAfterPoint denominator fuel (numerator * 10) + 1

/-- The exponent of the power of ten just above a positive quotient. -/
def magnitude (numerator denominator : Nat) : Int :=
  if denominator ≤ numerator then powerAbove numerator denominator
  else 1 - (zerosAfterPoint denominator 400 numerator : Int)

/-- The neighbours of a positive quotient on the grid of multiples of `10 ^ exponent`, nearer one
first, and the even one first if both are equally near. -/
def neighbours (numerator denominator : Nat) (exponent : Int) : List Decimal :=
  let n := numerator * Nat.pow 10 (-exponent).toNat
  let d := denominator * Nat.pow 10 exponent.toNat
  let below := n / d
  let rest := n % d
  let lower : Decimal := ⟨below, exponent⟩
  let upper : Decimal := ⟨below + 1, exponent⟩
  if rest = 0 then [lower]
  else if 2 * rest < d ∨ (2 * rest = d ∧ below % 2 = 0) then [lower, upper]
  else [upper, lower]

/-- The first neighbour that reads back as `x`, for 1, 2, … digits. -/
def shortestFrom (x : Binary64) (numerator denominator : Nat) :
    (remaining : Nat) → (exponent : Int) → Option Decimal
  | 0, _ => none
  | remaining + 1, exponent =>
      match (neighbours numerator denominator exponent).find? fun candidate =>
          ofDecimal candidate.digits candidate.exponent = x with
      | some candidate => some candidate
      | none => shortestFrom x numerator denominator remaining (exponent - 1)

/-- The exact decimal value of a count of units. -/
def exactDecimal (count : Nat) : Decimal :=
  ⟨count * Nat.pow 5 1074, -1074⟩

/-- The same decimal without zeros at the end of its digits, of which at most `fuel` are dropped.
The neighbour above a number may be a power of ten. -/
def Decimal.dropZeros : (fuel : Nat) → Decimal → Decimal
  | 0, decimal => decimal
  | fuel + 1, decimal =>
      if decimal.digits % 10 = 0 then dropZeros fuel ⟨decimal.digits / 10, decimal.exponent + 1⟩
      else decimal

/-- The shortest decimal that reads back as a number whose size is `count` units; seventeen digits
are always enough. -/
def shortestDecimal (count : Nat) : Decimal :=
  let x := ofQuotient false count unitsPerOne
  match shortestFrom x count unitsPerOne 17 (magnitude count unitsPerOne - 1) with
  | some decimal => decimal.dropZeros 17
  | none => exactDecimal count

/-- The digits of a number around a decimal point, with at least one digit on either side. -/
def positional (decimal : Decimal) : List Char :=
  let digits := Nat.toDigits 10 decimal.digits
  if 0 ≤ decimal.exponent then
    digits ++ List.replicate decimal.exponent.toNat '0' ++ ['.', '0']
  else
    let places := (-decimal.exponent).toNat
    let padded := List.replicate (places + 1 - digits.length) '0' ++ digits
    padded.take (padded.length - places) ++ '.' :: padded.drop (padded.length - places)

/-- The digits of a number with one digit before the point and a power of ten. -/
def scientific (decimal : Decimal) : List Char :=
  let digits := Nat.toDigits 10 decimal.digits
  let exponent := decimal.exponent + digits.length - 1
  let size := Nat.toDigits 10 exponent.natAbs
  let mantissa :=
    match digits with
    | first :: second :: rest => first :: '.' :: second :: rest
    | single => single
  mantissa ++ 'e' :: (if exponent < 0 then '-' else '+') ::
    (List.replicate (2 - size.length) '0' ++ size)

/-- The sign and the size of a number, the latter written by `layout`. -/
def textWith (layout : Decimal → List Char) : Binary64 → String
  | .nan => "nan"
  | .infinite negative => if negative then "-inf" else "inf"
  | x =>
      let size := if x.isZero then ['0', '.', '0'] else layout (shortestDecimal x.units.natAbs)
      String.ofList (if x.isNegative then '-' :: size else size)

/-- A number in positional notation. -/
def text (x : Binary64) : String :=
  textWith positional x

/-- A number in positional notation if its leading digit stands for `10 ^ -4` to `10 ^ 15`, else in
scientific notation. -/
def scientificText (x : Binary64) : String :=
  textWith (fun decimal =>
    let leading := decimal.exponent + (Nat.toDigits 10 decimal.digits).length - 1
    if -4 ≤ leading ∧ leading < 16 then positional decimal else scientific decimal) x

end ClauseFlow.Binary64

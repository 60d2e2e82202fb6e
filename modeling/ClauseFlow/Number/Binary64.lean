/-!
# Binary floating point

The decimal numbers of the language are the 64-bit binary floating point numbers. A finite number is
a mantissa times a power of two, and every finite number is a whole count of *units*, where one unit
is the least positive number, `2 ^ -1074`. Sums, products, quotients and comparisons are therefore
exact integer arithmetic on units, followed by one rounding to the nearest number, ties to the even
mantissa.
-/

namespace ClauseFlow

namespace Binary64

/-- The mantissas and exponents in use: 53 bits, with the leading bit set except at the least
exponent, so that each number has one form. -/
def Canonical (mantissa : Nat) (exponent : Int) : Prop :=
  mantissa < Nat.pow 2 53 ∧ -1074 ≤ exponent ∧ exponent ≤ 971 ∧
    (Nat.pow 2 52 ≤ mantissa ∨ exponent = -1074)

instance (mantissa : Nat) (exponent : Int) : Decidable (Canonical mantissa exponent) := by
  unfold Canonical
  infer_instance

end Binary64

/-- A 64-bit binary floating point number; there is one `nan`. -/
inductive Binary64 where
  | nan
  | infinite (negative : Bool)
  | finite (negative : Bool) (mantissa : Nat) (exponent : Int)
      (canonical : Binary64.Canonical mantissa exponent)
  deriving DecidableEq

namespace Binary64

/-- Zero of either sign. -/
def signedZero (negative : Bool) : Binary64 :=
  .finite negative 0 (-1074) (by decide)

instance : Inhabited Binary64 := ⟨signedZero false⟩

/-- The number with the given parts; parts that are out of range stand for an overflow. -/
def ofParts (negative : Bool) (mantissa : Nat) (exponent : Int) : Binary64 :=
  if h : Canonical mantissa exponent then .finite negative mantissa exponent h
  else .infinite negative

/-! ## Rounding -/

/-- A quotient of natural numbers rounded to the nearest natural number, ties to even. -/
def roundQuotient (numerator denominator : Nat) : Nat :=
  let quotient := numerator / denominator
  let twice := 2 * (numerator % denominator)
  if twice < denominator then quotient
  else if denominator < twice then quotient + 1
  else quotient + quotient % 2

/-- The power of two that the last bit of a positive quotient counts, when 53 bits are kept. -/
def lastPlace (numerator denominator : Nat) : Int :=
  let guess : Int := (numerator.log2 : Int) - denominator.log2 - 52
  let leading := guess + 52
  let enough := denominator * Nat.pow 2 leading.toNat ≤ numerator * Nat.pow 2 (-leading).toNat
  max (if enough then guess else guess - 1) (-1074)

/-- The quotient of two natural numbers, the second one positive, rounded to the nearest number. -/
def ofQuotient (negative : Bool) (numerator denominator : Nat) : Binary64 :=
  if numerator = 0 then signedZero negative
  else
    let exponent := lastPlace numerator denominator
    let mantissa :=
      roundQuotient (numerator * Nat.pow 2 (-exponent).toNat)
        (denominator * Nat.pow 2 exponent.toNat)
    if mantissa = Nat.pow 2 53 then ofParts negative (Nat.pow 2 52) (exponent + 1)
    else ofParts negative mantissa exponent

/-- How many units make one. -/
def unitsPerOne : Nat :=
  Nat.pow 2 1074

/-- How many units a finite number is; zero for the others. -/
def units : Binary64 → Int
  | .finite negative mantissa exponent _ =>
      let count : Int := (mantissa * Nat.pow 2 (exponent + 1074).toNat : Nat)
      if negative then -count else count
  | _ => 0

/-- The number nearest to a count of units over a denominator. -/
def ofUnits (zeroNegative : Bool) (count : Int) (denominator : Nat) : Binary64 :=
  ofQuotient (if count = 0 then zeroNegative else count < 0) count.natAbs denominator

/-- The number nearest to an integer. -/
def ofInt (n : Int) : Binary64 :=
  ofQuotient (n < 0) n.natAbs 1

/-- The number nearest to `digits * 10 ^ exponent`. -/
def ofDecimal (digits : Nat) (exponent : Int) : Binary64 :=
  ofQuotient false (digits * Nat.pow 10 exponent.toNat) (Nat.pow 10 (-exponent).toNat)

/-! ## Sign and class -/

/-- Whether the sign is set; `nan` has none. -/
def isNegative : Binary64 → Bool
  | .nan => false
  | .infinite negative => negative
  | .finite negative _ _ _ => negative

def isFinite : Binary64 → Bool
  | .finite .. => true
  | _ => false

def isNaN : Binary64 → Bool
  | .nan => true
  | _ => false

/-- Zero of either sign. -/
def isZero : Binary64 → Bool
  | .finite _ mantissa _ _ => mantissa = 0
  | _ => false

def neg : Binary64 → Binary64
  | .nan => .nan
  | .infinite negative => .infinite (!negative)
  | .finite negative mantissa exponent h => .finite (!negative) mantissa exponent h

def abs : Binary64 → Binary64
  | .nan => .nan
  | .infinite _ => .infinite false
  | .finite _ mantissa exponent h => .finite false mantissa exponent h

/-- The number with the sign of a zero forgotten. -/
def unsignZero (x : Binary64) : Binary64 :=
  if x.isZero then signedZero false else x

/-! ## Comparison -/

/-- Comparison of a number with an exact count of units; `nan` compares with nothing. -/
def compareUnits : Binary64 → Int → Option Ordering
  | .nan, _ => none
  | .infinite true, _ => some .lt
  | .infinite false, _ => some .gt
  | x, count => some (compare x.units count)

/-- Comparison by value; the two zeros are equal, and `nan` compares with nothing. -/
def compare? : Binary64 → Binary64 → Option Ordering
  | .nan, _ => none
  | _, .nan => none
  | .infinite negative, .infinite negative' =>
      some (if negative = negative' then .eq else if negative then .lt else .gt)
  | _, .infinite negative => some (if negative then .gt else .lt)
  | x, y => x.compareUnits y.units

/-- Comparison with an integer, by exact value. -/
def compareInt? (x : Binary64) (n : Int) : Option Ordering :=
  x.compareUnits (n * unitsPerOne)

/-! ## Arithmetic -/

def add : Binary64 → Binary64 → Binary64
  | .nan, _ => .nan
  | _, .nan => .nan
  | .infinite negative, .infinite negative' =>
      if negative = negative' then .infinite negative else .nan
  | .infinite negative, _ => .infinite negative
  | _, .infinite negative => .infinite negative
  | x, y => ofUnits (x.isNegative && y.isNegative) (x.units + y.units) unitsPerOne

def sub (x y : Binary64) : Binary64 :=
  x.add y.neg

def mul : Binary64 → Binary64 → Binary64
  | .nan, _ => .nan
  | _, .nan => .nan
  | .infinite negative, y => if y.isZero then .nan else .infinite (negative ^^ y.isNegative)
  | x, .infinite negative => if x.isZero then .nan else .infinite (x.isNegative ^^ negative)
  | x, y => ofUnits (x.isNegative ^^ y.isNegative) (x.units * y.units) (unitsPerOne * unitsPerOne)

/-- Division by a number that is not zero. -/
def div : Binary64 → Binary64 → Binary64
  | .nan, _ => .nan
  | _, .nan => .nan
  | .infinite _, .infinite _ => .nan
  | .infinite negative, y => .infinite (negative ^^ y.isNegative)
  | x, .infinite negative => signedZero (x.isNegative ^^ negative)
  | x, y => ofQuotient (x.isNegative ^^ y.isNegative) x.units.natAbs y.units.natAbs

/-- The remainder whose sign is that of the divisor, which is not zero: the exact remainder with the
sign of the dividend, to which the divisor is added if the two signs differ. -/
def mod : Binary64 → Binary64 → Binary64
  | .nan, _ => .nan
  | _, .nan => .nan
  | .infinite _, _ => .nan
  | x, .infinite negative =>
      if x.isZero then signedZero negative
      else if x.isNegative = negative then x
      else .infinite negative
  | x, y =>
      let rest := Int.tmod x.units y.units
      if rest = 0 then signedZero y.isNegative
      else
        let exact := ofUnits false rest unitsPerOne
        if x.isNegative = y.isNegative then exact else exact.add y

/-- The quotient of two integers, the second one not zero; the sign of a zero quotient is that of
the divisor. -/
def ofIntQuotient (n d : Int) : Binary64 :=
  ofQuotient ((n < 0) ^^ (d < 0)) n.natAbs d.natAbs

/-- One half. -/
def half : Binary64 :=
  ofQuotient false 1 2

/-- The integer part of a finite number. -/
def truncate? : Binary64 → Option Int
  | .finite negative mantissa exponent h =>
      some (Int.tdiv (Binary64.finite negative mantissa exponent h).units unitsPerOne)
  | _ => none

end Binary64
end ClauseFlow

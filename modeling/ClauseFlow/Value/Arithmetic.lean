import ClauseFlow.Value.Equality
import ClauseFlow.Eval.Interrupt

/-!
# Arithmetic on values

Integers are unbounded. As soon as a floating point number takes part, an integer is converted,
which faults if it is too large. Comparisons never convert: they are exact. Each operation without
an outcome gives an undefined number of its own.
-/

namespace ClauseFlow.Value.Number

/-- The value that a number is; an undefined one gets a new mark. -/
def toValue (home : Nat) : Number → Run Value
  | .integer value => return .integer value
  | .decimal .nan => do return .undefined (← Run.mark home)
  | .decimal value => return .decimal value

/-- The floating point number nearest to an integer, if there is one. -/
def convert (value : Int) : Except Fault Binary64 :=
  let nearest := Binary64.ofInt value
  if nearest.isFinite then .ok nearest else .error .tooLarge

/-- The number as a floating point number. -/
def toBinary : Number → Except Fault Binary64
  | .integer value => convert value
  | .decimal value => .ok value

/-- Zero of either kind. -/
def isZero : Number → Bool
  | .integer value => value = 0
  | .decimal value => value.isZero

/-- An operation with one version for integers and one for floating point numbers. -/
def combine (onIntegers : Int → Int → Int) (onDecimals : Binary64 → Binary64 → Binary64) :
    Number → Number → Except Fault Number
  | .integer first, .integer second => .ok (.integer (onIntegers first second))
  | first, second => do
      let first ← first.toBinary
      let second ← second.toBinary
      return .decimal (onDecimals first second)

def add : Number → Number → Except Fault Number :=
  combine (· + ·) Binary64.add

def sub : Number → Number → Except Fault Number :=
  combine (· - ·) Binary64.sub

def mul : Number → Number → Except Fault Number :=
  combine (· * ·) Binary64.mul

/-- The remainder by a number that is not zero; its sign is that of the divisor. -/
def mod : Number → Number → Except Fault Number :=
  combine Int.fmod Binary64.mod

/-- The quotient by a number that is not zero, always a floating point number. -/
def div : Number → Number → Except Fault Number
  | .integer first, .integer second =>
      let quotient := Binary64.ofIntQuotient first second
      if quotient.isFinite then .ok (.decimal quotient) else .error .tooLarge
  | first, second => do
      let first ← first.toBinary
      let second ← second.toBinary
      return .decimal (first.div second)

def neg : Number → Number
  | .integer value => .integer (-value)
  | .decimal value => .decimal value.neg

def abs : Number → Number
  | .integer value => .integer value.natAbs
  | .decimal value => .decimal value.abs

/-- Whether an order relation holds; none does when one of them is no number. -/
def holds (accepts : Ordering → Bool) (first second : Number) : Bool :=
  match compare? first second with
  | some order => accepts order
  | none => false

/-- The integer part of a floating point number. -/
def truncate (value : Binary64) : Except Fault Int :=
  match value with
  | .nan => .error .notANumber
  | other =>
      match other.truncate? with
      | some whole => .ok whole
      | none => .error .infinite

/-- The integer part of a number after adding one half to it as a floating point number. -/
def truncateHalfUp (value : Number) : Except Fault Int := do
  let value ← value.toBinary
  truncate (value.add .half)

/-- A number rounded to an integer, halves away from zero. -/
def round (value : Number) : Except Fault Int := do
  if holds Ordering.isGE value (.integer 0) then value.truncateHalfUp
  else
    let size ← value.neg.truncateHalfUp
    return -size

end ClauseFlow.Value.Number

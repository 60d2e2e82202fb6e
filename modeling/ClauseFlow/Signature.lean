import ClauseFlow.Number.Numeral

/-!
# Signatures

A function is known by its name together with the number of its arguments.
-/

namespace ClauseFlow

/-- A function's name and how many arguments it takes. -/
structure Signature where
  name : String
  arity : Nat
  deriving DecidableEq, Repr

def Signature.text (signature : Signature) : String :=
  signature.name ++ "/" ++ Numeral.natText signature.arity

end ClauseFlow

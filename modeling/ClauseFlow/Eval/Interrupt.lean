import ClauseFlow.Builtin
import ClauseFlow.Diagnostic
import ClauseFlow.Signature
import ClauseFlow.Value.Show

/-!
# Interrupted runs

Why a run ends without a value: an error of the program, which a guard can absorb; a fault, which
nothing absorbs; or a depth of calls beyond the one allowed.
-/

namespace ClauseFlow

/-- The errors of a running program. -/
inductive RuntimeError where
  | unboundName (name : String) (span : Span)
  | undefinedFunction (signature : Signature) (span? : Option Span)
  | noClause (signature : Signature) (arguments : List Value)
  | notCallable (value : Value) (span? : Option Span)
  | argumentCount (expected given : Nat) (span : Span)
  | divisionByZero (span : Span)
  | noNumbers (left : Value) (op : BinaryOp) (right : Value) (span : Span)
  | noNumber (value : Value) (span : Span)
  | noBoolean (op : String) (value : Value) (span : Span)
  | noTexts (left right : Value) (span : Span)
  | incomparable (left : Value) (op : BinaryOp) (right : Value) (span : Span)
  | noFields (field : String) (value : Value) (span : Span)
  | missingField (field : String) (value : Value) (span : Span)
  | noListTail (value : Value) (span : Span)
  | noResult (value : Value) (span : Span)
  | builtinArity (builtin : Builtin) (given : Nat)
  | badArgument (builtin : Builtin) (value : Value)
  | builtinDivisionByZero (builtin : Builtin)
  | missingKey (key map : Value)
  | noResultToHandle (value : Value)

namespace RuntimeError

def code : RuntimeError → String
  | unboundName .. => "R101"
  | undefinedFunction .. => "R102"
  | noClause .. => "R200"
  | _ => "R100"

def message : RuntimeError → String
  | unboundName name _ => "undefined variable '" ++ name ++ "'"
  | undefinedFunction signature _ => "undefined function " ++ signature.text
  | noClause signature arguments =>
      "no clause of " ++ signature.text ++ " matches arguments (" ++
        Text.commas (Value.printAll arguments) ++ ")"
  | notCallable value _ => value.print ++ " is not a function"
  | argumentCount expected given _ =>
      "fn/" ++ Numeral.natText expected ++ " called with " ++ Numeral.natText given ++
        " argument(s)"
  | divisionByZero _ => "division by zero"
  | noNumbers left op right _ =>
      "bad argument in arithmetic expression: " ++ left.print ++ " " ++ op.text ++ " " ++
        right.print
  | noNumber value _ => "bad argument in unary '-': " ++ value.print
  | noBoolean op value _ => "'" ++ op ++ "' expects a boolean, got " ++ value.print
  | noTexts left right _ => "'<>' expects strings, got " ++ left.print ++ " and " ++ right.print
  | incomparable left op right _ =>
      "cannot compare " ++ left.print ++ " " ++ op.text ++ " " ++ right.print
  | noFields field value _ => "cannot access field '" ++ field ++ "' of " ++ value.print
  | missingField field value _ => "key '" ++ field ++ "' not found in " ++ value.print
  | noListTail value _ => "list tail must be a list, got " ++ value.print
  | noResult value _ => "<|> expects an Ok or Error result, got " ++ value.print
  | builtinArity builtin given =>
      builtin.name ++ " expects " ++ builtin.arityText ++ " argument(s), got " ++
        Numeral.natText given
  | badArgument builtin value => "bad argument to " ++ builtin.name ++ ": " ++ value.print
  | builtinDivisionByZero builtin => builtin.name ++ ": division by zero"
  | missingKey key map => "key " ++ key.print ++ " not found in " ++ map.print
  | noResultToHandle value =>
      "handle_error expects an Ok or Error result, got " ++ value.print

/-- The values that the message shows. -/
def shown : RuntimeError → List Value
  | noClause _ arguments => arguments
  | noNumbers left _ right _ | noTexts left right _ | incomparable left _ right _ => [left, right]
  | missingKey key map => [key, map]
  | notCallable value _ | noNumber value _ | noBoolean _ value _ | noFields _ value _
  | missingField _ value _ | noListTail value _ | noResult value _ | badArgument _ value
  | noResultToHandle value => [value]
  | unboundName .. | undefinedFunction .. | argumentCount .. | divisionByZero _ | builtinArity ..
  | builtinDivisionByZero _ => []

def span? : RuntimeError → Option Span
  | undefinedFunction _ span? | notCallable _ span? => span?
  | unboundName _ span | argumentCount _ _ span | divisionByZero span | noNumbers _ _ _ span
  | noNumber _ span | noBoolean _ _ span | noTexts _ _ span | incomparable _ _ _ span
  | noFields _ _ span | missingField _ _ span | noListTail _ span | noResult _ span => some span
  | noClause .. | builtinArity .. | badArgument .. | builtinDivisionByZero _ | missingKey ..
  | noResultToHandle _ => none

def diagnostic (error : RuntimeError) : Diagnostic :=
  ⟨.error, error.code, error.message, error.span?.toList.map fun span => ⟨span, ""⟩, []⟩

end RuntimeError

/-- What no guard absorbs: an integer with too many digits to be shown, a conversion of something
that is no number, or not finite, to an integer, a number too large for floating point, and a value
that cannot be a key. -/
inductive Fault where
  | digitLimit
  | notANumber
  | infinite
  | tooLarge
  | unusableKey
  deriving DecidableEq, Repr

inductive Interrupt where
  | error (error : RuntimeError)
  | fault (fault : Fault)
  | tooDeep

/-- A run. It threads the number that the next marked evaluation is stamped with. -/
abbrev Run := StateT Nat (Except Interrupt)

namespace Run

def fault {α : Type} (fault : Fault) : Run α :=
  throw (.fault fault)

/-- Raises an error. Its message shows values, which may fail by itself. -/
def raise {α : Type} (error : RuntimeError) : Run α :=
  if Value.allHaveNotation error.shown then throw (.error error) else fault .digitLimit

/-- The next stamp. -/
def stamp : Run Nat :=
  fun next => .ok (next, next + 1)

/-- A mark that no other evaluation has. -/
def mark (home : Nat) : Run Mark := do
  return ⟨home, ← stamp⟩

/-- The value of a step that can only fault. -/
def ofExcept {α : Type} : Except Fault α → Run α
  | .ok value => pure value
  | .error found => fault found

end Run
end ClauseFlow

import ClauseFlow.Value.Equality

/-!
# Matching

A pattern that fits a value binds its names to parts of the value. A name that occurs again asks for
a value that is strictly equal to the first one; anonymous names ask for nothing and bind nothing.
-/

namespace ClauseFlow

/-- The names bound so far with their values, in the order of binding. -/
abbrev Bindings := List (String × Value)

namespace Bindings

/-- Binds a name, or compares with what it is bound to. -/
def bind (bindings : Bindings) (name : String) (value : Value) : Option Bindings :=
  if isAnonymous name then some bindings
  else
    match bindings.lookup name with
    | some first => if Value.equal true first value then some bindings else none
    | none => some (bindings ++ [(name, value)])

end Bindings

namespace Pattern

/-- The entries of a map or a record. -/
def entriesOf? : Value → Option Value.Entries
  | .map entries | .record _ entries => some entries
  | _ => none

mutual

/-- The bindings extended by those of a pattern, if it fits the value. -/
def fit : Pattern → Value → Bindings → Option Bindings
  | .wildcard _, _, bindings => some bindings
  | .binding name _, value, bindings => bindings.bind name value
  | .literal constant _, value, bindings =>
      if Value.fitsLiteral constant value then some bindings else none
  | .tuple patterns _, .tuple values, bindings => fitAll patterns values bindings
  | .list patterns none _, .list values, bindings => fitAll patterns values bindings
  | .list patterns (some tail) _, .list values, bindings =>
      if values.length < patterns.length then none
      else
        match fitAll patterns (values.take patterns.length) bindings with
        | some extended => fit tail (.list (values.drop patterns.length)) extended
        | none => none
  | .map patterns _, value, bindings =>
      match entriesOf? value with
      | some entries => fitEntries patterns entries bindings
      | none => none
  | .record tag patterns _, .record tag' entries, bindings =>
      if tag = tag' then fitEntries patterns entries bindings else none
  | .result tag inner _, .result tag' value, bindings =>
      if tag = tag' then fit inner value bindings else none
  | .named inner name _, value, bindings =>
      match fit inner value bindings with
      | some extended => extended.bind name value
      | none => none
  | _, _, _ => none

/-- As many patterns as values, fitting one by one. -/
def fitAll : List Pattern → List Value → Bindings → Option Bindings
  | [], [], bindings => some bindings
  | pattern :: rest, value :: values, bindings =>
      match fit pattern value bindings with
      | some extended => fitAll rest values extended
      | none => none
  | _, _, _ => none

/-- Patterns for the values of keys; other keys may be there too. -/
def fitEntries : List (String × Pattern) → Value.Entries → Bindings → Option Bindings
  | [], _, bindings => some bindings
  | (key, pattern) :: rest, entries, bindings =>
      match Value.field? key entries with
      | some value =>
          match fit pattern value bindings with
          | some extended => fitEntries rest entries extended
          | none => none
      | none => none

end

/-- The bindings of a list of parameters, if each fits its argument. -/
def fitParams (params : List Pattern) (arguments : List Value) : Option Bindings :=
  fitAll params arguments []

end Pattern
end ClauseFlow

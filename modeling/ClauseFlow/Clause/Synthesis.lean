import ClauseFlow.Clause
import ClauseFlow.Clause.NameSupply
import ClauseFlow.Expr.Names
import ClauseFlow.Pattern.Names

/-!
# Synthesized clauses

A declaration `pipe f(p1, ..., pn) when g -> body` stands for three clauses:

* `f(Error(e), _, ..., _) -> Error(e)` hands an error through;
* `f(Ok(x), p2', ..., pn') when g -> f(x, a2, ..., an)` unwraps a successful first argument;
* `f(p1, ..., pn) when g -> body` is the declaration itself.

Here `p2'` to `pn'` are the other patterns with real names for their anonymous ones, and `a2` to
`an` are names for the other arguments. A `def` declaration, or one without parameters, stands for
itself alone.
-/

namespace ClauseFlow

namespace Pattern

/-- A step that may take names from a supply. -/
abbrev Naming := StateM NameSupply

/-- A numbered name. -/
def newName (base : String) : Naming String :=
  fun supply => supply.numbered base

mutual

/-- Gives every anonymous name inside a pattern a real one. The rest of a list is named before its
elements, and a whole before its parts. -/
def nameAnonymous (base : String) : Pattern → Naming Pattern
  | .literal value span => return .literal value span
  | .wildcard span => return .wildcard span
  | .binding name span => do
      if isAnonymous name then return .binding (← newName base) span
      else return .binding name span
  | .tuple elements span => return .tuple (← nameAnonymousAll base elements) span
  | .list elements none span => return .list (← nameAnonymousAll base elements) none span
  | .list elements (some tail) span => do
      let tail ← nameAnonymous base tail
      return .list (← nameAnonymousAll base elements) (some tail) span
  | .map entries span => return .map (← nameAnonymousEntries base entries) span
  | .record tag entries span => return .record tag (← nameAnonymousEntries base entries) span
  | .result tag inner span => return .result tag (← nameAnonymous base inner) span
  | .named inner name span => do
      let name ← if isAnonymous name then newName base else pure name
      return .named (← nameAnonymous base inner) name span

def nameAnonymousAll (base : String) : List Pattern → Naming (List Pattern)
  | [] => return []
  | pattern :: rest => do
      let named ← nameAnonymous base pattern
      return named :: (← nameAnonymousAll base rest)

def nameAnonymousEntries (base : String) :
    List (String × Pattern) → Naming (List (String × Pattern))
  | [] => return []
  | (key, pattern) :: rest => do
      let named ← nameAnonymous base pattern
      return (key, named) :: (← nameAnonymousEntries base rest)

end

end Pattern

namespace Declaration

/-- The names that a declaration uses in its head: the function, the names its patterns introduce
and every identifier of its guard. -/
def takenNames (declaration : Declaration) : List String :=
  let guardNames := (declaration.guard?.map Expr.spelledNames).getD []
  (Pattern.bindingsOfAll declaration.params).map (·.name) ++
    declaration.head.name :: guardNames

/-- The declaration itself as a clause. -/
def defaultClause (declaration : Declaration) (order : Nat) : Clause where
  kind := .default
  signature := declaration.signature
  head := declaration.head.withParams declaration.params
  body := declaration.body
  order := order

/-- The name of an error's payload. -/
def payloadName : String := "e"

/-- The clause that hands an error through whatever the other arguments are. -/
def errorClause (declaration : Declaration) (order : Nat) : Clause where
  kind := .errorPassthrough
  signature := declaration.signature
  head := .plain
    { name := declaration.head.name
      params :=
        .result .error (.binding payloadName .generated) .generated ::
          declaration.params.tail.map fun _ => .wildcard .generated
      span := .generated }
  body := .result .error (.ident ⟨payloadName, .generated⟩) .generated
  order := order

/-- The base of the names that are made up for an unwrapping clause. -/
def unwrappedBase : String := "x"

/-- A parameter that keeps what it fits under a name, and that name. -/
def namedParam (base : String) (param : Pattern) : Pattern.Naming (Pattern × String) := do
  let named ←
    match param with
    | .wildcard span => do
        let name ← Pattern.newName base
        pure (.binding name span)
    | other => other.nameAnonymous base
  match named with
  | .binding name _ | .named _ name _ => return (named, name)
  | _ => do
      let name ← Pattern.newName base
      return (.named named name named.span, name)

/-- Parameters that keep what they fit under names, and those names. -/
def namedParams (base : String) : List Pattern → Pattern.Naming (List (Pattern × String))
  | [] => return []
  | param :: rest => do
      let named ← namedParam base param
      return named :: (← namedParams base rest)

/-- The clause that unwraps a successful first argument and calls the function again. -/
def okClause (declaration : Declaration) (order : Nat) : Clause :=
  let (first, supply) := NameSupply.fresh ⟨declaration.takenNames⟩ unwrappedBase
  let (others, _) := (namedParams unwrappedBase declaration.params.tail).run supply
  let argument (name : String) : Expr := .ident ⟨name, .generated⟩
  { kind := .okUnwrap
    signature := declaration.signature
    head := declaration.head.withParams
      (.result .ok (.binding first .generated) .generated :: others.map (·.1))
    body := .delegate ⟨declaration.head.name, .generated⟩
      (argument first :: others.map fun other => argument other.2) .generated
    order := order }

/-- All clauses of a declaration, the declaration itself first. -/
def clauses (declaration : Declaration) (order : Nat) : List Clause :=
  if declaration.synthesized && !declaration.params.isEmpty then
    [declaration.defaultClause order, declaration.errorClause order, declaration.okClause order]
  else [declaration.defaultClause order]

end Declaration
end ClauseFlow

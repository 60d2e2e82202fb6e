import ClauseFlow.Declaration

/-!
# Clauses

A clause is one alternative of a function: it answers a call if its patterns fit the arguments and
its guard, if any, holds. Calls try the clauses of a function in order.
-/

namespace ClauseFlow

/-- Where a clause comes from: it is the declaration itself, it hands errors through, or it unwraps
a successful first argument. -/
inductive ClauseKind where
  | default
  | errorPassthrough
  | okUnwrap
  deriving DecidableEq, Repr

namespace ClauseKind

def text : ClauseKind → String
  | default => "default"
  | errorPassthrough => "error-passthrough"
  | okUnwrap => "ok-unwrap"

/-- All kinds, as declared. -/
def all : List ClauseKind :=
  [default, errorPassthrough, okUnwrap]

end ClauseKind

/-- A clause, with the index of the declaration that it comes from. -/
structure Clause where
  kind : ClauseKind
  signature : Signature
  head : Head
  body : Expr
  order : Nat
  deriving DecidableEq

namespace Clause

def params (clause : Clause) : List Pattern :=
  clause.head.params

def guard? (clause : Clause) : Option Expr :=
  clause.head.guard?

end Clause
end ClauseFlow

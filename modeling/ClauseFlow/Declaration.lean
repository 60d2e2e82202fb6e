import ClauseFlow.Expr
import ClauseFlow.Signature

/-!
# Declarations

A module is a sequence of declarations. Each one declares a function by a head, that is a name, one
pattern per parameter and possibly a guard, and by a body.
-/

namespace ClauseFlow

/-- A name with its parameters. -/
structure FunctionHead where
  name : String
  params : List Pattern
  span : Span
  deriving DecidableEq

inductive Head where
  | plain (function : FunctionHead)
  | guarded (function : FunctionHead) (guard : Expr) (span : Span)
  deriving DecidableEq

namespace Head

def function : Head → FunctionHead
  | plain function => function
  | guarded function _ _ => function

def name (head : Head) : String :=
  head.function.name

def params (head : Head) : List Pattern :=
  head.function.params

def guard? : Head → Option Expr
  | plain _ => none
  | guarded _ guard _ => some guard

def span : Head → Span
  | plain function => function.span
  | guarded _ _ span => span

def signature (head : Head) : Signature :=
  ⟨head.name, head.params.length⟩

/-- The head with other parameters: the same name and guard, and the span of the whole head on all
its parts. -/
def withParams (head : Head) (params : List Pattern) : Head :=
  match head with
  | plain function => plain ⟨function.name, params, function.span⟩
  | guarded function guard span => guarded ⟨function.name, params, span⟩ guard span

end Head

/-- A declaration; a synthesized one, written `pipe`, also answers for results. -/
structure Declaration where
  head : Head
  body : Expr
  synthesized : Bool
  doc? : Option String
  span : Span
  deriving DecidableEq

namespace Declaration

def signature (declaration : Declaration) : Signature :=
  declaration.head.signature

def params (declaration : Declaration) : List Pattern :=
  declaration.head.params

def guard? (declaration : Declaration) : Option Expr :=
  declaration.head.guard?

end Declaration

structure Module where
  declarations : List Declaration
  span : Span
  deriving DecidableEq

end ClauseFlow

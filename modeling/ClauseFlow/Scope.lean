import ClauseFlow.Clause.Ordering
import ClauseFlow.Clause.Synthesis

/-!
# Declaration scopes

A scope takes declarations one after the other and collects the clauses of each. It is finalized
once, which yields the clauses of all declarations in dispatch order; after that it takes nothing
more.
-/

namespace ClauseFlow

/-- The error of using a scope after it was finalized. -/
structure ScopeFinalized where
  name : String

def ScopeFinalized.message (error : ScopeFinalized) : String :=
  "scope " ++ error.name ++ " is already finalized"

/-- A scope: its name, the clauses collected so far for each kind, the index of the next
declaration, and the clauses in dispatch order once it is finalized. -/
structure Scope where
  name : String
  default : List Clause
  errorPassthrough : List Clause
  okUnwrap : List Clause
  nextOrder : Nat
  finalized? : Option (List Clause)

namespace Scope

def empty (name : String) : Scope :=
  ⟨name, [], [], [], 0, none⟩

def isFinalized (scope : Scope) : Bool :=
  scope.finalized?.isSome

/-- The clauses collected for a kind. -/
def collected (scope : Scope) : ClauseKind → List Clause
  | .default => scope.default
  | .errorPassthrough => scope.errorPassthrough
  | .okUnwrap => scope.okUnwrap

/-- How many clauses were collected. -/
def size (scope : Scope) : Nat :=
  scope.default.length + scope.errorPassthrough.length + scope.okUnwrap.length

/-- Collects a clause. -/
def add (scope : Scope) (clause : Clause) : Scope :=
  match clause.kind with
  | .default => { scope with default := scope.default ++ [clause] }
  | .errorPassthrough => { scope with errorPassthrough := scope.errorPassthrough ++ [clause] }
  | .okUnwrap => { scope with okUnwrap := scope.okUnwrap ++ [clause] }

/-- Takes a declaration; answers its clauses. -/
def declare (scope : Scope) (declaration : Declaration) :
    Except ScopeFinalized (List Clause × Scope) :=
  if scope.isFinalized then .error ⟨scope.name⟩
  else
    let clauses := declaration.clauses scope.nextOrder
    .ok (clauses, { clauses.foldl add scope with nextOrder := scope.nextOrder + 1 })

/-- Puts the clauses of all declarations into dispatch order. -/
def finalize (scope : Scope) : Except ScopeFinalized (List Clause × Scope) :=
  if scope.isFinalized then .error ⟨scope.name⟩
  else
    let clauses := Clause.finalize scope.default scope.okUnwrap scope.errorPassthrough
    .ok (clauses, { scope with finalized? := some clauses })

end Scope

namespace Declaration

/-- The clauses of declarations that are numbered from `order` on. -/
def clausesFrom (order : Nat) : List Declaration → List Clause
  | [] => []
  | declaration :: rest => declaration.clauses order ++ clausesFrom (order + 1) rest

end Declaration

namespace Clause

/-- The clauses of one kind. -/
def ofKind (kind : ClauseKind) (clauses : List Clause) : List Clause :=
  clauses.filter fun clause => clause.kind = kind

/-- The clauses of a sequence of declarations in dispatch order. -/
def ofDeclarations (declarations : List Declaration) : List Clause :=
  let clauses := Declaration.clausesFrom 0 declarations
  finalize (ofKind .default clauses) (ofKind .okUnwrap clauses)
    (ofKind .errorPassthrough clauses)

end Clause
end ClauseFlow

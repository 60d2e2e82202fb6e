import ClauseFlow.Expr
import ClauseFlow.Signature

/-!
# Names in expressions

Which names an expression spells, which of them it uses as values, and which functions it calls. The
parameters of a lambda are local to its body and are passed over.
-/

namespace ClauseFlow

/-- A call by name: the function, how many arguments it gets, and where. -/
structure NamedCall where
  signature : Signature
  span : Span
  deriving DecidableEq, Repr

namespace Expr

mutual

/-- Every identifier spelled anywhere in an expression: values, callees and lambda parameters. -/
def spelledNames : Expr → List String
  | .integer .. | .decimal .. | .text .. | .atom .. | .boolean .. | .nil _ | .typeName .. => []
  | .ident identifier => [identifier.name]
  | .binary left _ right _ | .alternative left right _ => spelledNames left ++ spelledNames right
  | .unary _ operand _ => spelledNames operand
  | .call callee arguments _ | .delegate callee arguments _ =>
      callee.name :: spelledByAll arguments
  | .field subject _ _ => spelledNames subject
  | .pipe left callee _ => spelledNames left ++ [callee.name]
  | .pipeCall left callee arguments _ _ =>
      spelledNames left ++ callee.name :: spelledByAll arguments
  | .result _ value _ => spelledNames value
  | .tuple elements _ => spelledByAll elements
  | .list elements none _ => spelledByAll elements
  | .list elements (some tail) _ => spelledByAll elements ++ spelledNames tail
  | .map entries _ | .record _ entries _ => spelledByEntries entries
  | .lambda params body _ => params ++ spelledNames body
  | .conditional condition thenBranch elseBranch _ =>
      spelledNames condition ++ spelledNames thenBranch ++ spelledNames elseBranch

def spelledByAll : List Expr → List String
  | [] => []
  | expr :: rest => spelledNames expr ++ spelledByAll rest

def spelledByEntries : List (String × Expr) → List String
  | [] => []
  | (_, expr) :: rest => spelledNames expr ++ spelledByEntries rest

end

mutual

/-- The names used as values that are not local. A callee is not among them. -/
def references (locals : List String) : Expr → List Identifier
  | .integer .. | .decimal .. | .text .. | .atom .. | .boolean .. | .nil _ | .typeName .. => []
  | .ident identifier => if locals.contains identifier.name then [] else [identifier]
  | .binary left _ right _ | .alternative left right _ =>
      references locals left ++ references locals right
  | .unary _ operand _ => references locals operand
  | .call _ arguments _ | .delegate _ arguments _ => referencesOfAll locals arguments
  | .field subject _ _ => references locals subject
  | .pipe left _ _ => references locals left
  | .pipeCall left _ arguments _ _ =>
      references locals left ++ referencesOfAll locals arguments
  | .result _ value _ => references locals value
  | .tuple elements _ => referencesOfAll locals elements
  | .list elements none _ => referencesOfAll locals elements
  | .list elements (some tail) _ => referencesOfAll locals elements ++ references locals tail
  | .map entries _ | .record _ entries _ => referencesOfEntries locals entries
  | .lambda params body _ => references (params ++ locals) body
  | .conditional condition thenBranch elseBranch _ =>
      references locals condition ++ references locals thenBranch ++ references locals elseBranch

def referencesOfAll (locals : List String) : List Expr → List Identifier
  | [] => []
  | expr :: rest => references locals expr ++ referencesOfAll locals rest

def referencesOfEntries (locals : List String) : List (String × Expr) → List Identifier
  | [] => []
  | (_, expr) :: rest => references locals expr ++ referencesOfEntries locals rest

end

/-- The call of a name that is not local. -/
def namedCall (locals : List String) (callee : Identifier) (arity : Nat) (span : Span) :
    List NamedCall :=
  if locals.contains callee.name then [] else [⟨⟨callee.name, arity⟩, span⟩]

mutual

/-- The calls of names that are not local. A pipe passes its left side as a first argument. -/
def calls (locals : List String) : Expr → List NamedCall
  | .integer .. | .decimal .. | .text .. | .atom .. | .boolean .. | .nil _ | .ident _
  | .typeName .. => []
  | .binary left _ right _ | .alternative left right _ => calls locals left ++ calls locals right
  | .unary _ operand _ => calls locals operand
  | .call callee arguments span | .delegate callee arguments span =>
      namedCall locals callee arguments.length span ++ callsOfAll locals arguments
  | .field subject _ _ => calls locals subject
  | .pipe left callee _ => calls locals left ++ namedCall locals callee 1 callee.span
  | .pipeCall left callee arguments callSpan _ =>
      calls locals left ++ namedCall locals callee (arguments.length + 1) callSpan ++
        callsOfAll locals arguments
  | .result _ value _ => calls locals value
  | .tuple elements _ => callsOfAll locals elements
  | .list elements none _ => callsOfAll locals elements
  | .list elements (some tail) _ => callsOfAll locals elements ++ calls locals tail
  | .map entries _ | .record _ entries _ => callsOfEntries locals entries
  | .lambda params body _ => calls (params ++ locals) body
  | .conditional condition thenBranch elseBranch _ =>
      calls locals condition ++ calls locals thenBranch ++ calls locals elseBranch

def callsOfAll (locals : List String) : List Expr → List NamedCall
  | [] => []
  | expr :: rest => calls locals expr ++ callsOfAll locals rest

def callsOfEntries (locals : List String) : List (String × Expr) → List NamedCall
  | [] => []
  | (_, expr) :: rest => calls locals expr ++ callsOfEntries locals rest

end

end Expr
end ClauseFlow

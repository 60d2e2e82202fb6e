import ClauseFlow.Clause

/-!
# Shapes

The shape of a clause is what is left of its patterns and its guard when each variable is replaced
by the number of its first appearance. Clauses of one shape answer the same calls, so of several
clauses with one shape only the first can ever be reached. Bodies and spans take no part in a shape.
-/

namespace ClauseFlow

namespace Shape

/-- A shape as a tree of words, constants and numbers. -/
inductive Tree where
  | absent
  | flag (value : Bool)
  | word (text : String)
  | integer (value : Int)
  | decimal (value : Binary64)
  | constant (value : Literal)
  | branch (parts : List Tree)

namespace Tree

mutual

def same : Tree → Tree → Bool
  | .absent, .absent => true
  | .flag value, .flag value' => value = value'
  | .word text, .word text' => text = text'
  | .integer value, .integer value' => value = value'
  | .decimal value, .decimal value' => value = value'
  | .constant value, .constant value' => value = value'
  | .branch parts, .branch parts' => sameAll parts parts'
  | _, _ => false

def sameAll : List Tree → List Tree → Bool
  | [], [] => true
  | first :: rest, first' :: rest' => same first first' && sameAll rest rest'
  | _, _ => false

end

mutual

theorem same_iff : ∀ first second : Tree, same first second = true ↔ first = second
  | .absent, second | .flag _, second | .word _, second | .integer _, second
  | .decimal _, second | .constant _, second => by cases second <;> simp [same]
  | .branch parts, second => by cases second <;> simp [same, sameAll_iff parts]

theorem sameAll_iff : ∀ first second : List Tree, sameAll first second = true ↔ first = second
  | [], second => by cases second <;> simp [sameAll]
  | tree :: rest, second => by
      cases second <;> simp [sameAll, same_iff tree, sameAll_iff rest]

end

instance : DecidableEq Tree := fun first second =>
  decidable_of_iff _ (same_iff first second)

/-- A constant with the sign of a zero forgotten: both zeros fit the same values. -/
def unsignConstant : Literal → Literal
  | .decimal value => .decimal value.unsignZero
  | other => other

mutual

/-- A tree with the signs of zeros forgotten. -/
def unsigned : Tree → Tree
  | .decimal value => .decimal value.unsignZero
  | .constant value => .constant (unsignConstant value)
  | .branch parts => .branch (unsignedAll parts)
  | other => other

def unsignedAll : List Tree → List Tree
  | [] => []
  | tree :: rest => unsigned tree :: unsignedAll rest

end

/-- A word under the name of its type. -/
def text (value : String) : Tree :=
  .branch [.word "str", .word value]

def node (label : String) (parts : List Tree) : Tree :=
  .branch (.word label :: parts)

end Tree

/-! ## Numbering variables -/

/-- The numbers given to names so far, and the next number. -/
structure Numbering where
  numbers : List (String × Nat)
  next : Nat

abbrev Numbered := StateM Numbering

/-- A variable of its own. -/
def unnamedVariable : Numbered Tree :=
  fun state =>
    (.node "var" [.integer state.next], { state with next := state.next + 1 })

/-- The variable of a name; each appearance of an anonymous name is a variable of its own. -/
def variableOf (name : String) : Numbered Tree :=
  if isAnonymous name then unnamedVariable
  else fun state =>
    match state.numbers.lookup name with
    | some number => (.node "var" [.integer number], state)
    | none =>
        (.node "var" [.integer state.next], ⟨(name, state.next) :: state.numbers, state.next + 1⟩)

/-- The variables of several names in a row. -/
def variablesOf : List String → Numbered (List Tree)
  | [] => return []
  | name :: rest => do
      let first ← variableOf name
      return first :: (← variablesOf rest)

/-- A use of a name: a variable that has a number, or a name from elsewhere. -/
def useOf (name : String) : Numbered Tree :=
  fun state =>
    match state.numbers.lookup name with
    | some number => (.node "var" [.integer number], state)
    | none => (.node "name" [.word name], state)

/-! ## Patterns and guards -/

/-- The type of a constant. -/
def typeOf : Literal → String
  | .nil => "NoneType"
  | .boolean _ => "bool"
  | .integer _ => "int"
  | .decimal _ => "float"
  | .text _ => "str"
  | .atom _ => "Atom"

mutual

def ofPattern : Pattern → Numbered Tree
  | .literal value _ => return .node "lit" [.word (typeOf value), .constant value]
  | .wildcard _ => return .node "_" []
  | .binding name _ => variableOf name
  | .tuple elements _ => return .node "tuple" [.branch (← ofPatterns elements)]
  | .list elements none _ => return .node "list" [.branch (← ofPatterns elements), .absent]
  | .list elements (some tail) _ => do
      let elements ← ofPatterns elements
      return .node "list" [.branch elements, ← ofPattern tail]
  | .map entries _ => return .node "map" [.branch (← ofPatternEntries entries)]
  | .record tag entries _ =>
      return .node "record" [.word tag, .branch (← ofPatternEntries entries)]
  | .result tag inner _ => return .node "result" [.word tag.text, ← ofPattern inner]
  | .named inner name _ => do
      let inner ← ofPattern inner
      return .node "alias" [inner, ← variableOf name]

def ofPatterns : List Pattern → Numbered (List Tree)
  | [] => return []
  | pattern :: rest => do
      let first ← ofPattern pattern
      return first :: (← ofPatterns rest)

def ofPatternEntries : List (String × Pattern) → Numbered (List Tree)
  | [] => return []
  | (key, pattern) :: rest => do
      let value ← ofPattern pattern
      return .branch [.word key, value] :: (← ofPatternEntries rest)

end

mutual

def ofExpr : Expr → Numbered Tree
  | .integer value _ =>
      return .node "IntegerLit" [.branch [.word "int", .integer value]]
  | .decimal value _ =>
      return .node "DecimalLit" [.branch [.word "float", .decimal value]]
  | .text value _ => return .node "StringLit" [.text value]
  | .atom name _ => return .node "AtomLit" [.text name]
  | .boolean value _ => return .node "BooleanLit" [.branch [.word "bool", .flag value]]
  | .nil _ => return .node "NilLit" []
  | .ident identifier => useOf identifier.name
  | .typeName name _ => return .node "TypeIdentifierExpr" [.text name]
  | .binary left op right _ => do
      let left ← ofExpr left
      return .node "BinaryExpr" [left, .text op.text, ← ofExpr right]
  | .unary op operand _ => return .node "UnaryExpr" [.text op.text, ← ofExpr operand]
  | .call callee arguments _ => do
      let function ← useOf callee.name
      return .node "CallExpr" [function, .branch (← ofExprs arguments)]
  | .delegate callee arguments _ => do
      let function ← useOf callee.name
      return .node "DelegateExpr" [function, .branch (← ofExprs arguments)]
  | .field subject name _ => return .node "FieldExpr" [← ofExpr subject, .text name]
  | .pipe left callee _ => do
      let left ← ofExpr left
      return .node "PipeExpr" [left, ← useOf callee.name]
  | .pipeCall left callee arguments _ _ => do
      let left ← ofExpr left
      let function ← useOf callee.name
      let arguments ← ofExprs arguments
      return .node "PipeExpr" [left, .node "CallExpr" [function, .branch arguments]]
  | .alternative left right _ => do
      let left ← ofExpr left
      return .node "AlternativeExpr" [left, ← ofExpr right]
  | .result tag value _ => return .node "ResultExpr" [.text tag.text, ← ofExpr value]
  | .tuple elements _ => return .node "TupleLiteral" [.branch (← ofExprs elements)]
  | .list elements none _ =>
      return .node "ListLiteral"
        [.branch (← ofExprs elements), .branch [.word "NoneType", .absent]]
  | .list elements (some tail) _ => do
      let elements ← ofExprs elements
      return .node "ListLiteral" [.branch elements, ← ofExpr tail]
  | .map entries _ => return .node "MapLiteral" [.branch (← ofExprEntries entries)]
  | .record tag entries _ =>
      return .node "RecordLiteral" [.text tag, .branch (← ofExprEntries entries)]
  | .lambda params body _ => do
      let params ← variablesOf params
      return .node "fn" [.branch params, ← ofExpr body]
  | .conditional condition thenBranch elseBranch _ => do
      let condition ← ofExpr condition
      let thenBranch ← ofExpr thenBranch
      return .node "IfExpr" [condition, thenBranch, ← ofExpr elseBranch]

def ofExprs : List Expr → Numbered (List Tree)
  | [] => return []
  | expr :: rest => do
      let first ← ofExpr expr
      return first :: (← ofExprs rest)

def ofExprEntries : List (String × Expr) → Numbered (List Tree)
  | [] => return []
  | (key, expr) :: rest => do
      let value ← ofExpr expr
      return .branch [.text key, value] :: (← ofExprEntries rest)

end

/-- The guard of a clause, or its absence. -/
def ofGuard : Option Expr → Numbered Tree
  | some guard => ofExpr guard
  | none => return .absent

end Shape

/-- The shape of a clause: its function, its kind, and its patterns and guard up to the names of
variables. -/
structure Shape where
  signature : Signature
  kind : ClauseKind
  tree : Shape.Tree
  deriving DecidableEq

namespace Shape

/-- Patterns and guard as one tree; a mark stands for the body. -/
def treeOf (params : List Pattern) (guard? : Option Expr) : Tree :=
  let numbered : Numbered Tree := do
    let params ← ofPatterns params
    let guard ← ofGuard guard?
    return .branch [.branch params, guard, .branch [.word "body"]]
  (numbered.run ⟨[], 0⟩).1

/-- A shape with the signs of zeros forgotten; shapes are compared in this form. -/
def unsigned (shape : Shape) : Shape :=
  { shape with tree := shape.tree.unsigned }

end Shape

namespace Clause

/-- The shape of a clause as it is written. -/
def shape (clause : Clause) : Shape :=
  ⟨clause.signature, clause.kind, Shape.treeOf clause.params clause.guard?⟩

/-- The shape by which clauses are told apart. -/
def shapeKey (clause : Clause) : Shape :=
  clause.shape.unsigned

end Clause
end ClauseFlow

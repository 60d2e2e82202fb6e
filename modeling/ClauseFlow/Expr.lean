import ClauseFlow.Pattern

/-!
# Expressions

The expressions of guards and bodies. Parentheses leave no trace. What is called is always a name:
the grammar admits no other callee.
-/

namespace ClauseFlow

inductive BinaryOp where
  | add
  | sub
  | mul
  | div
  | mod
  | concat
  | equal
  | notEqual
  | less
  | greater
  | lessEqual
  | greaterEqual
  | and
  | or
  deriving DecidableEq, Repr

def BinaryOp.text : BinaryOp → String
  | add => "+"
  | sub => "-"
  | mul => "*"
  | div => "/"
  | mod => "%"
  | concat => "<>"
  | equal => "=="
  | notEqual => "!="
  | less => "<"
  | greater => ">"
  | lessEqual => "<="
  | greaterEqual => ">="
  | and => "and"
  | or => "or"

inductive UnaryOp where
  | not
  | negate
  deriving DecidableEq, Repr

def UnaryOp.text : UnaryOp → String
  | not => "not"
  | negate => "-"

inductive Expr where
  | integer (value : Nat) (span : Span)
  | decimal (value : Binary64) (span : Span)
  | text (value : String) (span : Span)
  | atom (name : String) (span : Span)
  | boolean (value : Bool) (span : Span)
  | nil (span : Span)
  | ident (identifier : Identifier)
  | typeName (name : String) (span : Span)
  | binary (left : Expr) (op : BinaryOp) (right : Expr) (span : Span)
  | unary (op : UnaryOp) (operand : Expr) (span : Span)
  /-- A call of a name: a local function, a declared function or a builtin. -/
  | call (callee : Identifier) (arguments : List Expr) (span : Span)
  /-- A call that always goes to the declared function of that name, whatever is bound to it. -/
  | delegate (callee : Identifier) (arguments : List Expr) (span : Span)
  | field (subject : Expr) (name : String) (span : Span)
  /-- `left |> callee`. -/
  | pipe (left : Expr) (callee : Identifier) (span : Span)
  /-- `left |> callee(arguments)`; the right side has a span of its own. -/
  | pipeCall (left : Expr) (callee : Identifier) (arguments : List Expr) (callSpan : Span)
      (span : Span)
  /-- `left <|> right`: the right side if the left one is an error. -/
  | alternative (left right : Expr) (span : Span)
  | result (tag : ResultTag) (value : Expr) (span : Span)
  | tuple (elements : List Expr) (span : Span)
  | list (elements : List Expr) (tail : Option Expr) (span : Span)
  | map (entries : List (String × Expr)) (span : Span)
  | record (tag : String) (entries : List (String × Expr)) (span : Span)
  | lambda (params : List String) (body : Expr) (span : Span)
  | conditional (condition thenBranch elseBranch : Expr) (span : Span)

namespace Expr

instance : Inhabited Expr := ⟨.nil .generated⟩

def span : Expr → Span
  | integer _ span | decimal _ span | text _ span | atom _ span | boolean _ span | nil span
  | typeName _ span | binary _ _ _ span | unary _ _ span | call _ _ span | delegate _ _ span
  | field _ _ span | pipe _ _ span | pipeCall _ _ _ _ span | alternative _ _ span
  | result _ _ span | tuple _ span | list _ _ span | map _ span | record _ _ span
  | lambda _ _ span | conditional _ _ _ span => span
  | ident identifier => identifier.span

/-- The kind of an expression in outlines. -/
def label : Expr → String
  | integer .. => "IntegerLit"
  | decimal .. => "DecimalLit"
  | text .. => "StringLit"
  | atom .. => "AtomLit"
  | boolean .. => "BooleanLit"
  | nil .. => "NilLit"
  | ident .. => "IdentifierExpr"
  | typeName .. => "TypeIdentifierExpr"
  | binary .. => "BinaryExpr"
  | unary .. => "UnaryExpr"
  | call .. => "CallExpr"
  | delegate .. => "DelegateExpr"
  | field .. => "FieldExpr"
  | pipe .. | pipeCall .. => "PipeExpr"
  | alternative .. => "AlternativeExpr"
  | result .. => "ResultExpr"
  | tuple .. => "TupleLiteral"
  | list .. => "ListLiteral"
  | map .. => "MapLiteral"
  | record .. => "RecordLiteral"
  | lambda .. => "LambdaExpr"
  | conditional .. => "IfExpr"

/-- The direct parts of an expression, from left to right; the callee of a call is one of them. -/
def children : Expr → List Expr
  | binary left _ right _ | alternative left right _ => [left, right]
  | unary _ operand _ => [operand]
  | call callee arguments _ | delegate callee arguments _ => ident callee :: arguments
  | field subject _ _ => [subject]
  | pipe left callee _ => [left, ident callee]
  | pipeCall left callee arguments callSpan _ => [left, call callee arguments callSpan]
  | result _ value _ => [value]
  | tuple elements _ => elements
  | list elements tail _ => elements ++ tail.toList
  | map entries _ | record _ entries _ => entries.map (·.2)
  | lambda _ body _ => [body]
  | conditional condition thenBranch elseBranch _ => [condition, thenBranch, elseBranch]
  | integer .. | decimal .. | text .. | atom .. | boolean .. | nil .. | ident .. | typeName .. => []

/-! ## Equality -/

mutual

/-- Whether two expressions are the same, spans included. -/
def same : Expr → Expr → Bool
  | .integer value span, .integer value' span' => value = value' && span = span'
  | .decimal value span, .decimal value' span' => value = value' && span = span'
  | .text value span, .text value' span' => value = value' && span = span'
  | .atom name span, .atom name' span' => name = name' && span = span'
  | .boolean value span, .boolean value' span' => value = value' && span = span'
  | .nil span, .nil span' => span = span'
  | .ident identifier, .ident identifier' => identifier = identifier'
  | .typeName name span, .typeName name' span' => name = name' && span = span'
  | .binary left op right span, .binary left' op' right' span' =>
      same left left' && op = op' && same right right' && span = span'
  | .unary op operand span, .unary op' operand' span' =>
      op = op' && same operand operand' && span = span'
  | .call callee arguments span, .call callee' arguments' span' =>
      callee = callee' && sameAll arguments arguments' && span = span'
  | .delegate callee arguments span, .delegate callee' arguments' span' =>
      callee = callee' && sameAll arguments arguments' && span = span'
  | .field subject name span, .field subject' name' span' =>
      same subject subject' && name = name' && span = span'
  | .pipe left callee span, .pipe left' callee' span' =>
      same left left' && callee = callee' && span = span'
  | .pipeCall left callee arguments callSpan span,
      .pipeCall left' callee' arguments' callSpan' span' =>
      same left left' && callee = callee' && sameAll arguments arguments' &&
        callSpan = callSpan' && span = span'
  | .alternative left right span, .alternative left' right' span' =>
      same left left' && same right right' && span = span'
  | .result tag value span, .result tag' value' span' =>
      tag = tag' && same value value' && span = span'
  | .tuple elements span, .tuple elements' span' => sameAll elements elements' && span = span'
  | .list elements none span, .list elements' none span' =>
      sameAll elements elements' && span = span'
  | .list elements (some tail) span, .list elements' (some tail') span' =>
      sameAll elements elements' && same tail tail' && span = span'
  | .map entries span, .map entries' span' => sameEntries entries entries' && span = span'
  | .record tag entries span, .record tag' entries' span' =>
      tag = tag' && sameEntries entries entries' && span = span'
  | .lambda params body span, .lambda params' body' span' =>
      params = params' && same body body' && span = span'
  | .conditional condition thenBranch elseBranch span,
      .conditional condition' thenBranch' elseBranch' span' =>
      same condition condition' && same thenBranch thenBranch' && same elseBranch elseBranch' &&
        span = span'
  | _, _ => false

def sameAll : List Expr → List Expr → Bool
  | [], [] => true
  | first :: rest, first' :: rest' => same first first' && sameAll rest rest'
  | _, _ => false

def sameEntries : List (String × Expr) → List (String × Expr) → Bool
  | [], [] => true
  | (key, value) :: rest, (key', value') :: rest' =>
      key = key' && same value value' && sameEntries rest rest'
  | _, _ => false

end

mutual

theorem same_iff : ∀ first second : Expr, same first second = true ↔ first = second
  | .integer .., second | .decimal .., second | .text .., second | .atom .., second
  | .boolean .., second | .nil .., second | .ident .., second | .typeName .., second => by
      cases second <;> simp [same]
  | .binary left _ right _, second => by
      cases second <;> simp [same, same_iff left, same_iff right, and_assoc]
  | .unary _ operand _, second => by cases second <;> simp [same, same_iff operand, and_assoc]
  | .call _ arguments _, second => by
      cases second <;> simp [same, sameAll_iff arguments, and_assoc]
  | .delegate _ arguments _, second => by
      cases second <;> simp [same, sameAll_iff arguments, and_assoc]
  | .field subject _ _, second => by cases second <;> simp [same, same_iff subject, and_assoc]
  | .pipe left _ _, second => by cases second <;> simp [same, same_iff left, and_assoc]
  | .pipeCall left _ arguments _ _, second => by
      cases second <;> simp [same, same_iff left, sameAll_iff arguments, and_assoc]
  | .alternative left right _, second => by
      cases second <;> simp [same, same_iff left, same_iff right, and_assoc]
  | .result _ value _, second => by cases second <;> simp [same, same_iff value, and_assoc]
  | .tuple elements _, second => by cases second <;> simp [same, sameAll_iff elements]
  | .list elements none _, second => by
      cases second with
      | list elements' tail' span' => cases tail' <;> simp [same, sameAll_iff elements]
      | _ => simp [same]
  | .list elements (some tail) _, second => by
      cases second with
      | list elements' tail' span' =>
          cases tail' <;> simp [same, sameAll_iff elements, same_iff tail, and_assoc]
      | _ => simp [same]
  | .map entries _, second => by cases second <;> simp [same, sameEntries_iff entries]
  | .record _ entries _, second => by
      cases second <;> simp [same, sameEntries_iff entries, and_assoc]
  | .lambda _ body _, second => by cases second <;> simp [same, same_iff body, and_assoc]
  | .conditional condition thenBranch elseBranch _, second => by
      cases second <;>
        simp [same, same_iff condition, same_iff thenBranch, same_iff elseBranch, and_assoc]

theorem sameAll_iff : ∀ first second : List Expr, sameAll first second = true ↔ first = second
  | [], second => by cases second <;> simp [sameAll]
  | expr :: rest, second => by
      cases second <;> simp [sameAll, same_iff expr, sameAll_iff rest]

theorem sameEntries_iff : ∀ first second : List (String × Expr),
    sameEntries first second = true ↔ first = second
  | [], second => by cases second <;> simp [sameEntries]
  | (key, expr) :: rest, second => by
      cases second with
      | nil => simp [sameEntries]
      | cons entry rest' =>
          obtain ⟨key', expr'⟩ := entry
          simp [sameEntries, same_iff expr, sameEntries_iff rest, and_assoc]

end

instance : DecidableEq Expr := fun first second =>
  decidable_of_iff _ (same_iff first second)

end Expr
end ClauseFlow

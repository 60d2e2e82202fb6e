import ClauseFlow.Expr
import ClauseFlow.Parse.Pattern

/-!
# Reading expressions

Operators bind by power: an operator is taken while its left power is at least the power asked for,
and its right operand is read with its right power. Field access and calls bind tighter than all of
them, the signs `not` and `-` come next.
-/

namespace ClauseFlow.Parse

/-- The left and right power of the operators between two operands. -/
def power? : TokenKind → Option (Nat × Nat)
  | .altArrow => some (1, 2)
  | .pipeArrow => some (3, 4)
  | .orKeyword => some (5, 6)
  | .andKeyword => some (7, 8)
  | .equal | .notEqual | .less | .greater | .lessEqual | .greaterEqual => some (9, 10)
  | .concat | .plus | .minus => some (11, 12)
  | .star | .slash | .percent => some (13, 14)
  | _ => none

/-- The power with which the operand of a sign is read. -/
def signPower : Nat := 15

def binaryOp? : TokenKind → Option BinaryOp
  | .plus => some .add
  | .minus => some .sub
  | .star => some .mul
  | .slash => some .div
  | .percent => some .mod
  | .concat => some .concat
  | .equal => some .equal
  | .notEqual => some .notEqual
  | .less => some .less
  | .greater => some .greater
  | .lessEqual => some .lessEqual
  | .greaterEqual => some .greaterEqual
  | .andKeyword => some .and
  | .orKeyword => some .or
  | _ => none

/-- The expression that an operator makes of its operands. -/
def combine (kind : TokenKind) (left right : Expr) : Parse Expr :=
  let span := left.span.through right.span
  match kind with
  | .pipeArrow =>
      match right with
      | .ident callee => return .pipe left callee span
      | .call callee arguments callSpan => return .pipeCall left callee arguments callSpan span
      | _ => fail (.pipeIntoNoCall right.span)
  | .altArrow => return .alternative left right span
  | _ => return .binary left ((binaryOp? kind).getD .add) right span

/-- A sign, a literal, a name, or a construct that begins with a mark or a keyword; `inner` reads
the expressions inside it with a given power. -/
def operand (inner : Nat → Parse Expr) (fuel : Nat) : Parse Expr := do
  let token ← current
  match token.kind with
  | .notKeyword | .minus =>
      discard advance
      let value ← inner signPower
      let op := if token.kind = .minus then UnaryOp.negate else UnaryOp.not
      return .unary op value (token.span.through value.span)
  | .integer =>
      discard advance
      return .integer (← integerOf token) token.span
  | .decimal =>
      discard advance
      return .decimal (← decimalOf token) token.span
  | .text =>
      discard advance
      return .text token.value token.span
  | .atom =>
      discard advance
      return .atom token.value token.span
  | .boolean =>
      discard advance
      return .boolean (token.value = "true") token.span
  | .nil =>
      discard advance
      return .nil token.span
  | .leftParen =>
      discard advance
      let value ← inner 0
      discard (expect .rightParen)
      return value
  | .okTag | .errorTag =>
      discard advance
      discard (expect .leftParen)
      let value ← inner 0
      let last ← expect .rightParen
      return .result ((resultTag? token.kind).getD .ok) value (token.span.through last.span)
  | .leftBrace =>
      discard advance
      let elements ← separated (inner 0) .rightBrace fuel true
      let last ← expect .rightBrace
      return .tuple elements (token.span.through last.span)
  | .leftBracket =>
      discard advance
      let (elements, tail) ← separatedWithTail (inner 0) fuel true
      let last ← expect .rightBracket
      return .list elements tail (token.span.through last.span)
  | .mapOpen =>
      discard advance
      let found ← entries (inner 0) fuel []
      let last ← expect .rightBrace
      return .map found (token.span.through last.span)
  | .ifKeyword =>
      discard advance
      let condition ← inner 0
      discard (expect .thenKeyword)
      let thenBranch ← inner 0
      discard (expect .elseKeyword)
      let elseBranch ← inner 0
      return .conditional condition thenBranch elseBranch (token.span.through elseBranch.span)
  | .fnKeyword =>
      discard advance
      discard (expect .leftParen)
      let params ← separated (expect .name) .rightParen fuel true
      discard (expect .rightParen)
      discard (expect .arrow)
      let body ← inner 0
      return .lambda (params.map (·.value)) body (token.span.through body.span)
  | .name =>
      discard advance
      return .ident ⟨token.value, token.span⟩
  | .typeName =>
      discard advance
      if ← at? .leftBrace then
        discard advance
        let found ← entries (inner 0) fuel []
        let last ← expect .rightBrace
        return .record token.value found (token.span.through last.span)
      else return .typeName token.value token.span
  | _ => fail (.expectedExpression token)

/-- What follows an operand: field access, calls, and operators of at least the given power. -/
def operators (inner : Nat → Parse Expr) (power : Nat) : (fuel : Nat) → (left : Expr) → Parse Expr
  | 0, _ => throw .tooDeep
  | fuel + 1, left => do
      let token ← current
      match token.kind, left with
      | .dot, _ =>
          discard advance
          let field ← expect .name
          operators inner power fuel (.field left field.value (left.span.through field.span))
      | .leftParen, .ident callee =>
          discard advance
          let arguments ← separated (inner 0) .rightParen fuel true
          let last ← expect .rightParen
          operators inner power fuel (.call callee arguments (callee.span.through last.span))
      | kind, _ =>
          match power? kind with
          | none => return left
          | some (leftPower, rightPower) =>
              if leftPower < power then return left
              else
                discard advance
                let right ← inner rightPower
                operators inner power fuel (← combine kind left right)

/-- An expression whose operators have at least the given power; `depth` bounds how deep expressions
are nested. -/
def expression : (depth : Nat) → (power : Nat) → Parse Expr
  | 0, _ => throw .tooDeep
  | depth + 1, power => do
      let left ← operand (expression depth) depth
      operators (expression depth) power depth left

end ClauseFlow.Parse

import ClauseFlow.Expr
import ClauseFlow.Pattern.Print

/-!
# Expressions as text

An expression is written with the fewest parentheses: an operand is put between parentheses only if
its operator binds looser than its place asks for.
-/

namespace ClauseFlow

/-- How tightly an operator binds in its written form. -/
def BinaryOp.precedence : BinaryOp → Nat
  | or => 3
  | and => 4
  | equal | notEqual | less | greater | lessEqual | greaterEqual => 5
  | add | sub | concat => 6
  | mul | div | mod => 7

namespace Expr

def alternativePrecedence : Nat := 1

def pipePrecedence : Nat := 2

def signPrecedence : Nat := 8

def fieldPrecedence : Nat := 9

/-- A text between parentheses if its place asks for a tighter binding than it has. -/
def parenthesized (own asked : Nat) (text : String) : String :=
  if own < asked then "(" ++ text ++ ")" else text

/-- Two operands with their operator between them. -/
def infixed (own asked : Nat) (left op right : String) : String :=
  parenthesized own asked (left ++ " " ++ op ++ " " ++ right)

mutual

/-- The text of an expression in a place that asks for a precedence. -/
def print (asked : Nat) : Expr → String
  | .integer value _ => Numeral.natText value
  | .decimal value _ => value.text
  | .text value _ => Text.literal value
  | .atom name _ => ":" ++ name
  | .boolean value _ => if value then "true" else "false"
  | .nil _ => "nil"
  | .ident identifier => identifier.name
  | .typeName name _ => name
  | .binary left op right _ =>
      infixed op.precedence asked (print op.precedence left) op.text
        (print (op.precedence + 1) right)
  | .unary .not operand _ =>
      parenthesized signPrecedence asked ("not " ++ print signPrecedence operand)
  | .unary .negate operand _ =>
      parenthesized signPrecedence asked ("-" ++ print signPrecedence operand)
  | .call callee arguments _ | .delegate callee arguments _ =>
      callee.name ++ "(" ++ Text.commas (printAll arguments) ++ ")"
  | .field subject name _ => print fieldPrecedence subject ++ "." ++ name
  | .pipe left callee _ =>
      infixed pipePrecedence asked (print pipePrecedence left) "|>" callee.name
  | .pipeCall left callee arguments _ _ =>
      infixed pipePrecedence asked (print pipePrecedence left) "|>"
        (callee.name ++ "(" ++ Text.commas (printAll arguments) ++ ")")
  | .alternative left right _ =>
      infixed alternativePrecedence asked (print alternativePrecedence left) "<|>"
        (print (alternativePrecedence + 1) right)
  | .result tag value _ => tag.text ++ "(" ++ print 0 value ++ ")"
  | .tuple elements _ => Text.braced (Text.commas (printAll elements))
  | .list elements none _ => Text.bracketed (Text.commas (printAll elements)) none
  | .list elements (some tail) _ =>
      Text.bracketed (Text.commas (printAll elements)) (some (print 0 tail))
  | .map entries _ => "%" ++ Text.braced (Text.keyed (printEntries entries))
  | .record tag entries _ => tag ++ Text.braced (Text.keyed (printEntries entries))
  | .lambda params body _ =>
      parenthesized 0 asked ("fn(" ++ Text.commas params ++ ") -> " ++ print 0 body)
  | .conditional condition thenBranch elseBranch _ =>
      parenthesized 0 asked
        ("if " ++ print 0 condition ++ " then " ++ print 0 thenBranch ++ " else " ++
          print 0 elseBranch)

def printAll : List Expr → List String
  | [] => []
  | expr :: rest => print 0 expr :: printAll rest

def printEntries : List (String × Expr) → List (String × String)
  | [] => []
  | (key, expr) :: rest => (key, print 0 expr) :: printEntries rest

end

mutual

/-- Whether all numbers in an expression have a notation. -/
def hasNotation : Expr → Bool
  | .integer value _ => Numeral.hasNumeral value
  | .decimal .. | .text .. | .atom .. | .boolean .. | .nil _ | .ident _ | .typeName .. => true
  | .binary left _ right _ | .alternative left right _ => hasNotation left && hasNotation right
  | .unary _ operand _ => hasNotation operand
  | .call _ arguments _ | .delegate _ arguments _ => allHaveNotation arguments
  | .field subject _ _ => hasNotation subject
  | .pipe left _ _ => hasNotation left
  | .pipeCall left _ arguments _ _ => hasNotation left && allHaveNotation arguments
  | .result _ value _ => hasNotation value
  | .tuple elements _ => allHaveNotation elements
  | .list elements none _ => allHaveNotation elements
  | .list elements (some tail) _ => allHaveNotation elements && hasNotation tail
  | .map entries _ | .record _ entries _ => entriesHaveNotation entries
  | .lambda _ body _ => hasNotation body
  | .conditional condition thenBranch elseBranch _ =>
      hasNotation condition && hasNotation thenBranch && hasNotation elseBranch

def allHaveNotation : List Expr → Bool
  | [] => true
  | expr :: rest => hasNotation expr && allHaveNotation rest

def entriesHaveNotation : List (String × Expr) → Bool
  | [] => true
  | (_, expr) :: rest => hasNotation expr && entriesHaveNotation rest

end

end Expr
end ClauseFlow

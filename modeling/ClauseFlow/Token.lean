import ClauseFlow.Span

/-!
# Tokens

The words, literals, operators and marks that a source text is made of, and which of them expect the
declaration to go on after a line break.
-/

namespace ClauseFlow

inductive TokenKind where
  | pipeKeyword
  | defKeyword
  | whenKeyword
  | ifKeyword
  | thenKeyword
  | elseKeyword
  | fnKeyword
  | andKeyword
  | orKeyword
  | notKeyword
  | okTag
  | errorTag
  | integer
  | decimal
  | text
  | atom
  | boolean
  | nil
  | plus
  | minus
  | star
  | slash
  | percent
  | concat
  | equal
  | notEqual
  | less
  | greater
  | lessEqual
  | greaterEqual
  | pipeArrow
  | altArrow
  | arrow
  | assign
  | dot
  | leftParen
  | rightParen
  | leftBracket
  | rightBracket
  | leftBrace
  | rightBrace
  | mapOpen
  | comma
  | colon
  | bar
  | newline
  | docComment
  | name
  | typeName
  | endOfText
  deriving DecidableEq, Repr

namespace TokenKind

/-- The name of a kind in messages. -/
def label : TokenKind → String
  | pipeKeyword => "PIPE_DECL"
  | defKeyword => "DEF"
  | whenKeyword => "WHEN"
  | ifKeyword => "IF"
  | thenKeyword => "THEN"
  | elseKeyword => "ELSE"
  | fnKeyword => "FN"
  | andKeyword => "AND"
  | orKeyword => "OR"
  | notKeyword => "NOT"
  | okTag => "OK"
  | errorTag => "ERROR"
  | integer => "INTEGER_LIT"
  | decimal => "DECIMAL_LIT"
  | text => "STRING_LIT"
  | atom => "ATOM_LIT"
  | boolean => "BOOLEAN_LIT"
  | nil => "NIL_LIT"
  | plus => "PLUS"
  | minus => "MINUS"
  | star => "STAR"
  | slash => "SLASH"
  | percent => "PERCENT"
  | concat => "CONCAT"
  | equal => "EQUAL"
  | notEqual => "NOT_EQUAL"
  | less => "LESS"
  | greater => "GREATER"
  | lessEqual => "LESS_EQUAL"
  | greaterEqual => "GREATER_EQUAL"
  | pipeArrow => "PIPE_ARROW"
  | altArrow => "ALT_ARROW"
  | arrow => "ARROW"
  | assign => "ASSIGN"
  | dot => "DOT"
  | leftParen => "LPAREN"
  | rightParen => "RPAREN"
  | leftBracket => "LBRACKET"
  | rightBracket => "RBRACKET"
  | leftBrace => "LBRACE"
  | rightBrace => "RBRACE"
  | mapOpen => "MAP_OPEN"
  | comma => "COMMA"
  | colon => "COLON"
  | bar => "PIPE"
  | newline => "NEWLINE"
  | docComment => "DOC_COMMENT"
  | name => "IDENTIFIER"
  | typeName => "TYPE_IDENTIFIER"
  | endOfText => "EOF"

/-- The kinds after which a line break never ends a declaration: an operand or the rest of a
construct has to follow. -/
def expectsMore : TokenKind → Bool
  | whenKeyword | ifKeyword | thenKeyword | elseKeyword | andKeyword | orKeyword | notKeyword
  | comma | plus | minus | star | slash | percent | concat | equal | notEqual | less | greater
  | lessEqual | greaterEqual | pipeArrow | altArrow | arrow | assign | dot | colon | bar
  | leftParen | leftBracket | leftBrace | mapOpen => true
  | _ => false

/-- The brackets that a later closing bracket answers. -/
def opens : TokenKind → Bool
  | leftParen | leftBracket | leftBrace | mapOpen => true
  | _ => false

def closes : TokenKind → Bool
  | rightParen | rightBracket | rightBrace => true
  | _ => false

/-- The number of open brackets after a token, given the number before it. -/
def depthAfter (kind : TokenKind) (depth : Nat) : Nat :=
  if kind.opens then depth + 1 else if kind.closes then depth - 1 else depth

/-- The kind of a word that is reserved. -/
def ofKeyword? (word : List Char) : Option TokenKind :=
  match String.ofList word with
  | "pipe" => some pipeKeyword
  | "def" => some defKeyword
  | "when" => some whenKeyword
  | "if" => some ifKeyword
  | "then" => some thenKeyword
  | "else" => some elseKeyword
  | "fn" => some fnKeyword
  | "and" => some andKeyword
  | "or" => some orKeyword
  | "not" => some notKeyword
  | "Ok" => some okTag
  | "Error" => some errorTag
  | "true" => some boolean
  | "false" => some boolean
  | "nil" => some nil
  | _ => none

end TokenKind

/-- A token: its kind, what it says, and where it stands. -/
structure Token where
  kind : TokenKind
  value : String
  span : Span
  deriving DecidableEq, Repr

end ClauseFlow

import ClauseFlow.Diagnostic
import ClauseFlow.Number.Numeral
import ClauseFlow.Text.Quoted
import ClauseFlow.Token.Layout

/-!
# Reading tokens

A parser step looks at the tokens still to come, takes some of them, and either answers or stops. It
may also record a syntax error and go on. Whatever happens, the tokens not yet taken are known
afterwards, so that reading can be taken up again at the next declaration.
-/

namespace ClauseFlow

/-- What can be wrong with a sequence of tokens. -/
inductive SyntaxError where
  | expected (kind : TokenKind) (found : Token)
  | expectedDeclaration (found : Token)
  | expectedPattern (found : Token)
  | expectedExpression (found : Token)
  | expectedRecordBrace (tag : Token)
  | afterDeclaration (found : Token)
  | afterExpression (found : Token)
  | pipeIntoNoCall (span : Span)
  | duplicateKey (key : Token)
  deriving DecidableEq, Repr

namespace SyntaxError

/-- A token in messages: its kind and what it says. -/
def describe (token : Token) : String :=
  token.kind.label ++ " (" ++ Text.quoted token.value ++ ")"

def message : SyntaxError → String
  | expected kind found => "expected " ++ kind.label ++ ", got " ++ describe found
  | expectedDeclaration found =>
      "expected 'pipe' or 'def' declaration, got " ++ describe found
  | expectedPattern found => "expected pattern, got " ++ describe found
  | expectedExpression found => "unexpected token in expression: " ++ describe found
  | expectedRecordBrace tag =>
      "expected '" ++ String.singleton '{' ++ "' after record tag '" ++ tag.value ++ "'"
  | afterDeclaration found => "unexpected token after declaration body: " ++ describe found
  | afterExpression found =>
      "unexpected token after expression: " ++ Text.quoted found.value
  | pipeIntoNoCall _ => "right side of |> must be a function call"
  | duplicateKey key => "duplicate key '" ++ key.value ++ "'"

def span : SyntaxError → Span
  | expected _ found | expectedDeclaration found | expectedPattern found
  | expectedExpression found | afterDeclaration found | afterExpression found => found.span
  | expectedRecordBrace tag => tag.span
  | pipeIntoNoCall span => span
  | duplicateKey key => key.span

def diagnostic (error : SyntaxError) : Diagnostic :=
  .atSpan .error "E200" error.message error.span []

end SyntaxError

/-- Why a parser step does not answer: a syntax error, which has been recorded; a numeral that
denotes no number; or a nesting deeper than the number of tokens allows. -/
inductive Stop where
  | syntaxError
  | unreadableNumeral
  | tooDeep
  deriving DecidableEq, Repr

/-- The tokens still to come, the mark after them, and the errors recorded so far. -/
structure Cursor where
  tokens : List Token
  finish : Token
  errors : List SyntaxError

def Cursor.ofStream (stream : TokenStream) : Cursor :=
  ⟨stream.tokens, stream.finish, []⟩

/-- A parser step. -/
abbrev Parse := EStateM Stop Cursor

namespace Parse

/-- The next token; at the end it is the mark there. -/
def current : Parse Token :=
  fun cursor => .ok (cursor.tokens.headD cursor.finish) cursor

/-- The token after the next one. -/
def following : Parse Token :=
  fun cursor => .ok (cursor.tokens.tail.headD cursor.finish) cursor

/-- Takes the next token; the mark at the end is never used up. -/
def advance : Parse Token :=
  fun cursor => .ok (cursor.tokens.headD cursor.finish) { cursor with tokens := cursor.tokens.tail }

/-- Whether the next token has a kind. -/
def at? (kind : TokenKind) : Parse Bool := do
  let token ← current
  return token.kind = kind

/-- Records an error and goes on. -/
def record (error : SyntaxError) : Parse Unit :=
  fun cursor => .ok () { cursor with errors := cursor.errors ++ [error] }

/-- Records an error and stops. -/
def fail {α : Type} (error : SyntaxError) : Parse α := do
  record error
  throw .syntaxError

/-- Takes the next token, which must have the given kind. -/
def expect (kind : TokenKind) : Parse Token := do
  let token ← current
  if token.kind = kind then advance else fail (.expected kind token)

/-- Passes over `newline` tokens. -/
def skipNewlines : Parse Unit :=
  fun cursor =>
    .ok () { cursor with tokens := cursor.tokens.dropWhile fun token => token.kind = .newline }

/-- Passes over everything up to and including the next `newline` token. -/
def skipDeclaration : Parse Unit :=
  fun cursor =>
    .ok ()
      { cursor with
        tokens := (cursor.tokens.dropWhile fun token => token.kind ≠ .newline).tail }

/-- What an answer is, or that the text has no reading as a number. -/
def numeral {α : Type} : Option α → Parse α
  | some value => return value
  | none => throw .unreadableNumeral

def integerOf (token : Token) : Parse Nat :=
  numeral ((Numeral.readInteger? token.value).map Int.toNat)

def decimalOf (token : Token) : Parse Binary64 :=
  numeral (Numeral.readDecimal? token.value)

/-! ## Repetition

`fuel` bounds the number of items; there are never more of them than tokens.
-/

/-- Items with commas between them, up to a closing mark that is not taken. -/
def separated {α : Type} (item : Parse α) (closing : TokenKind) :
    (fuel : Nat) → (first : Bool) → Parse (List α)
  | 0, _ => throw .tooDeep
  | fuel + 1, first => do
      let token ← current
      if token.kind = closing || token.kind = .endOfText then
        return []
      unless first do
        discard (expect .comma)
      let value ← item
      let rest ← separated item closing fuel false
      return value :: rest

/-- Items with commas between them up to a closing bracket, and the one after a bar at the end. -/
def separatedWithTail {α : Type} (item : Parse α) :
    (fuel : Nat) → (first : Bool) → Parse (List α × Option α)
  | 0, _ => throw .tooDeep
  | fuel + 1, first => do
      let token ← current
      if token.kind = .rightBracket || token.kind = .endOfText then
        return ([], none)
      unless first do
        discard (expect .comma)
      let value ← item
      if ← at? .bar then
        discard advance
        let tail ← item
        return ([value], some tail)
      let rest ← separatedWithTail item fuel false
      return (value :: rest.1, rest.2)

/-- Entries `key: item` with commas between them, up to a closing brace. A key that was there before
is an error, but reading goes on. -/
def entries {α : Type} (item : Parse α) :
    (fuel : Nat) → (seen : List String) → Parse (List (String × α))
  | 0, _ => throw .tooDeep
  | fuel + 1, seen => do
      let token ← current
      if token.kind = .rightBrace || token.kind = .endOfText then
        return []
      unless seen.isEmpty do
        discard (expect .comma)
      let key ← expect .name
      discard (expect .colon)
      if seen.contains key.value then
        record (.duplicateKey key)
      let value ← item
      let rest ← entries item fuel (key.value :: seen)
      return (key.value, value) :: rest

end Parse
end ClauseFlow

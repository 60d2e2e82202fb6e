import ClauseFlow.Declaration
import ClauseFlow.Parse.Expr
import ClauseFlow.Text.Lines

/-!
# Reading modules

A module is read declaration by declaration. A syntax error ends a declaration; reading goes on
after the next `newline` token, so that all errors of a text are reported together.
-/

namespace ClauseFlow

/-- What keeps a text from being read without being reported: a numeral in it denotes no number, or
it is nested deeper than its tokens allow. -/
inductive ReadFault where
  | unreadableNumeral
  | tooDeep
  deriving DecidableEq, Repr

/-- Why a text is refused. -/
inductive Rejection where
  | diagnostics (found : List Diagnostic)
  | fault (fault : ReadFault)

namespace Parse

/-- A head: a name, its parameters, and the guard after `when`. -/
def head (depth : Nat) : Parse Head := do
  let name ← expect .name
  discard (expect .leftParen)
  let params ← separated (pattern depth) .rightParen depth true
  let last ← expect .rightParen
  let function : FunctionHead := ⟨name.value, params, name.span.through last.span⟩
  if ← at? .whenKeyword then
    discard advance
    let guard ← expression depth 0
    return .guarded function guard (function.span.through guard.span)
  else return .plain function

/-- The documentation comments before a declaration. -/
def docComments : (fuel : Nat) → Parse (List String)
  | 0 => throw .tooDeep
  | fuel + 1 => do
      if ← at? .docComment then
        let comment ← advance
        skipNewlines
        let rest ← docComments fuel
        return comment.value :: rest
      else return []

/-- A declaration; none if only documentation comments are left. -/
def declaration (depth : Nat) : Parse (Option Declaration) := do
  skipNewlines
  let comments ← docComments depth
  let doc? := if comments.isEmpty then none else some (Text.join "\n" comments)
  let keyword ← current
  match keyword.kind with
  | .endOfText => return none
  | .pipeKeyword | .defKeyword =>
      discard advance
      let head ← head depth
      discard (expect .arrow)
      let body ← expression depth 0
      let next ← current
      if next.kind = .newline || next.kind = .endOfText then
        return some
          { head, body, doc?
            synthesized := keyword.kind = .pipeKeyword
            span := keyword.span.through body.span }
      else fail (.afterDeclaration next)
  | _ => fail (.expectedDeclaration keyword)

/-- A declaration, or none if it has a syntax error, in which case the rest of it is passed over. -/
def recoveringDeclaration (depth : Nat) : Parse (Option Declaration) :=
  fun cursor =>
    match declaration depth cursor with
    | .error .syntaxError next => (skipDeclaration *> pure none) next
    | outcome => outcome

/-- All declarations up to the end. -/
def declarations (depth : Nat) : (fuel : Nat) → Parse (List Declaration)
  | 0 => throw .tooDeep
  | fuel + 1 => do
      if ← at? .endOfText then
        return []
      else
        let found? ← recoveringDeclaration depth
        skipNewlines
        let rest ← declarations depth fuel
        return found?.toList ++ rest

/-- How deep the constructs of a text can be nested, and how many there can be in a row: each takes
a token. -/
def limit (stream : TokenStream) : Nat :=
  stream.tokens.length + 1

/-- A module. -/
def wholeModule (limit : Nat) : Parse Module := do
  skipNewlines
  let declarations ← declarations limit limit
  let last ← current
  return ⟨declarations, ⟨last.span.file, 1, 1, last.span.endLine, last.span.endColumn⟩⟩

/-- An expression that is the whole text. -/
def wholeExpression (limit : Nat) : Parse Expr := do
  skipNewlines
  let value ← expression limit 0
  skipNewlines
  let next ← current
  if next.kind ≠ .endOfText then
    record (.afterExpression next)
  return value

/-- What a step makes of a whole text: its answer, if no error was recorded. -/
def run {α : Type} (step : Parse α) (stream : TokenStream) : Except Rejection α :=
  match step (Cursor.ofStream stream) with
  | .ok value cursor =>
      if cursor.errors.isEmpty then .ok value
      else .error (.diagnostics (cursor.errors.map SyntaxError.diagnostic))
  | .error .syntaxError cursor =>
      .error (.diagnostics (cursor.errors.map SyntaxError.diagnostic))
  | .error .unreadableNumeral _ => .error (.fault .unreadableNumeral)
  | .error .tooDeep _ => .error (.fault .tooDeep)

end Parse

/-- The tokens of a text, or why it is refused. -/
def TokenStream.read (file text : String) : Except Rejection TokenStream :=
  (TokenStream.ofText file text).mapError .diagnostics

/-- The module that a text writes, or why it is refused. -/
def Module.read (file text : String) : Except Rejection Module := do
  let stream ← TokenStream.read file text
  Parse.run (Parse.wholeModule (Parse.limit stream)) stream

/-- The expression that a text writes, or why it is refused. -/
def Expr.read (file text : String) : Except Rejection Expr := do
  let stream ← TokenStream.read file text
  Parse.run (Parse.wholeExpression (Parse.limit stream)) stream

end ClauseFlow

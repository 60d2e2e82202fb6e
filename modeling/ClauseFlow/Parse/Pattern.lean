import ClauseFlow.Parse.Cursor
import ClauseFlow.Pattern

/-!
# Reading patterns
-/

namespace ClauseFlow.Parse

/-- The constant that a literal token denotes, or nothing for other tokens. -/
def literal? (token : Token) : Option (Parse Literal) :=
  match token.kind with
  | .integer => some do return .integer (← integerOf token)
  | .decimal => some do return .decimal (← decimalOf token)
  | .text => some (return .text token.value)
  | .atom => some (return .atom token.value)
  | .boolean => some (return .boolean (token.value = "true"))
  | .nil => some (return .nil)
  | _ => none

/-- A number after a minus sign. -/
def negated : Literal → Literal
  | .integer value => .integer (-value)
  | .decimal value => .decimal value.neg
  | other => other

/-- The tag that a token writes. -/
def resultTag? : TokenKind → Option ResultTag
  | .okTag => some .ok
  | .errorTag => some .error
  | _ => none

/-- A pattern without a name for the whole, given how to read the patterns inside it. -/
def primaryPattern (inner : Parse Pattern) (fuel : Nat) : Parse Pattern := do
  let token ← current
  match token.kind with
  | .name =>
      discard advance
      return if token.value = "_" then .wildcard token.span else .binding token.value token.span
  | .integer | .decimal | .text | .atom | .boolean | .nil =>
      discard advance
      match literal? token with
      | some read => return .literal (← read) token.span
      | none => fail (.expectedPattern token)
  | .minus =>
      let number ← following
      if number.kind = .integer || number.kind = .decimal then
        discard advance
        discard advance
        match literal? number with
        | some read => return .literal (negated (← read)) (token.span.through number.span)
        | none => fail (.expectedPattern token)
      else fail (.expectedPattern token)
  | .okTag | .errorTag =>
      discard advance
      discard (expect .leftParen)
      let value ← inner
      let last ← expect .rightParen
      return .result ((resultTag? token.kind).getD .ok) value (token.span.through last.span)
  | .leftBrace =>
      discard advance
      let elements ← separated inner .rightBrace fuel true
      let last ← expect .rightBrace
      return .tuple elements (token.span.through last.span)
  | .leftBracket =>
      discard advance
      let (elements, tail) ← separatedWithTail inner fuel true
      let last ← expect .rightBracket
      return .list elements tail (token.span.through last.span)
  | .mapOpen =>
      discard advance
      let found ← entries inner fuel []
      let last ← expect .rightBrace
      return .map found (token.span.through last.span)
  | .typeName =>
      discard advance
      if ← at? .leftBrace then
        discard advance
        let found ← entries inner fuel []
        let last ← expect .rightBrace
        return .record token.value found (token.span.through last.span)
      else fail (.expectedRecordBrace token)
  | _ => fail (.expectedPattern token)

/-- A pattern; `depth` bounds how deep patterns are nested. -/
def pattern : (depth : Nat) → Parse Pattern
  | 0 => throw .tooDeep
  | depth + 1 => do
      let whole ← primaryPattern (pattern depth) depth
      if ← at? .assign then
        discard advance
        let name ← expect .name
        return .named whole name.value (whole.span.through name.span)
      else return whole

end ClauseFlow.Parse

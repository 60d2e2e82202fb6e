import ClauseFlow.Text.Quoted
import ClauseFlow.Token
import ClauseFlow.Diagnostic

/-!
# Pieces of a source text

A source text is a sequence of pieces: gaps of blanks, line feeds, comments, and the lexemes of the
tokens. `Piece.split` cuts a text into its pieces; what a piece is depends only on the text from its
first character on. Faults in the text are recorded with the piece in which they lie.
-/

namespace ClauseFlow

/-- What can be wrong with a source text at the level of its characters. -/
inductive LexicalError where
  | tab
  | unterminatedText
  | unfinishedEscape
  | unknownEscape (c : Char)
  | missingDigits (marker : String)
  | unexpectedCharacter (c : Char)
  | unclosedBracket
  deriving DecidableEq, Repr

namespace LexicalError

def message : LexicalError → String
  | tab => "tabs are not allowed; use spaces"
  | unterminatedText => "unterminated string literal"
  | unfinishedEscape => "unexpected end of escape sequence"
  | unknownEscape c => "unknown escape sequence: \\" ++ String.singleton c
  | missingDigits marker => "missing digits after '" ++ marker ++ "'"
  | unexpectedCharacter c => "unexpected character: " ++ Text.quoted (String.singleton c)
  | unclosedBracket => "unclosed bracket at end of input"

def diagnostic (file : String) (error : LexicalError) (place : Position) : Diagnostic :=
  .atSpan .error "E100" error.message (place.span file) []

end LexicalError

/-- A fault and its place. -/
abbrev LexicalFault := LexicalError × Position

/-- What a piece of a text is. -/
inductive PieceKind where
  | gap
  | lineFeed
  | comment
  | lexeme (kind : TokenKind) (value : String)
  | broken
  deriving DecidableEq, Repr

/-- A piece of a text: what it is, its characters, its place, and the faults in it. -/
structure Piece where
  kind : PieceKind
  text : List Char
  start : Position
  faults : List LexicalFault
  deriving DecidableEq, Repr

namespace Piece

/-- The place after a piece. -/
def stop (piece : Piece) : Position :=
  piece.start.after piece.text

/-- What was recognized at the head of a text: the kind of the piece, how many further characters it
takes after its first one, and its faults. -/
structure Recognized where
  kind : PieceKind
  further : Nat
  faults : List LexicalFault

/-! ## Blanks and comments -/

/-- The blanks inside a line. Tabs are among them, though each of them is a fault. -/
def isGap (c : Char) : Bool :=
  c = ' ' || c = '\t' || c = '\r'

/-- The faults of a run of blanks. -/
def tabFaults (place : Position) : List Char → List LexicalFault
  | [] => []
  | c :: rest =>
      if c = '\t' then (.tab, place) :: tabFaults (place.next c) rest
      else tabFaults (place.next c) rest

def recognizeGap (place : Position) (first : Char) (rest : List Char) : Recognized :=
  let further := rest.takeWhile isGap
  ⟨.gap, further.length, tabFaults place (first :: further)⟩

/-- A comment runs to the end of its line. -/
def recognizeComment (rest : List Char) : Recognized :=
  ⟨.comment, (rest.takeWhile (· ≠ '\n')).length, []⟩

/-- A documentation comment says what follows its three slashes and at most one space. -/
def recognizeDocComment (afterSlashes : List Char) : Recognized :=
  let inLine : Char → Bool := fun c => c ≠ '\n' && c ≠ '\r'
  match afterSlashes with
  | ' ' :: content =>
      let said := content.takeWhile inLine
      ⟨.lexeme .docComment (String.ofList said), said.length + 3, []⟩
  | content =>
      let said := content.takeWhile inLine
      ⟨.lexeme .docComment (String.ofList said), said.length + 2, []⟩

/-! ## Text literals -/

/-- The character that an escape stands for. -/
def escaped? (c : Char) : Option Char :=
  match c with
  | 'n' => some '\n'
  | 'r' => some '\r'
  | 't' => some '\t'
  | '\\' => some '\\'
  | '"' => some '"'
  | '0' => some '\x00'
  | _ => none

/-- The rest of a text literal: what it says, how many characters it takes with its closing quote,
its faults, and whether it is closed at all. -/
structure TextBody where
  said : List Char
  size : Nat
  faults : List LexicalFault
  closed : Bool

/-- Reads a text literal from the character after its opening quote. -/
def textBody (place : Position) : List Char → TextBody
  | [] => ⟨[], 0, [], false⟩
  | '"' :: _ => ⟨[], 1, [], true⟩
  | '\n' :: _ => ⟨[], 0, [], false⟩
  | ['\\'] => ⟨[], 1, [(.unfinishedEscape, place.next '\\')], false⟩
  | '\\' :: c :: rest =>
      let stop := (place.next '\\').next c
      let body := textBody stop rest
      match escaped? c with
      | some meant => { body with said := meant :: body.said, size := body.size + 2 }
      | none =>
          { body with
            said := c :: body.said
            size := body.size + 2
            faults := (.unknownEscape c, ⟨stop.line, stop.column - 1⟩) :: body.faults }
  | c :: rest =>
      let body := textBody (place.next c) rest
      { body with said := c :: body.said, size := body.size + 1 }

def recognizeText (place : Position) (rest : List Char) : Recognized :=
  let body := textBody (place.next '"') rest
  if body.closed then ⟨.lexeme .text (String.ofList body.said), body.size, body.faults⟩
  else ⟨.broken, body.size, body.faults ++ [(.unterminatedText, place)]⟩

/-! ## Words and numbers -/

/-- An atom says what follows its colon. -/
def recognizeAtom (rest : List Char) : Recognized :=
  let said := rest.takeWhile CharClass.isNamePart
  ⟨.lexeme .atom (String.ofList said), said.length, []⟩

/-- The digits that may follow the mark of a base, underscores included. -/
def marksDigit? (mark : Char) : Option (Char → Bool) :=
  if mark = 'x' || mark = 'X' then
    some fun c => ('0' ≤ c && c ≤ '9') || ('a' ≤ c && c ≤ 'f') || ('A' ≤ c && c ≤ 'F') || c = '_'
  else if mark = 'b' || mark = 'B' then some fun c => c = '0' || c = '1' || c = '_'
  else if mark = 'o' || mark = 'O' then some fun c => ('0' ≤ c && c ≤ '7') || c = '_'
  else none

/-- The digits of a number, underscores included. -/
def isNumberPart (c : Char) : Bool :=
  CharClass.isDigit c || c = '_'

/-- A number in decimal, with a fraction if a point and a digit follow. -/
def recognizeDecimal (first : Char) (rest : List Char) : Recognized :=
  let whole := rest.takeWhile isNumberPart
  let integer : Recognized :=
    ⟨.lexeme .integer (String.ofList (first :: whole)), whole.length, []⟩
  match rest.dropWhile isNumberPart with
  | '.' :: digit :: more =>
      if CharClass.isDigit digit then
        let fraction := (digit :: more).takeWhile isNumberPart
        ⟨.lexeme .decimal (String.ofList (first :: whole ++ '.' :: fraction)),
          whole.length + 1 + fraction.length, []⟩
      else integer
  | _ => integer

/-- A number in the base that the character after its zero announces. -/
def recognizeMarked (place : Position) (first mark : Char) (isPart : Char → Bool)
    (rest : List Char) : Recognized :=
  let digits := rest.takeWhile isPart
  let faults : List LexicalFault :=
    if digits.isEmpty then [(.missingDigits (String.ofList [first, mark]), place)] else []
  ⟨.lexeme .integer (String.ofList (first :: mark :: digits)), digits.length + 1, faults⟩

def recognizeNumber (place : Position) (first : Char) (rest : List Char) : Recognized :=
  match rest with
  | mark :: more =>
      match if first = '0' then marksDigit? mark else none with
      | some isPart => recognizeMarked place first mark isPart more
      | none => recognizeDecimal first rest
  | [] => recognizeDecimal first rest

/-- A word is a keyword, a tag if it begins in upper case, or else a name. -/
def recognizeWord (first : Char) (rest : List Char) : Recognized :=
  let further := rest.takeWhile CharClass.isNamePart
  let word := first :: further
  let kind :=
    match TokenKind.ofKeyword? word with
    | some keyword => keyword
    | none => if CharClass.isUpper first then .typeName else .name
  ⟨.lexeme kind (String.ofList word), further.length, []⟩

/-! ## Operators and marks -/

/-- The operators of two characters. -/
def twoCharKind? (first second : Char) : Option TokenKind :=
  match first, second with
  | '|', '>' => some .pipeArrow
  | '-', '>' => some .arrow
  | '=', '=' => some .equal
  | '!', '=' => some .notEqual
  | '<', '=' => some .lessEqual
  | '>', '=' => some .greaterEqual
  | '<', '>' => some .concat
  | '%', '{' => some .mapOpen
  | _, _ => none

/-- The operators and marks of one character. -/
def oneCharKind? (c : Char) : Option TokenKind :=
  match c with
  | '+' => some .plus
  | '-' => some .minus
  | '*' => some .star
  | '/' => some .slash
  | '%' => some .percent
  | '<' => some .less
  | '>' => some .greater
  | '=' => some .assign
  | '.' => some .dot
  | '(' => some .leftParen
  | ')' => some .rightParen
  | '[' => some .leftBracket
  | ']' => some .rightBracket
  | '{' => some .leftBrace
  | '}' => some .rightBrace
  | ',' => some .comma
  | ':' => some .colon
  | '|' => some .bar
  | _ => none

def recognizeSingle (place : Position) (c : Char) : Recognized :=
  match oneCharKind? c with
  | some kind => ⟨.lexeme kind (String.singleton c), 0, []⟩
  | none => ⟨.broken, 0, [(.unexpectedCharacter c, place)]⟩

def recognizeMark (place : Position) (c : Char) (rest : List Char) : Recognized :=
  match c, rest with
  | '<', '|' :: '>' :: _ => ⟨.lexeme .altArrow "<|>", 2, []⟩
  | _, second :: _ =>
      match twoCharKind? c second with
      | some kind => ⟨.lexeme kind (String.ofList [c, second]), 1, []⟩
      | none => recognizeSingle place c
  | _, [] => recognizeSingle place c

/-! ## Cutting a text into pieces -/

/-- Whether an atom goes on here after a colon. -/
def beginsAtom : List Char → Bool
  | c :: _ => CharClass.isNameStart c
  | [] => false

/-- The piece at the head of a text. -/
def recognize (place : Position) (c : Char) (rest : List Char) : Recognized :=
  if isGap c then recognizeGap place c rest
  else if c = '\n' then ⟨.lineFeed, 0, []⟩
  else
    match c, rest with
    | '/', '/' :: '/' :: content => recognizeDocComment content
    | '/', '/' :: _ => recognizeComment rest
    | '"', _ => recognizeText place rest
    | c, rest =>
        if c = ':' && beginsAtom rest then recognizeAtom rest
        else if CharClass.isDigit c then recognizeNumber place c rest
        else if CharClass.isNameStart c then recognizeWord c rest
        else recognizeMark place c rest

/-- The pieces of a text that begins at a place, passing over the first `skip` characters, which
belong to a piece that is already known. -/
def splitFrom (place : Position) : (skip : Nat) → List Char → List Piece
  | _, [] => []
  | skip + 1, _ :: rest => splitFrom place skip rest
  | 0, c :: rest =>
      let found := recognize place c rest
      let text := c :: rest.take found.further
      ⟨found.kind, text, place, found.faults⟩ :: splitFrom (place.after text) found.further rest

/-- The pieces of a text. -/
def split (text : List Char) : List Piece :=
  splitFrom .first 0 text

end Piece
end ClauseFlow

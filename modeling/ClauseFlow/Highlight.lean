import ClauseFlow.Builtin
import ClauseFlow.Text.CharClass
import ClauseFlow.Text.Lines

/-!
# Highlighting

A text is cut into colored parts without being read: the parts are recognized one by one from what
comes next, the character before, and whether a text literal is open. Anything may be highlighted,
also what is no module.
-/

namespace ClauseFlow.Highlight

/-- The classes of parts. -/
inductive Category where
  | blank
  | docComment
  | comment
  | text
  | escape
  | atom
  | hexNumber
  | binaryNumber
  | octalNumber
  | decimalNumber
  | integerNumber
  | declaration
  | functionName
  | keyword
  | resultTag
  | constant
  | builtin
  | operator
  | punctuation
  | typeName
  | key
  | name
  | error
  deriving DecidableEq, Repr

namespace Category

/-- The name of a class. -/
def label : Category → String
  | blank => "Token.Text"
  | docComment => "Token.Comment.Special"
  | comment => "Token.Comment.Single"
  | text => "Token.Literal.String"
  | escape => "Token.Literal.String.Escape"
  | atom => "Token.Literal.String.Symbol"
  | hexNumber => "Token.Literal.Number.Hex"
  | binaryNumber => "Token.Literal.Number.Bin"
  | octalNumber => "Token.Literal.Number.Oct"
  | decimalNumber => "Token.Literal.Number.Float"
  | integerNumber => "Token.Literal.Number.Integer"
  | declaration => "Token.Keyword.Declaration"
  | functionName => "Token.Name.Function"
  | keyword => "Token.Keyword"
  | resultTag => "Token.Name.Builtin.Pseudo"
  | constant => "Token.Keyword.Constant"
  | builtin => "Token.Name.Builtin"
  | operator => "Token.Operator"
  | punctuation => "Token.Punctuation"
  | typeName => "Token.Name.Class"
  | key => "Token.Name.Attribute"
  | name => "Token.Name"
  | error => "Token.Error"

/-- The terminal attributes of a class, if it has any. -/
def attributes : Category → List String
  | docComment | comment => ["37"]
  | declaration | keyword | constant => ["34"]
  | resultTag | builtin | key => ["36"]
  | functionName => ["32"]
  | typeName => ["04", "32"]
  | text | escape | atom => ["33"]
  | hexNumber | binaryNumber | octalNumber | decimalNumber | integerNumber => ["34"]
  | error => ["04", "91"]
  | blank | operator | punctuation | name => []

end Category

/-- A part of a text. -/
abbrev Part := Category × List Char

/-! ## Character classes of ASCII names -/

def isLower (c : Char) : Bool :=
  ('a' ≤ c && c ≤ 'z') || c = '_'

def isUpper (c : Char) : Bool :=
  'A' ≤ c && c ≤ 'Z'

def isDigit (c : Char) : Bool :=
  '0' ≤ c && c ≤ '9'

def isNamePart (c : Char) : Bool :=
  isLower c || isUpper c || isDigit c

def isDigitPart (c : Char) : Bool :=
  isDigit c || c = '_'

/-! ## Recognizing parts -/

/-- A part whose first character and whose later characters are of given kinds. -/
def run? (category : Category) (isFirst isLater : Char → Bool) : List Char → Option Part
  | c :: rest => if isFirst c then some (category, c :: rest.takeWhile isLater) else none
  | [] => none

/-- The characters of a comment, if the text begins with the given mark. -/
def comment? (category : Category) (mark : List Char) (text : List Char) : Option Part :=
  if mark.isPrefixOf text then some (category, text.takeWhile (· ≠ '\n')) else none

def atom? : List Char → Option Part
  | ':' :: c :: rest =>
      if isLower c || isUpper c then some (.atom, ':' :: c :: rest.takeWhile isNamePart) else none
  | _ => none

/-- A number after a zero and a mark. -/
def marked? (category : Category) (mark : Char) (isFirst : Char → Bool) :
    List Char → Option Part
  | '0' :: m :: c :: rest =>
      if m = mark && isFirst c then
        some (category, '0' :: m :: c :: rest.takeWhile fun d => isFirst d || d = '_')
      else none
  | _ => none

def decimal? (text : List Char) : Option Part :=
  match run? .decimalNumber isDigit isDigitPart text with
  | none => none
  | some (category, whole) =>
      match text.drop whole.length with
      | '.' :: c :: rest =>
          if isDigit c then some (category, whole ++ '.' :: c :: rest.takeWhile isDigitPart)
          else none
      | _ => none

/-- Whether the next character goes on with a word. -/
def continuesWord : List Char → Bool
  | c :: _ => CharClass.isNamePart c
  | [] => false

/-- A word that stands by itself: nothing before or after it belongs to it. -/
def word? (category : Category) (words : List String) (afterWord : Bool) (text : List Char) :
    Option Part :=
  if afterWord then none
  else
    (words.find? fun word =>
      word.toList.isPrefixOf text && !continuesWord (text.drop word.length)).map fun word =>
        (category, word.toList)

def keywords : List String :=
  ["when", "if", "then", "else", "fn", "and", "or", "not"]

def constants : List String :=
  ["true", "false", "nil"]

/-- A builtin that is called. -/
def builtin? (afterWord : Bool) (text : List Char) : Option Part :=
  match word? .builtin (Builtin.all.map Builtin.name) afterWord text with
  | some (category, word) =>
      match (text.drop word.length).dropWhile CharClass.isBlank with
      | '(' :: _ => some (category, word)
      | _ => none
  | none => none

/-- One of several marks. -/
def mark? (category : Category) (marks : List String) (text : List Char) : Option Part :=
  (marks.find? fun mark => mark.toList.isPrefixOf text).map fun mark => (category, mark.toList)

/-- The key of an entry: a name before a colon and a blank. -/
def key? (text : List Char) : Option Part :=
  match run? .key isLower isNamePart text with
  | some (category, name) =>
      match text.drop name.length with
      | ':' :: c :: _ => if CharClass.isBlank c then some (category, name) else none
      | _ => none
  | none => none

/-- A keyword at the start of a line and the name it declares. -/
def declaration? (atLineStart : Bool) (text : List Char) : Option (List Part) :=
  if !atLineStart then none
  else
    (["pipe", "def"].find? fun word => word.toList.isPrefixOf text).bind fun word =>
      let blanks := (text.drop word.length).takeWhile CharClass.isBlank
      if blanks.isEmpty then none
      else
        (run? .functionName isLower isNamePart (text.drop (word.length + blanks.length))).map
          fun name => [(.declaration, word.toList), (.blank, blanks), name]

/-- The first of several parts that is recognized. -/
def firstOf : List (Option Part) → Option (List Part)
  | [] => none
  | some part :: _ => some [part]
  | none :: rest => firstOf rest

/-- The parts at the head of a text outside of text literals; `previous?` is the character before.
-/
def outside? (previous? : Option Char) (text : List Char) : Option (List Part) :=
  let afterWord := (previous?.map CharClass.isNamePart).getD false
  let atLineStart := previous? = none || previous? = some '\n'
  let isHexDigit (c : Char) : Bool := isDigit c || ('a' ≤ c && c ≤ 'f') || ('A' ≤ c && c ≤ 'F')
  let early := firstOf
    [ run? .blank CharClass.isBlank CharClass.isBlank text
    , comment? .docComment ['/', '/', '/'] text
    , comment? .comment ['/', '/'] text
    , mark? .text ["\""] text
    , atom? text
    , marked? .hexNumber 'x' isHexDigit text
    , marked? .binaryNumber 'b' (fun c => c = '0' || c = '1') text
    , marked? .octalNumber 'o' (fun c => '0' ≤ c && c ≤ '7') text
    , decimal? text
    , run? .integerNumber isDigit isDigitPart text ]
  let late := firstOf
    [ word? .keyword keywords afterWord text
    , word? .resultTag ["Ok", "Error"] afterWord text
    , word? .constant constants afterWord text
    , builtin? afterWord text
    , mark? .operator ["<|>", "|>"] text
    , mark? .punctuation ["%\x7b"] text
    , mark? .operator ["==", "!=", "<=", ">=", "<>", "->"] text
    , mark? .operator ["+", "-", "*", "/", "%", "<", ">", "=", "."] text
    , run? .typeName isUpper isNamePart text
    , key? text
    , run? .name isLower isNamePart text
    , mark? .punctuation ["(", ")", ",", "[", "]", "\x7b", "\x7d", ":", "|"] text ]
  (early.or (declaration? atLineStart text)).or late

/-- The part at the head of a text inside a text literal. -/
def inside? : List Char → Option Part
  | '\\' :: c :: _ =>
      if ['n', 'r', 't', '\\', '"', '0'].contains c then some (.escape, ['\\', c]) else none
  | '"' :: _ => some (.text, ['"'])
  | text => run? .text (fun c => c ≠ '\\') (fun c => c ≠ '"' && c ≠ '\\') text

/-- The parts at the head of a text; a character that begins none is an error by itself. -/
def recognize (inText : Bool) (previous? : Option Char) (text : List Char) : List Part :=
  let found := if inText then (inside? text).map fun part => [part] else outside? previous? text
  found.getD [(.error, text.take 1)]

/-- Whether a text literal is open after parts. -/
def inTextAfter (inText : Bool) (parts : List Part) : Bool :=
  if parts.any fun part => part.1 = .text && part.2 = ['"'] then !inText else inText

/-- The parts of a text, passing over the first `skip` characters, which belong to parts that are
already known. -/
def partsFrom (inText : Bool) (previous? : Option Char) : (skip : Nat) → List Char → List Part
  | _, [] => []
  | skip + 1, c :: rest => partsFrom inText (some c) skip rest
  | 0, c :: rest =>
      let found := recognize inText previous? (c :: rest)
      let size := (found.flatMap (·.2)).length
      found ++ partsFrom (inTextAfter inText found) (some c) (size - 1) rest

/-- A text as it is highlighted: without a byte order mark, with line feeds only, without empty
lines around it, and with a line feed at its end. -/
def prepare (text : List Char) : List Char :=
  let unmarked :=
    match text with
    | '\ufeff' :: rest => rest
    | other => other
  let isLineFeed (c : Char) : Bool := c = '\n'
  let trimmed := (Text.unifyLineFeeds unmarked).dropWhile isLineFeed
  (trimmed.reverse.dropWhile isLineFeed).reverse ++ ['\n']

/-- The parts of a text; parts without characters are left out. -/
def parts (text : String) : List Part :=
  (partsFrom false none 0 (prepare text.toList)).filter fun part => !part.2.isEmpty

/-! ## Color -/

/-- The sequence that turns attributes on. -/
def turnOn (attributes : List String) : String :=
  String.join (attributes.map fun code => "\x1b[" ++ code ++ "m")

/-- One line of a part, its line feed outside of the color. -/
def paintLine (attributes : List String) (line ending : List Char) : String :=
  let feeds := ending = ['\n']
  let content := String.ofList (if feeds then line else line ++ ending)
  let painted :=
    if attributes.isEmpty then content else turnOn attributes ++ content ++ "\x1b[39;49;00m"
  if feeds then painted ++ "\n" else painted

/-- A part in its color, line by line. -/
def paint (part : Part) : String :=
  String.join ((Text.splitLines part.2).map fun line =>
    paintLine part.1.attributes line.1 line.2)

/-- A text with terminal colors. -/
def colored (text : String) : String :=
  String.join ((parts text).map paint)

end ClauseFlow.Highlight

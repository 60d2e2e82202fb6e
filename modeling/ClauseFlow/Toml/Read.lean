import ClauseFlow.Toml

/-!
# Reading TOML

A document is a sequence of lines: a header `[a.b]` opens a table, and `key = value` puts a value
into the open table. A table is opened once, a key is given one value, and a dotted key does not
reach into a table that a header has opened. The values that are read are texts, integers, decimal
numbers, truth values and arrays.
-/

namespace ClauseFlow.Toml

/-- Why a text cannot be read: it is not written as it should be, or an integer in it has too many
digits. -/
inductive Fault where
  | malformed
  | longNumeral
  deriving DecidableEq, Repr

/-! ## Characters -/

/-- Control characters may not stand in texts and comments, tabs apart. -/
def isControl (c : Char) : Bool :=
  (c < ' ' && c ≠ '\t') || c = '\x7f'

def isBlank (c : Char) : Bool :=
  c = ' ' || c = '\t'

def isHexDigit (c : Char) : Bool :=
  c.isDigit || ('a' ≤ c && c ≤ 'f') || ('A' ≤ c && c ≤ 'F')

/-- The characters of keys without quotes. -/
def isBareKeyPart (c : Char) : Bool :=
  c.isAlphanum || c = '-' || c = '_'

/-- A text from its first character on that is neither blank, nor a line feed, nor in a comment;
none if a comment holds a control character. -/
def afterFiller (inComment : Bool) : List Char → Option (List Char)
  | [] => some []
  | c :: rest =>
      if c = '\n' then afterFiller false rest
      else if inComment then if isControl c then none else afterFiller true rest
      else if c = '#' then afterFiller true rest
      else if isBlank c then afterFiller false rest
      else some (c :: rest)

/-! ## Texts -/

/-- The character that one letter after a backslash stands for. -/
def escaped? (c : Char) : Option Char :=
  match c with
  | 'b' => some '\x08'
  | 't' => some '\t'
  | 'n' => some '\n'
  | 'f' => some '\x0c'
  | 'r' => some '\r'
  | '"' => some '"'
  | '\\' => some '\\'
  | _ => none

/-- The character whose number is written by the first `count` characters. -/
def numbered? (count : Nat) (text : List Char) : Option Char :=
  let digits := text.take count
  if digits.length = count && digits.all isHexDigit then
    (Numeral.ofDigitChars? 16 digits).bind fun number =>
      let c := Char.ofNat number
      if c.toNat = number then some c else none
  else none

/-- How a text is enclosed: between quotes on one line, or between triple quotes over any number of
lines. -/
inductive Enclosure where
  | line
  | lines
  deriving DecidableEq, Repr

namespace Enclosure

/-- The characters that may not stand in a text. -/
def isForbidden (enclosure : Enclosure) (c : Char) : Bool :=
  isControl c && !(enclosure = .lines && c = '\n')

/-- Where a text ends: the quotes that still belong to it, and what follows it. Up to two quotes may
stand before a triple quote. -/
def closing? (enclosure : Enclosure) (quote : Char) (text : List Char) :
    Option (List Char × List Char) :=
  match enclosure with
  | .line => if text.head? = some quote then some ([], text.tail) else none
  | .lines =>
      if [quote, quote, quote].isPrefixOf text then
        let inside := ((text.drop 3).take 2).takeWhile (· = quote)
        some (inside, text.drop (3 + inside.length))
      else none

end Enclosure

/-- The size of the gap that a backslash at the end of a line leaves out: the rest of the line,
which must be blank, and all blanks and empty lines after it. -/
def gapSize? (text : List Char) : Option Nat :=
  let blanks := text.takeWhile isBlank
  match text.drop blanks.length with
  | [] => some blanks.length
  | c :: rest =>
      if c = '\n' then
        some (blanks.length + 1 + (rest.takeWhile fun d => isBlank d || d = '\n').length)
      else none

/-- What the escape that the text after a backslash begins with stands for, and how long it is. -/
def escape? (enclosure : Enclosure) : List Char → Option (List Char × Nat)
  | 'u' :: rest => (numbered? 4 rest).map fun c => ([c], 5)
  | 'U' :: rest => (numbered? 8 rest).map fun c => ([c], 9)
  | c :: rest =>
      if enclosure = .lines && (isBlank c || c = '\n') then
        (gapSize? (c :: rest)).map fun size => ([], size)
      else (escaped? c).map fun meant => ([meant], 1)
  | [] => none

/-- What a text between double quotes says, read from behind its opening, and what follows it; the
first `skip` characters belong to an escape. -/
def basicText (enclosure : Enclosure) (skip : Nat) : List Char → Option (List Char × List Char)
  | [] => none
  | c :: rest =>
      match skip with
      | skip + 1 => basicText enclosure skip rest
      | 0 =>
          match enclosure.closing? '"' (c :: rest) with
          | some found => some found
          | none =>
              if c = '\\' then
                match escape? enclosure rest with
                | some (meant, size) =>
                    (basicText enclosure size rest).map fun (said, after) => (meant ++ said, after)
                | none => none
              else if enclosure.isForbidden c then none
              else (basicText enclosure 0 rest).map fun (said, after) => (c :: said, after)

/-- What a text between single quotes says, read from behind its opening, and what follows it. -/
def literalText (enclosure : Enclosure) : List Char → Option (List Char × List Char)
  | [] => none
  | c :: rest =>
      match enclosure.closing? '\'' (c :: rest) with
      | some found => some found
      | none =>
          if enclosure.isForbidden c then none
          else (literalText enclosure rest).map fun (said, after) => (c :: said, after)

/-- A text without the line feed right behind a triple quote. -/
def afterOpening : List Char → List Char
  | '\n' :: rest => rest
  | other => other

/-- The text at the head of a value, if one stands there: what it says, and what follows it. -/
def quoted? : List Char → Option (Option (List Char × List Char))
  | '"' :: '"' :: '"' :: rest => some (basicText .lines 0 (afterOpening rest))
  | '\'' :: '\'' :: '\'' :: rest => some (literalText .lines (afterOpening rest))
  | '"' :: rest => some (basicText .line 0 rest)
  | '\'' :: rest => some (literalText .line rest)
  | _ => none

/-! ## Numbers -/

/-- Further digits, with single underscores between them, and what follows. -/
def moreDigits (isDigit : Char → Bool) : List Char → List Char × List Char
  | '_' :: c :: rest =>
      if isDigit c then
        let (digits, after) := moreDigits isDigit rest
        (c :: digits, after)
      else ([], '_' :: c :: rest)
  | c :: rest =>
      if isDigit c then
        let (digits, after) := moreDigits isDigit rest
        (c :: digits, after)
      else ([], c :: rest)
  | [] => ([], [])

/-- At least one digit, and what follows. -/
def digits? (isDigit : Char → Bool) : List Char → Option (List Char × List Char)
  | c :: rest =>
      if isDigit c then
        let (digits, after) := moreDigits isDigit rest
        some (c :: digits, after)
      else none
  | [] => none

/-- The digits of the base that a letter announces. -/
def markedBase? (mark : Char) : Option (Nat × (Char → Bool)) :=
  match mark with
  | 'x' => some (16, isHexDigit)
  | 'o' => some (8, fun c => '0' ≤ c && c ≤ '7')
  | 'b' => some (2, fun c => c = '0' || c = '1')
  | _ => none

/-- An integer in another base than ten. -/
def markedInteger? : List Char → Option (Toml × List Char)
  | '0' :: mark :: rest => do
      let (base, isDigit) ← markedBase? mark
      let (digits, after) ← digits? isDigit rest
      let value ← Numeral.ofDigitChars? base digits
      return (.integer value, after)
  | _ => none

/-- The sign at the head of a text, and what follows it. -/
def signed : List Char → Bool × List Char
  | '-' :: rest => (true, rest)
  | '+' :: rest => (false, rest)
  | unsigned => (false, unsigned)

/-- The digits before the point: a zero by itself or digits that begin with another one. -/
def whole? : List Char → Option (List Char × List Char)
  | '0' :: rest => some (['0'], rest)
  | digits => digits? Char.isDigit digits

/-- The digits after a point, and what follows; none are there if there is no point. -/
def fraction : List Char → List Char × List Char
  | '.' :: rest => (digits? Char.isDigit rest).getD ([], '.' :: rest)
  | other => ([], other)

/-- The power of ten that a number is multiplied by. -/
def exponent? : List Char → Option (Int × List Char)
  | mark :: rest =>
      if mark = 'e' || mark = 'E' then
        let (negative, unsigned) := signed rest
        (digits? Char.isDigit unsigned).map fun (digits, after) =>
          let size : Int := Numeral.ofDigits 10 (digits.filterMap CharClass.decimalValue?)
          (if negative then -size else size, after)
      else none
  | [] => none

/-- The number nearest to `digits * 10 ^ exponent`, where the digits are at most `10 ^ length`. -/
def scaled (digits length : Nat) (exponent : Int) : Binary64 :=
  if digits = 0 || length + exponent < -400 then .signedZero false
  else if 400 < exponent then .infinite false
  else .ofDecimal digits exponent

/-- A decimal integer or a decimal number. -/
def decimalNumber? (text : List Char) : Option (Except Fault Toml × List Char) := do
  let (negative, unsigned) := signed text
  let (whole, afterWhole) ← whole? unsigned
  let (part, afterPart) := fraction afterWhole
  let power? := exponent? afterPart
  let after := (power?.map Prod.snd).getD afterPart
  let value := Numeral.ofDigits 10 ((whole ++ part).filterMap CharClass.decimalValue?)
  if part.isEmpty && power?.isNone then
    if whole.length ≤ Numeral.maxDigits then
      return (.ok (.integer (if negative then -(value : Int) else value)), after)
    else return (.error .longNumeral, after)
  else
    let exponent := (power?.map Prod.fst).getD 0 - part.length
    let size := scaled value (whole ++ part).length exponent
    return (.ok (.decimal (if negative then size.neg else size)), after)

/-- The words among the values. -/
def words : List (String × Toml) :=
  [ ("true", .boolean true), ("false", .boolean false)
  , ("inf", .decimal (.infinite false)), ("+inf", .decimal (.infinite false))
  , ("-inf", .decimal (.infinite true)), ("nan", .decimal .nan), ("+nan", .decimal .nan)
  , ("-nan", .decimal .nan) ]

/-- The word at the head of a text, and what follows it. -/
def word? (text : List Char) : Option (Toml × List Char) :=
  (words.find? fun word => word.1.toList.isPrefixOf text).map fun word =>
    (word.2, text.drop word.1.length)

/-! ## Keys and values -/

/-- What takes something from the text still to come. -/
abbrev Reader := StateT (List Char) (Except Fault)

namespace Reader

/-- Takes what a part of the text says, if it can be read. -/
def taking {α : Type} (found? : Option (α × List Char)) : Reader α :=
  match found? with
  | some (value, after) => do
      set after
      return value
  | none => throw .malformed

/-- Takes a character if it comes next; answers whether it did. -/
def accept (expected : Char) : Reader Bool := do
  match ← get with
  | c :: rest =>
      if c = expected then
        set rest
        return true
      else return false
  | [] => return false

def expect (expected : Char) : Reader Unit := do
  unless ← accept expected do
    throw .malformed

def skipBlanks : Reader Unit :=
  modify (List.dropWhile isBlank)

/-- Passes over blanks, line feeds and comments. -/
def skipFiller : Reader Unit := do
  match afterFiller false (← get) with
  | some after => set after
  | none => throw .malformed

/-- The end of a line: blanks, a comment, and a line feed or the end of the text. -/
def endOfLine : Reader Unit := do
  skipBlanks
  let text ← get
  let (comment, after) := text.span (· ≠ '\n')
  unless comment.isEmpty || (comment.head? = some '#' && !comment.any isControl) do
    throw .malformed
  set after.tail

/-- One part of a key. -/
def keyPart : Reader String := do
  match ← get with
  | '"' :: rest => String.ofList <$> taking (basicText .line 0 rest)
  | '\'' :: rest => String.ofList <$> taking (literalText .line rest)
  | content =>
      let (bare, after) := content.span isBareKeyPart
      if bare.isEmpty then throw .malformed
      set after
      return String.ofList bare

/-- A key, its parts separated by points; `fuel` bounds their number. -/
def key : (fuel : Nat) → Reader (List String)
  | 0 => throw .malformed
  | fuel + 1 => do
      let part ← keyPart
      skipBlanks
      if ← accept '.' then
        skipBlanks
        let rest ← key fuel
        return part :: rest
      else return [part]

/-- A value that is no array. -/
def scalar : Reader Toml := do
  let content ← get
  match quoted? content with
  | some found? =>
      let said ← taking found?
      return .text (String.ofList said)
  | none =>
      match (word? content).or (markedInteger? content) with
      | some found => taking (some found)
      | none =>
          let number ← taking (decimalNumber? content)
          match number with
          | .ok value => return value
          | .error fault => throw fault

/-- Items with commas between them up to the closing bracket; a last comma may be superfluous. -/
def items (item : Reader Toml) : (fuel : Nat) → Reader (List Toml)
  | 0 => throw .malformed
  | fuel + 1 => do
      skipFiller
      if ← accept ']' then
        return []
      let value ← item
      skipFiller
      if ← accept ',' then
        let rest ← items item fuel
        return value :: rest
      else
        expect ']'
        return [value]

/-- A value; `fuel` bounds how deep arrays are nested and how long they are. -/
def value : (fuel : Nat) → Reader Toml
  | 0 => throw .malformed
  | fuel + 1 => do
      if ← accept '[' then
        let found ← items (value fuel) (fuel + 1)
        return .array found
      else scalar

end Reader

/-! ## Documents -/

/-- A document as far as it is read: its entries, the open table, the tables opened by headers, and
those that dotted keys made since the last header. -/
structure Document where
  entries : Entries
  header : List String
  opened : List (List String)
  dotted : List (List String)

namespace Document

def empty : Document :=
  ⟨[], [], [], []⟩

/-- Replaces the value of a key, or adds it at the end. -/
def assign (key : String) (value : Toml) : Entries → Entries
  | [] => [(key, value)]
  | (other, previous) :: rest =>
      if other = key then (key, value) :: rest else (other, previous) :: assign key value rest

/-- Changes the table at a path, which is made if it is not there; none if something on the path is
no table. -/
def within? (change : Entries → Option Entries) : List String → Entries → Option Entries
  | [], entries => change entries
  | key :: path, entries => do
      let inner ←
        match entries.lookup key with
        | none => some []
        | some (.table inner) => some inner
        | some _ => none
      let changed ← within? change path inner
      return assign key (.table changed) entries

/-- Opens the table of a header. -/
def openTable? (document : Document) (path : List String) : Option Document :=
  let opened := document.dotted ++ document.opened
  if opened.contains path then none
  else
    (within? some path document.entries).map fun entries =>
      ⟨entries, path, path :: opened, []⟩

/-- The tables that a dotted key passes through. -/
def passed (header : List String) : List String → List (List String)
  | [] | [_] => []
  | part :: rest => (header ++ [part]) :: passed (header ++ [part]) rest

/-- Gives a key of the open table its value. -/
def put? (document : Document) (key : List String) (value : Toml) : Option Document :=
  let tables := passed document.header key
  if tables.any document.opened.contains then none
  else
    match key.getLast? with
    | none => none
    | some last =>
        let add (entries : Entries) : Option Entries :=
          if (entries.lookup last).isSome then none else some (entries ++ [(last, value)])
        (within? add (document.header ++ key.dropLast) document.entries).map fun entries =>
          { document with entries, dotted := tables ++ document.dotted }

end Document

namespace Reader

/-- What a step makes of a document, if it accepts it. -/
def accepted : Option Document → Reader Document
  | some document => return document
  | none => throw .malformed

/-- The header of a table, or a key and its value. -/
def statement (limit : Nat) (document : Document) : Reader Document := do
  if ← accept '[' then
    skipBlanks
    let path ← key limit
    expect ']'
    accepted (document.openTable? path)
  else
    let path ← key limit
    expect '='
    skipBlanks
    let found ← value limit
    accepted (document.put? path found)

/-- All statements up to the end; `fuel` bounds their number. -/
def statements (limit : Nat) : (fuel : Nat) → Document → Reader Document
  | 0, _ => throw .malformed
  | fuel + 1, document => do
      skipFiller
      if (← get).isEmpty then return document
      else
        let next ← statement limit document
        endOfLine
        statements limit fuel next

end Reader

/-- A text with every `\r\n` as a line feed. -/
def unifyLineBreaks : List Char → List Char
  | '\r' :: '\n' :: rest => '\n' :: unifyLineBreaks rest
  | c :: rest => c :: unifyLineBreaks rest
  | [] => []

/-- The entries of a document. -/
def read (text : String) : Except Fault Entries :=
  let content := unifyLineBreaks text.toList
  let limit := content.length + 1
  (Reader.statements limit limit .empty content).map fun (document, _) => document.entries

end ClauseFlow.Toml

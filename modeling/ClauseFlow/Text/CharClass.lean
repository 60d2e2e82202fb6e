import ClauseFlow.Text.CharSet

/-!
# Character classes

The classes that the scanner, the number reader and the printers ask for. Each is decided on ASCII
by comparison and beyond it by a set of `ClauseFlow.Text.CharSet`.
-/

namespace ClauseFlow.CharClass

/-- Whether a character lies in ASCII. -/
def isAscii (c : Char) : Bool :=
  c.toNat < 128

/-- Letters. -/
def isLetter (c : Char) : Bool :=
  if isAscii c then c.isAlpha else CharSet.letters.contains c

/-- The value of a decimal digit of any script. -/
def decimalValue? (c : Char) : Option Nat :=
  if isAscii c then
    if c.isDigit then some (c.toNat - '0'.toNat) else none
  else
    CharSet.decimalZeros.findSome? fun least =>
      if least ≤ c.toNat ∧ c.toNat < least + 10 then some (c.toNat - least) else none

/-- Digits: the decimal digits of all scripts, superscripts and the like. -/
def isDigit (c : Char) : Bool :=
  if isAscii c then c.isDigit else (decimalValue? c).isSome || CharSet.otherDigits.contains c

/-- Letters, digits and all other characters with a numeric value. -/
def isAlphanumeric (c : Char) : Bool :=
  if isAscii c then c.isAlphanum
  else CharSet.letters.contains c || CharSet.numerals.contains c

/-- Upper-case characters. -/
def isUpper (c : Char) : Bool :=
  if isAscii c then c.isUpper else CharSet.uppercase.contains c

/-- Characters that a quoted text shows as they are. -/
def isPrintable (c : Char) : Bool :=
  if isAscii c then ' ' ≤ c && c ≤ '~' else CharSet.printable.contains c

/-- White space; in ASCII these are tab to carriage return, the four separators and the space. -/
def isBlank (c : Char) : Bool :=
  if isAscii c then
    ('\t' ≤ c && c ≤ '\r') || ('\x1c' ≤ c && c ≤ '\x1f') || c = ' '
  else CharSet.blanks.contains c

/-- Characters that may stand inside a name of the language. -/
def isNamePart (c : Char) : Bool :=
  isAlphanumeric c || c = '_'

/-- Characters that may begin a name of the language. -/
def isNameStart (c : Char) : Bool :=
  isLetter c || c = '_'

/-- Whether a text is an identifier in the sense of Unicode, with `_` as a further start. -/
def isIdentifier : List Char → Bool
  | [] => false
  | first :: rest =>
      (if isAscii first then isNameStart first else CharSet.identifierStart.contains first) &&
        rest.all fun c => if isAscii c then isNamePart c else CharSet.identifierPart.contains c

end ClauseFlow.CharClass

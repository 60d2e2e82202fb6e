import ClauseFlow.Number.Binary64
import ClauseFlow.Text.CharClass

/-!
# Numerals

How numbers are read from and written to text. A decimal integer numeral has at most
`Numeral.maxDigits` digits, in both directions; hexadecimal, octal and binary ones have no limit.
-/

namespace ClauseFlow.Numeral

/-- The longest decimal integer numeral that is read or written. -/
def maxDigits : Nat := 4300

/-! ## Writing -/

/-- A natural number in decimal. -/
def natText (n : Nat) : String :=
  String.ofList (Nat.toDigits 10 n)

/-- An integer in decimal. -/
def intText (n : Int) : String :=
  if n < 0 then "-" ++ natText n.natAbs else natText n.natAbs

/-- Whether an integer has a decimal numeral, which is to say, not too many digits. -/
def hasNumeral (n : Int) : Bool :=
  n.natAbs < Nat.pow 10 maxDigits

/-! ## Reading -/

/-- The number with the given digits, most significant first. -/
def ofDigits (base : Nat) (digits : List Nat) : Nat :=
  digits.foldl (fun value digit => value * base + digit) 0

/-- The value of a digit in a base up to sixteen: a decimal digit of any script or a letter. -/
def digitValue? (base : Nat) (c : Char) : Option Nat :=
  let value? :=
    match CharClass.decimalValue? c with
    | some value => some value
    | none =>
        if 'a' ≤ c ∧ c ≤ 'f' then some (c.toNat - 'a'.toNat + 10)
        else if 'A' ≤ c ∧ c ≤ 'F' then some (c.toNat - 'A'.toNat + 10)
        else none
  value?.filter (· < base)

/-- The number that a non-empty run of digits denotes. -/
def ofDigitChars? (base : Nat) (text : List Char) : Option Nat :=
  if text.isEmpty then none else (text.mapM (digitValue? base)).map (ofDigits base)

/-- The blanks that may surround an integer numeral. -/
def isPadding (c : Char) : Bool :=
  if CharClass.isAscii c then ('\t' ≤ c && c ≤ '\r') || c = ' ' else CharClass.isBlank c

/-- A text without the blanks at its end. -/
def trimRight (text : List Char) : List Char :=
  (text.reverse.dropWhile isPadding).reverse

/-- The base that the letter after a leading zero announces. -/
def baseOfMark? (mark : Char) : Option Nat :=
  if mark = 'x' || mark = 'X' then some 16
  else if mark = 'o' || mark = 'O' then some 8
  else if mark = 'b' || mark = 'B' then some 2
  else none

/-- The number that a run of decimal digits denotes, unless the run is too long. -/
def ofDecimalDigits? (text : List Char) : Option Nat :=
  if text.length ≤ maxDigits then ofDigitChars? 10 text else none

/-- A decimal integer numeral with an optional sign, between blanks. -/
def readDecimalInteger? (text : List Char) : Option Int :=
  match trimRight (text.dropWhile isPadding) with
  | '-' :: digits => (ofDecimalDigits? digits).map fun value => -(value : Int)
  | '+' :: digits => (ofDecimalDigits? digits).map Int.ofNat
  | digits => (ofDecimalDigits? digits).map Int.ofNat

/-- An integer numeral. Underscores are ignored; `0x`, `0o` and `0b` announce another base. -/
def readInteger? (text : String) : Option Int :=
  match text.toList.filter (· ≠ '_') with
  | '0' :: mark :: rest =>
      match baseOfMark? mark with
      | some base => (ofDigitChars? base (trimRight rest)).map Int.ofNat
      | none => readDecimalInteger? ('0' :: mark :: rest)
  | clean => readDecimalInteger? clean

/-- A numeral with a decimal point between digits. Underscores are ignored. -/
def readDecimal? (text : String) : Option Binary64 :=
  let clean := text.toList.filter (· ≠ '_')
  match clean.dropWhile (· ≠ '.') with
  | [] => none
  | _ :: fraction => do
      let whole ← ofDigitChars? 10 (clean.takeWhile (· ≠ '.'))
      let part ← ofDigitChars? 10 fraction
      pure (.ofDecimal (whole * Nat.pow 10 fraction.length + part) (-(fraction.length : Int)))

end ClauseFlow.Numeral

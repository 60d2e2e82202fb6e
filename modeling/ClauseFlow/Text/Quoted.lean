import ClauseFlow.Text.CharClass

/-!
# Quoted texts

Messages and outlines show a text between quotes with everything escaped that is not printable.
Single quotes are used unless the text holds a single quote and no double quote.
-/

namespace ClauseFlow.Text

/-- A number below sixteen as a lower-case hexadecimal digit. -/
def hexDigit (n : Nat) : Char :=
  Nat.digitChar (n % 16)

/-- The last `width` hexadecimal digits of a number. -/
def hexDigits (n : Nat) : (width : Nat) → List Char
  | 0 => []
  | width + 1 => hexDigits (n / 16) width ++ [hexDigit n]

/-- One character of a quoted text. -/
def quotedChar (quote c : Char) : List Char :=
  if c = quote || c = '\\' then ['\\', c]
  else if c = '\n' then ['\\', 'n']
  else if c = '\r' then ['\\', 'r']
  else if c = '\t' then ['\\', 't']
  else if CharClass.isPrintable c then [c]
  else if c.toNat < 0x100 then '\\' :: 'x' :: hexDigits c.toNat 2
  else if c.toNat < 0x10000 then '\\' :: 'u' :: hexDigits c.toNat 4
  else '\\' :: 'U' :: hexDigits c.toNat 8

/-- A text between quotes. -/
def quoted (text : String) : String :=
  let content := text.toList
  let quote := if content.contains '\'' && !content.contains '"' then '"' else '\''
  String.ofList (quote :: content.flatMap (quotedChar quote) ++ [quote])

end ClauseFlow.Text

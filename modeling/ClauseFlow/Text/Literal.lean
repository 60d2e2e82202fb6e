import ClauseFlow.Text.Lines

/-!
# Text literals

The literal that denotes a text: between double quotes, with backslash, double quote, line feed and
tab escaped.
-/

namespace ClauseFlow.Text

/-- One character inside a text literal. -/
def literalChar (c : Char) : List Char :=
  if c = '\\' then ['\\', '\\']
  else if c = '"' then ['\\', '"']
  else if c = '\n' then ['\\', 'n']
  else if c = '\t' then ['\\', 't']
  else [c]

/-- The literal that denotes a text. -/
def literal (text : String) : String :=
  String.ofList ('"' :: text.toList.flatMap literalChar ++ ['"'])

end ClauseFlow.Text

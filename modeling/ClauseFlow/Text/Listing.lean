import ClauseFlow.Text.Lines

/-!
# Listed texts

How several texts are written one after the other, and between brackets.
-/

namespace ClauseFlow.Text

/-- Texts with commas between them. -/
def commas (texts : List String) : String :=
  join ", " texts

/-- Entries `key: text` with commas between them. -/
def keyed (entries : List (String × String)) : String :=
  commas (entries.map fun entry => entry.1 ++ ": " ++ entry.2)

/-- A text between braces. -/
def braced (text : String) : String :=
  "\x7b" ++ text ++ "\x7d"

/-- List items between brackets, with the rest of the list after a bar. -/
def bracketed (items : String) (tail : Option String) : String :=
  "[" ++ items ++ (match tail with | some rest => " | " ++ rest | none => "") ++ "]"

end ClauseFlow.Text

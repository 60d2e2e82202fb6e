import ClauseFlow.Expr.Print
import ClauseFlow.Value

/-!
# Values as text

A value is shown as the expression that denotes it, as far as there is one.
-/

namespace ClauseFlow.Value

/-- The text of an entry, given the texts of its key and its value: a key that is an identifier
stands before a colon. -/
def showEntry (key : Value) (shownKey shownValue : String) : String :=
  match key with
  | .text name =>
      if CharClass.isIdentifier name.toList then name ++ ": " ++ shownValue
      else shownKey ++ " => " ++ shownValue
  | _ => shownKey ++ " => " ++ shownValue

/-- The text of a function value. -/
def showFunction (name : String) : String :=
  "#Function<" ++ name ++ ">"

mutual

/-- The text of a value. -/
def print : Value → String
  | .nil => "nil"
  | .boolean value => if value then "true" else "false"
  | .integer value => Numeral.intText value
  | .decimal value => value.text
  | .undefined _ => Binary64.nan.text
  | .text value => Text.literal value
  | .atom name => ":" ++ name
  | .result tag inner => tag.text ++ "(" ++ print inner ++ ")"
  | .tuple elements => Text.braced (Text.commas (printAll elements))
  | .list elements => Text.bracketed (Text.commas (printAll elements)) none
  | .map entries => "%" ++ Text.braced (Text.commas (printEntries entries))
  | .record tag entries => tag ++ Text.braced (Text.commas (printEntries entries))
  | .recordType name => name
  | .closure params _ _ _ _ => showFunction ("fn/" ++ Numeral.natText params.length)
  | .function name _ => showFunction name

def printAll : List Value → List String
  | [] => []
  | value :: rest => print value :: printAll rest

def printEntries : List (Value × Value) → List String
  | [] => []
  | (key, value) :: rest => showEntry key (print key) (print value) :: printEntries rest

end

mutual

/-- Whether a value can be shown: no integer in it has too many digits. -/
def hasNotation : Value → Bool
  | .integer value => Numeral.hasNumeral value
  | .result _ inner => hasNotation inner
  | .tuple elements | .list elements => allHaveNotation elements
  | .map entries | .record _ entries => entriesHaveNotation entries
  | .nil | .boolean _ | .decimal _ | .undefined _ | .text _ | .atom _ | .recordType _
  | .closure .. | .function .. => true

def allHaveNotation : List Value → Bool
  | [] => true
  | value :: rest => hasNotation value && allHaveNotation rest

def entriesHaveNotation : List (Value × Value) → Bool
  | [] => true
  | (key, value) :: rest => hasNotation key && hasNotation value && entriesHaveNotation rest

end

/-- The text of a value that has one. -/
def print? (value : Value) : Option String :=
  if value.hasNotation then some value.print else none

end ClauseFlow.Value

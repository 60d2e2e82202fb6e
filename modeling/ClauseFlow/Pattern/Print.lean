import ClauseFlow.Number.Shortest
import ClauseFlow.Pattern
import ClauseFlow.Text.Listing
import ClauseFlow.Text.Literal

/-!
# Patterns as text
-/

namespace ClauseFlow

namespace Literal

def print : Literal → String
  | nil => "nil"
  | boolean value => if value then "true" else "false"
  | integer value => Numeral.intText value
  | decimal value => value.text
  | text value => Text.literal value
  | atom name => ":" ++ name

/-- Whether a constant has a notation: an integer may have too many digits. -/
def hasNotation : Literal → Bool
  | integer value => Numeral.hasNumeral value
  | _ => true

end Literal

namespace Pattern

mutual

def print : Pattern → String
  | .literal value _ => value.print
  | .wildcard _ => "_"
  | .binding name _ => name
  | .tuple elements _ => Text.braced (Text.commas (printAll elements))
  | .list elements none _ => Text.bracketed (Text.commas (printAll elements)) none
  | .list elements (some tail) _ =>
      Text.bracketed (Text.commas (printAll elements)) (some (print tail))
  | .map entries _ => "%" ++ Text.braced (Text.keyed (printEntries entries))
  | .record tag entries _ => tag ++ Text.braced (Text.keyed (printEntries entries))
  | .result tag inner _ => tag.text ++ "(" ++ print inner ++ ")"
  | .named inner name _ => print inner ++ " = " ++ name

def printAll : List Pattern → List String
  | [] => []
  | pattern :: rest => print pattern :: printAll rest

def printEntries : List (String × Pattern) → List (String × String)
  | [] => []
  | (key, pattern) :: rest => (key, print pattern) :: printEntries rest

end

mutual

/-- Whether all constants in a pattern have a notation. -/
def hasNotation : Pattern → Bool
  | .literal value _ => value.hasNotation
  | .wildcard _ | .binding .. => true
  | .tuple elements _ => allHaveNotation elements
  | .list elements none _ => allHaveNotation elements
  | .list elements (some tail) _ => allHaveNotation elements && hasNotation tail
  | .map entries _ | .record _ entries _ => entriesHaveNotation entries
  | .result _ inner _ | .named inner _ _ => hasNotation inner

def allHaveNotation : List Pattern → Bool
  | [] => true
  | pattern :: rest => hasNotation pattern && allHaveNotation rest

def entriesHaveNotation : List (String × Pattern) → Bool
  | [] => true
  | (_, pattern) :: rest => hasNotation pattern && entriesHaveNotation rest

end

end Pattern
end ClauseFlow

import ClauseFlow.Pattern

/-!
# Names in patterns

The names that patterns introduce, with their places, in the order in which they are bound.
-/

namespace ClauseFlow.Pattern

mutual

/-- Every name a pattern introduces, anonymous ones included, from left to right; the name for a
whole follows the names inside it. -/
def bindings : Pattern → List Identifier
  | .literal .. | .wildcard _ => []
  | .binding name span => [⟨name, span⟩]
  | .tuple elements _ => bindingsOfAll elements
  | .list elements none _ => bindingsOfAll elements
  | .list elements (some tail) _ => bindingsOfAll elements ++ bindings tail
  | .map entries _ | .record _ entries _ => bindingsOfEntries entries
  | .result _ inner _ => bindings inner
  | .named inner name span => bindings inner ++ [⟨name, span⟩]

/-- The names of several patterns in a row. -/
def bindingsOfAll : List Pattern → List Identifier
  | [] => []
  | pattern :: rest => bindings pattern ++ bindingsOfAll rest

def bindingsOfEntries : List (String × Pattern) → List Identifier
  | [] => []
  | (_, pattern) :: rest => bindings pattern ++ bindingsOfEntries rest

end

end ClauseFlow.Pattern

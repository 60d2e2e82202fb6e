import ClauseFlow.Number.Binary64
import ClauseFlow.Span

/-!
# Patterns

The patterns of a declaration's head. A pattern fits a value by structure; names in it are bound to
the parts they stand for. A name that begins with `_` is anonymous: it fits anything and binds
nothing.
-/

namespace ClauseFlow

/-- Whether a name is anonymous. -/
def isAnonymous (name : String) : Bool :=
  name.toList.head? = some '_'

/-- A name and the place where it stands. -/
structure Identifier where
  name : String
  span : Span
  deriving DecidableEq, Repr

/-- The two tags of a result. -/
inductive ResultTag where
  | ok
  | error
  deriving DecidableEq, Repr

def ResultTag.text : ResultTag → String
  | ok => "Ok"
  | error => "Error"

/-- The constants that can stand in a pattern. -/
inductive Literal where
  | nil
  | boolean (value : Bool)
  | integer (value : Int)
  | decimal (value : Binary64)
  | text (value : String)
  | atom (name : String)
  deriving DecidableEq

inductive Pattern where
  | literal (value : Literal) (span : Span)
  | wildcard (span : Span)
  | binding (name : String) (span : Span)
  | tuple (elements : List Pattern) (span : Span)
  /-- A list, and what the rest of the list fits if it may be longer. -/
  | list (elements : List Pattern) (tail : Option Pattern) (span : Span)
  | map (entries : List (String × Pattern)) (span : Span)
  | record (tag : String) (entries : List (String × Pattern)) (span : Span)
  | result (tag : ResultTag) (inner : Pattern) (span : Span)
  /-- A pattern with a name for the whole value. -/
  | named (inner : Pattern) (name : String) (span : Span)

namespace Pattern

instance : Inhabited Pattern := ⟨.wildcard .generated⟩

def span : Pattern → Span
  | literal _ span | wildcard span | binding _ span | tuple _ span | list _ _ span
  | map _ span | record _ _ span | result _ _ span | named _ _ span => span

/-- The kind of a pattern in outlines. -/
def label : Pattern → String
  | literal .. => "LiteralPattern"
  | wildcard .. => "WildcardPattern"
  | binding .. => "BindingPattern"
  | tuple .. => "TuplePattern"
  | list .. => "ListPattern"
  | map .. => "MapPattern"
  | record .. => "RecordPattern"
  | result .. => "ResultPattern"
  | named .. => "AliasPattern"

/-- The direct parts of a pattern, from left to right. -/
def children : Pattern → List Pattern
  | tuple elements _ => elements
  | list elements tail _ => elements ++ tail.toList
  | map entries _ | record _ entries _ => entries.map (·.2)
  | result _ inner _ | named inner _ _ => [inner]
  | literal .. | wildcard .. | binding .. => []

/-! ## Equality -/

mutual

/-- Whether two patterns are the same, spans included. -/
def same : Pattern → Pattern → Bool
  | .literal value span, .literal value' span' => value = value' && span = span'
  | .wildcard span, .wildcard span' => span = span'
  | .binding name span, .binding name' span' => name = name' && span = span'
  | .tuple elements span, .tuple elements' span' => sameAll elements elements' && span = span'
  | .list elements none span, .list elements' none span' =>
      sameAll elements elements' && span = span'
  | .list elements (some tail) span, .list elements' (some tail') span' =>
      sameAll elements elements' && same tail tail' && span = span'
  | .map entries span, .map entries' span' => sameEntries entries entries' && span = span'
  | .record tag entries span, .record tag' entries' span' =>
      tag = tag' && sameEntries entries entries' && span = span'
  | .result tag inner span, .result tag' inner' span' =>
      tag = tag' && same inner inner' && span = span'
  | .named inner name span, .named inner' name' span' =>
      same inner inner' && name = name' && span = span'
  | _, _ => false

def sameAll : List Pattern → List Pattern → Bool
  | [], [] => true
  | first :: rest, first' :: rest' => same first first' && sameAll rest rest'
  | _, _ => false

def sameEntries : List (String × Pattern) → List (String × Pattern) → Bool
  | [], [] => true
  | (key, value) :: rest, (key', value') :: rest' =>
      key = key' && same value value' && sameEntries rest rest'
  | _, _ => false

end

mutual

theorem same_iff : ∀ first second : Pattern, same first second = true ↔ first = second
  | .literal .., second | .wildcard .., second | .binding .., second => by
      cases second <;> simp [same]
  | .tuple elements _, second => by cases second <;> simp [same, sameAll_iff elements]
  | .list elements none _, second => by
      cases second with
      | list elements' tail' span' => cases tail' <;> simp [same, sameAll_iff elements]
      | _ => simp [same]
  | .list elements (some tail) _, second => by
      cases second with
      | list elements' tail' span' =>
          cases tail' <;> simp [same, sameAll_iff elements, same_iff tail, and_assoc]
      | _ => simp [same]
  | .map entries _, second => by cases second <;> simp [same, sameEntries_iff entries]
  | .record _ entries _, second => by
      cases second <;> simp [same, sameEntries_iff entries, and_assoc]
  | .result _ inner _, second => by cases second <;> simp [same, same_iff inner, and_assoc]
  | .named inner _ _, second => by cases second <;> simp [same, same_iff inner, and_assoc]

theorem sameAll_iff : ∀ first second : List Pattern, sameAll first second = true ↔ first = second
  | [], second => by cases second <;> simp [sameAll]
  | pattern :: rest, second => by
      cases second <;> simp [sameAll, same_iff pattern, sameAll_iff rest]

theorem sameEntries_iff : ∀ first second : List (String × Pattern),
    sameEntries first second = true ↔ first = second
  | [], second => by cases second <;> simp [sameEntries]
  | (key, pattern) :: rest, second => by
      cases second with
      | nil => simp [sameEntries]
      | cons entry rest' =>
          obtain ⟨key', pattern'⟩ := entry
          simp [sameEntries, same_iff pattern, sameEntries_iff rest, and_assoc]

end

instance : DecidableEq Pattern := fun first second =>
  decidable_of_iff _ (same_iff first second)

end Pattern
end ClauseFlow

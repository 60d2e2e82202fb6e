import ClauseFlow.Number.Shortest
import ClauseFlow.Text.Listing
import ClauseFlow.Text.Quoted

/-!
# TOML values

What a TOML document says: a table whose entries are texts, numbers, truth values, arrays and
further tables. Dates and times are left out.
-/

namespace ClauseFlow

inductive Toml where
  | text (value : String)
  | integer (value : Int)
  | decimal (value : Binary64)
  | boolean (value : Bool)
  | array (items : List Toml)
  | table (entries : List (String × Toml))

namespace Toml

instance : Inhabited Toml := ⟨.table []⟩

/-- The entries of a table, in the order in which their keys come up. -/
abbrev Entries := List (String × Toml)

/-- Whether a value counts as a yes: empty texts, arrays and tables do not, and neither do zeros. -/
def isAffirmative : Toml → Bool
  | text value => !value.isEmpty
  | integer value => value ≠ 0
  | decimal value => !value.isZero
  | boolean value => value
  | array items => !items.isEmpty
  | table entries => !entries.isEmpty

mutual

/-- A value inside an array or a table. -/
def quotation : Toml → String
  | text value => Text.quoted value
  | integer value => Numeral.intText value
  | decimal value => value.scientificText
  | boolean value => if value then "True" else "False"
  | array items => Text.bracketed (Text.commas (quotations items)) none
  | table entries => Text.braced (Text.commas (entryQuotations entries))

def quotations : List Toml → List String
  | [] => []
  | item :: rest => item.quotation :: quotations rest

def entryQuotations : List (String × Toml) → List String
  | [] => []
  | (key, value) :: rest =>
      (Text.quoted key ++ ": " ++ value.quotation) :: entryQuotations rest

end

/-- A value by itself: a text is written as it is. -/
def print : Toml → String
  | text value => value
  | other => other.quotation

mutual

/-- Whether all integers in a value can be written. -/
def hasNotation : Toml → Bool
  | integer value => Numeral.hasNumeral value
  | array items => allHaveNotation items
  | table entries => allEntriesHaveNotation entries
  | text _ | decimal _ | boolean _ => true

def allHaveNotation : List Toml → Bool
  | [] => true
  | item :: rest => item.hasNotation && allHaveNotation rest

def allEntriesHaveNotation : List (String × Toml) → Bool
  | [] => true
  | (_, value) :: rest => value.hasNotation && allEntriesHaveNotation rest

end

end Toml
end ClauseFlow

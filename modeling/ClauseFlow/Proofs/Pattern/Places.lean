import ClauseFlow.Pattern.Print
import ClauseFlow.Proofs.Pattern.Every

/-!
# Patterns without their places

A pattern without its places is what is left when all spans are forgotten. A pattern that has been
printed and read again is settled: what is not finite has become the name that it is printed as.
-/

namespace ClauseFlow.Pattern

mutual

/-- A pattern with its spans forgotten and its decimal constants replaced. -/
def rebuild (decimal : Binary64 → Pattern) : Pattern → Pattern
  | .literal (.decimal value) _ => decimal value
  | .literal value _ => .literal value .generated
  | .wildcard _ => .wildcard .generated
  | .binding name _ => .binding name .generated
  | .tuple elements _ => .tuple (rebuildAll decimal elements) .generated
  | .list elements none _ => .list (rebuildAll decimal elements) none .generated
  | .list elements (some tail) _ =>
      .list (rebuildAll decimal elements) (some (rebuild decimal tail)) .generated
  | .map entries _ => .map (rebuildEntries decimal entries) .generated
  | .record tag entries _ => .record tag (rebuildEntries decimal entries) .generated
  | .result tag inner _ => .result tag (rebuild decimal inner) .generated
  | .named inner name _ => .named (rebuild decimal inner) name .generated

def rebuildAll (decimal : Binary64 → Pattern) : List Pattern → List Pattern
  | [] => []
  | pattern :: rest => rebuild decimal pattern :: rebuildAll decimal rest

def rebuildEntries (decimal : Binary64 → Pattern) :
    List (String × Pattern) → List (String × Pattern)
  | [] => []
  | (key, pattern) :: rest => (key, rebuild decimal pattern) :: rebuildEntries decimal rest

end

/-- A decimal constant without its place. -/
def ofDecimal (value : Binary64) : Pattern :=
  .literal (.decimal value) .generated

/-- What a decimal constant is read as again. -/
def settledDecimal (value : Binary64) : Pattern :=
  if value.isFinite then ofDecimal value else .binding value.text .generated

/-- A pattern with its spans forgotten. -/
def unplaced (pattern : Pattern) : Pattern :=
  pattern.rebuild ofDecimal

/-- What a pattern is read as again, with its spans forgotten. -/
def settled (pattern : Pattern) : Pattern :=
  pattern.rebuild settledDecimal

variable {decimal decimal' : Binary64 → Pattern}

theorem rebuildAll_eq (patterns : List Pattern) :
    rebuildAll decimal patterns = patterns.map (rebuild decimal) := by
  induction patterns with
  | nil => rfl
  | cons pattern rest ih => rw [rebuildAll, ih, List.map_cons]

theorem rebuildEntries_eq (entries : List (String × Pattern)) :
    rebuildEntries decimal entries =
      entries.map fun entry => (entry.1, rebuild decimal entry.2) := by
  induction entries with
  | nil => rfl
  | cons entry rest ih => rw [rebuildEntries, ih, List.map_cons]

/-! ## Printing without places -/

mutual

theorem print_rebuild (same : ∀ value, (decimal value).print = value.text) :
    ∀ pattern : Pattern, (pattern.rebuild decimal).print = pattern.print
  | .literal value _ => by
      cases value with
      | decimal value => exact same value
      | _ => rfl
  | .wildcard _ | .binding .. => rfl
  | .tuple elements _ | .list elements none _ => by
      simp only [rebuild, print, printAll_rebuild same elements]
  | .list elements (some tail) _ => by
      simp only [rebuild, print, printAll_rebuild same elements, print_rebuild same tail]
  | .map entries _ | .record _ entries _ => by
      simp only [rebuild, print, printEntries_rebuild same entries]
  | .result _ inner _ | .named inner _ _ => by
      simp only [rebuild, print, print_rebuild same inner]

theorem printAll_rebuild (same : ∀ value, (decimal value).print = value.text) :
    ∀ patterns : List Pattern, printAll (rebuildAll decimal patterns) = printAll patterns
  | [] => rfl
  | pattern :: rest => by
      simp only [rebuildAll, printAll, print_rebuild same pattern, printAll_rebuild same rest]

theorem printEntries_rebuild (same : ∀ value, (decimal value).print = value.text) :
    ∀ entries : List (String × Pattern),
      printEntries (rebuildEntries decimal entries) = printEntries entries
  | [] => rfl
  | (key, pattern) :: rest => by
      simp only [rebuildEntries, printEntries, print_rebuild same pattern,
        printEntries_rebuild same rest]

end

theorem print_unplaced (pattern : Pattern) : pattern.unplaced.print = pattern.print :=
  print_rebuild (fun _ => rfl) pattern

theorem print_settled (pattern : Pattern) : pattern.settled.print = pattern.print := by
  apply print_rebuild
  intro value
  rw [settledDecimal]
  split <;> rfl

/-! ## Notations without places -/

mutual

theorem hasNotation_rebuild (notated : ∀ value, (decimal value).hasNotation = true) :
    ∀ pattern : Pattern, (pattern.rebuild decimal).hasNotation = pattern.hasNotation
  | .literal value _ => by
      cases value with
      | decimal value => exact notated value
      | _ => rfl
  | .wildcard _ | .binding .. => rfl
  | .tuple elements _ | .list elements none _ => by
      simp only [rebuild, hasNotation, allHaveNotation_rebuild notated elements]
  | .list elements (some tail) _ => by
      simp only [rebuild, hasNotation, allHaveNotation_rebuild notated elements,
        hasNotation_rebuild notated tail]
  | .map entries _ | .record _ entries _ => by
      simp only [rebuild, hasNotation, entriesHaveNotation_rebuild notated entries]
  | .result _ inner _ | .named inner _ _ => by
      simp only [rebuild, hasNotation, hasNotation_rebuild notated inner]

theorem allHaveNotation_rebuild (notated : ∀ value, (decimal value).hasNotation = true) :
    ∀ patterns : List Pattern,
      allHaveNotation (rebuildAll decimal patterns) = allHaveNotation patterns
  | [] => rfl
  | pattern :: rest => by
      simp only [rebuildAll, allHaveNotation, hasNotation_rebuild notated pattern,
        allHaveNotation_rebuild notated rest]

theorem entriesHaveNotation_rebuild (notated : ∀ value, (decimal value).hasNotation = true) :
    ∀ entries : List (String × Pattern),
      entriesHaveNotation (rebuildEntries decimal entries) = entriesHaveNotation entries
  | [] => rfl
  | (key, pattern) :: rest => by
      simp only [rebuildEntries, entriesHaveNotation, hasNotation_rebuild notated pattern,
        entriesHaveNotation_rebuild notated rest]

end

theorem hasNotation_settledDecimal (value : Binary64) :
    (settledDecimal value).hasNotation = true := by
  rw [settledDecimal]
  split <;> rfl

/-! ## Finite constants -/

def isFinitePart : Pattern → Bool
  | .literal (.decimal value) _ => value.isFinite
  | _ => true

/-- Whether all decimal constants in a pattern are finite. -/
def isFinite (pattern : Pattern) : Bool :=
  pattern.every isFinitePart

mutual

theorem settled_eq_unplaced : ∀ {pattern : Pattern}, pattern.isFinite = true →
    pattern.rebuild settledDecimal = pattern.rebuild ofDecimal
  | .literal value _, finite => by
      cases value with
      | decimal value => exact if_pos finite
      | _ => rfl
  | .wildcard _, _ | .binding .., _ => rfl
  | .tuple elements _, finite | .list elements none _, finite => by
      simp only [isFinite, every, isFinitePart, Bool.true_and] at finite
      simp only [rebuild, allSettled_eq_unplaced finite]
  | .list elements (some tail) _, finite => by
      simp only [isFinite, every, isFinitePart, Bool.true_and, Bool.and_eq_true] at finite
      simp only [rebuild, allSettled_eq_unplaced finite.1, settled_eq_unplaced finite.2]
  | .map entries _, finite | .record _ entries _, finite => by
      simp only [isFinite, every, isFinitePart, Bool.true_and] at finite
      simp only [rebuild, entriesSettled_eq_unplaced finite]
  | .result _ inner _, finite | .named inner _ _, finite => by
      simp only [isFinite, every, isFinitePart, Bool.true_and] at finite
      simp only [rebuild, settled_eq_unplaced finite]

theorem allSettled_eq_unplaced : ∀ {patterns : List Pattern},
    everyOfAll isFinitePart patterns = true →
      rebuildAll settledDecimal patterns = rebuildAll ofDecimal patterns
  | [], _ => rfl
  | pattern :: rest, finite => by
      simp only [everyOfAll, Bool.and_eq_true] at finite
      simp only [rebuildAll, settled_eq_unplaced finite.1, allSettled_eq_unplaced finite.2]

theorem entriesSettled_eq_unplaced : ∀ {entries : List (String × Pattern)},
    everyOfEntries isFinitePart entries = true →
      rebuildEntries settledDecimal entries = rebuildEntries ofDecimal entries
  | [], _ => rfl
  | (key, pattern) :: rest, finite => by
      simp only [everyOfEntries, Bool.and_eq_true] at finite
      simp only [rebuildEntries, settled_eq_unplaced finite.1, entriesSettled_eq_unplaced finite.2]

end

end ClauseFlow.Pattern

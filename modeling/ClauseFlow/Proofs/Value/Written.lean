import ClauseFlow.Proofs.Expr.Lexemes
import ClauseFlow.Proofs.Expr.Places
import ClauseFlow.Value.Show

/-!
# Values as expressions

Apart from functions and from numbers that are not finite, a value has an expression that denotes
it, and it is shown as this expression is printed.
-/

namespace ClauseFlow.Value

/-! ## Values that have an expression -/

/-- What a key is as the name of a field. -/
def keyText : Value → String
  | .text name => name
  | key => key.print

/-- Whether a key is shown before a colon. -/
def isFieldKey : Value → Bool
  | .text name => CharClass.isIdentifier name.toList
  | _ => false

mutual

/-- Whether a value is one that an expression denotes: its numbers are finite, its atoms and tags
are words, and its keys are different names of fields. -/
def isSpelled : Value → Bool
  | .nil | .boolean _ | .integer _ | .text _ => true
  | .decimal value => value.isFinite
  | .atom name => isAtomName name
  | .recordType name => isTag name
  | .result _ inner => isSpelled inner
  | .tuple elements | .list elements => allSpelled elements
  | .map entries => areKeys (entries.map (·.1.keyText)) && entriesSpelled entries
  | .record tag entries =>
      isTag tag && areKeys (entries.map (·.1.keyText)) && entriesSpelled entries
  | .undefined _ | .closure .. | .function .. => false

def allSpelled : List Value → Bool
  | [] => true
  | value :: rest => isSpelled value && allSpelled rest

def entriesSpelled : List (Value × Value) → Bool
  | [] => true
  | (key, value) :: rest => key.isFieldKey && isSpelled value && entriesSpelled rest

end

/-! ## The expression of a value -/

/-- A number with a minus sign before it if it has one. -/
def signed (negative : Bool) (size : Expr) : Expr :=
  if negative then .unary .negate size .generated else size

mutual

/-- The expression that denotes a value, if there is one. -/
def expr : Value → Expr
  | .boolean value => .boolean value .generated
  | .integer value => signed (value < 0) (.integer value.natAbs .generated)
  | .decimal value => signed value.isNegative (.decimal value.abs .generated)
  | .text value => .text value .generated
  | .atom name => .atom name .generated
  | .recordType name => .typeName name .generated
  | .result tag inner => .result tag (expr inner) .generated
  | .tuple elements => .tuple (exprs elements) .generated
  | .list elements => .list (exprs elements) none .generated
  | .map entries => .map (exprEntries entries) .generated
  | .record tag entries => .record tag (exprEntries entries) .generated
  | .nil | .undefined _ | .closure .. | .function .. => .nil .generated

def exprs : List Value → List Expr
  | [] => []
  | value :: rest => expr value :: exprs rest

def exprEntries : List (Value × Value) → List (String × Expr)
  | [] => []
  | (key, value) :: rest => (key.keyText, expr value) :: exprEntries rest

end

theorem keys_exprEntries (entries : List (Value × Value)) :
    (exprEntries entries).map (·.1) = entries.map (·.1.keyText) := by
  induction entries with
  | nil => rfl
  | cons entry rest ih => rw [exprEntries, List.map_cons, ih, List.map_cons]

/-! ## Showing is printing -/

theorem print_signed (negative : Bool) {size : Expr} (text : String)
    (bare : ∀ asked, size.print asked = text) :
    (signed negative size).print 0 = if negative then "-" ++ text else text := by
  cases negative with
  | false => exact bare 0
  | true =>
      have loose : Expr.parenthesized Expr.signPrecedence 0 ("-" ++ size.print _) =
          "-" ++ size.print Expr.signPrecedence := if_neg (by decide)
      rw [signed, if_pos rfl, Expr.print, loose, bare, if_pos rfl]

theorem abs_of_positive {value : Binary64} (positive : value.isNegative = false) :
    value.abs = value := by
  cases value with
  | nan => rfl
  | infinite sign => exact congrArg Binary64.infinite positive.symm
  | finite sign mantissa exponent canonical =>
      obtain rfl : sign = false := positive
      rfl

/-- A key that is shown before a colon is shown as the name of a field. -/
theorem showEntry_of_isFieldKey {key : Value} (isField : key.isFieldKey = true)
    (shownKey shownValue : String) :
    showEntry key shownKey shownValue = key.keyText ++ ": " ++ shownValue := by
  cases key with
  | text name => exact if_pos isField
  | _ => cases isField

theorem text_keyText {key : Value} (isField : key.isFieldKey = true) :
    .text key.keyText = key := by
  cases key with
  | text name => rfl
  | _ => cases isField

mutual

theorem print_expr : ∀ {value : Value}, value.isSpelled = true →
    value.expr.print 0 = value.print
  | .nil, _ | .boolean _, _ | .text _, _ | .atom _, _ | .recordType _, _ => rfl
  | .integer value, _ => by
      rw [expr, print_signed _ (Numeral.natText value.natAbs) fun _ => rfl, print,
        Numeral.intText]
      simp only [decide_eq_true_eq]
  | .decimal value, _ => by
      rw [expr, print_signed _ value.abs.text fun _ => rfl, print]
      split
      · rename_i negative
        rw [Binary64.text_of_isNegative negative]
      · rename_i positive
        rw [abs_of_positive (Bool.eq_false_iff.mpr positive)]
  | .result tag inner, spelled => by
      rw [expr, Expr.print, print, print_expr (show inner.isSpelled = true from spelled)]
  | .tuple elements, spelled | .list elements, spelled => by
      rw [expr, Expr.print, print, printAll_exprs (show allSpelled elements = true from spelled)]
  | .map entries, spelled => by
      simp only [isSpelled, Bool.and_eq_true] at spelled
      rw [expr, Expr.print, print, Text.keyed, printEntries_exprEntries spelled.2]
  | .record tag entries, spelled => by
      simp only [isSpelled, Bool.and_eq_true] at spelled
      rw [expr, Expr.print, print, Text.keyed, printEntries_exprEntries spelled.2]

theorem printAll_exprs : ∀ {values : List Value}, allSpelled values = true →
    Expr.printAll (exprs values) = printAll values
  | [], _ => rfl
  | value :: rest, spelled => by
      simp only [allSpelled, Bool.and_eq_true] at spelled
      rw [exprs, Expr.printAll, printAll, print_expr spelled.1, printAll_exprs spelled.2]

theorem printEntries_exprEntries : ∀ {entries : List (Value × Value)},
    entriesSpelled entries = true →
      (Expr.printEntries (exprEntries entries)).map (fun entry => entry.1 ++ ": " ++ entry.2) =
        printEntries entries
  | [], _ => rfl
  | (key, value) :: rest, spelled => by
      simp only [entriesSpelled, Bool.and_eq_true] at spelled
      rw [exprEntries, Expr.printEntries, printEntries, List.map_cons,
        showEntry_of_isFieldKey spelled.1.1, print_expr spelled.1.2,
        printEntries_exprEntries spelled.2]

end

/-! ## The reader finds it -/

/-- What has to hold of every part of the expression of a value. -/
def isPlainPart (part : Expr) : Bool :=
  part.isSpelledPart && part.isFinitePart

theorem every_signed (negative : Bool) {size : Expr} (plain : size.every isPlainPart = true) :
    (signed negative size).every isPlainPart = true := by
  cases negative with
  | false => exact plain
  | true => exact plain

mutual

theorem every_expr : ∀ {value : Value}, value.isSpelled = true →
    value.expr.every isPlainPart = true
  | .nil, _ | .boolean _, _ | .text _, _ => rfl
  | .integer value, _ => every_signed _ rfl
  | .decimal value, spelled => by
      apply every_signed
      have finite : value.isFinite = true := spelled
      have sameSize : value.abs.isFinite = true ∧ value.abs.isNaN = false := by
        cases value with
        | finite sign mantissa exponent canonical => exact ⟨rfl, rfl⟩
        | _ => cases finite
      simp [Expr.every, isPlainPart, Expr.isSpelledPart, Expr.isFinitePart,
        Binary64.isNegative_abs, sameSize]
  | .atom name, spelled => by
      have word : isAtomName name = true := spelled
      simp only [expr, Expr.every, isPlainPart, Expr.isSpelledPart, word]
      rfl
  | .recordType name, spelled => by
      have tag : isTag name = true := spelled
      simp only [expr, Expr.every, isPlainPart, Expr.isSpelledPart, tag]
      rfl
  | .result tag inner, spelled => by
      simp only [expr, Expr.every, every_expr (show inner.isSpelled = true from spelled)]
      rfl
  | .tuple elements, spelled | .list elements, spelled => by
      simp only [expr, Expr.every, everyOfAll_exprs (show allSpelled elements = true from spelled)]
      rfl
  | .map entries, spelled => by
      simp only [isSpelled, Bool.and_eq_true] at spelled
      simp only [expr, Expr.every, isPlainPart, Expr.isSpelledPart, Expr.isFinitePart,
        keys_exprEntries, spelled.1, Bool.and_self, Bool.true_and]
      exact everyOfEntries_exprEntries spelled.2
  | .record tag entries, spelled => by
      simp only [isSpelled, Bool.and_eq_true] at spelled
      simp only [expr, Expr.every, isPlainPart, Expr.isSpelledPart, Expr.isFinitePart,
        keys_exprEntries, spelled.1.1, spelled.1.2, Bool.and_self, Bool.true_and]
      exact everyOfEntries_exprEntries spelled.2

theorem everyOfAll_exprs : ∀ {values : List Value}, allSpelled values = true →
    Expr.everyOfAll isPlainPart (exprs values) = true
  | [], _ => rfl
  | value :: rest, spelled => by
      simp only [allSpelled, Bool.and_eq_true] at spelled
      simp only [exprs, Expr.everyOfAll, every_expr spelled.1, everyOfAll_exprs spelled.2,
        Bool.and_self]

theorem everyOfEntries_exprEntries : ∀ {entries : List (Value × Value)},
    entriesSpelled entries = true →
      Expr.everyOfEntries isPlainPart (exprEntries entries) = true
  | [], _ => rfl
  | (key, value) :: rest, spelled => by
      simp only [entriesSpelled, Bool.and_eq_true] at spelled
      simp only [exprEntries, Expr.everyOfEntries, every_expr spelled.1.2,
        everyOfEntries_exprEntries spelled.2, Bool.and_self]

end

theorem isSpelled_expr {value : Value} (spelled : value.isSpelled = true) :
    value.expr.isSpelled = true ∧ value.expr.isFinite = true := by
  have both := every_expr spelled
  rw [show isPlainPart = fun part => part.isSpelledPart && part.isFinitePart from rfl,
    Expr.every_and, Bool.and_eq_true] at both
  exact both

theorem hasNumeral_natAbs (value : Int) :
    Numeral.hasNumeral (value.natAbs : Int) = Numeral.hasNumeral value := by
  simp only [Numeral.hasNumeral, Int.natAbs_natCast]

mutual

theorem hasNotation_expr : ∀ {value : Value}, value.hasNotation = true →
    value.expr.hasNotation = true
  | .nil | .boolean _ | .text _ | .atom _ | .recordType _ | .undefined _ | .closure ..
  | .function .. => fun _ => rfl
  | .integer value => by
      intro short
      rw [hasNotation, ← hasNumeral_natAbs] at short
      simp only [expr, signed]
      split
      all_goals exact short
  | .decimal value => by
      intro _
      simp only [expr, signed]
      split
      all_goals rfl
  | .result tag inner => by
      intro short
      have inside : inner.expr.hasNotation = true := hasNotation_expr short
      exact inside
  | .tuple elements | .list elements => by
      intro short
      have inside : Expr.allHaveNotation (exprs elements) = true := allHaveNotation_exprs short
      exact inside
  | .map entries | .record _ entries => by
      intro short
      have inside : Expr.entriesHaveNotation (exprEntries entries) = true :=
        entriesHaveNotation_exprEntries short
      exact inside

theorem allHaveNotation_exprs : ∀ {values : List Value}, allHaveNotation values = true →
    Expr.allHaveNotation (exprs values) = true
  | [], _ => rfl
  | value :: rest, short => by
      simp only [allHaveNotation, Bool.and_eq_true] at short
      simp only [exprs, Expr.allHaveNotation, hasNotation_expr short.1,
        allHaveNotation_exprs short.2, Bool.and_self]

theorem entriesHaveNotation_exprEntries : ∀ {entries : List (Value × Value)},
    entriesHaveNotation entries = true →
      Expr.entriesHaveNotation (exprEntries entries) = true
  | [], _ => rfl
  | (key, value) :: rest, short => by
      simp only [entriesHaveNotation, Bool.and_eq_true] at short
      simp only [exprEntries, Expr.entriesHaveNotation, hasNotation_expr short.1.2,
        entriesHaveNotation_exprEntries short.2, Bool.and_self]

end

/-! ## It has no places -/

theorem unplaced_signed (negative : Bool) {size : Expr} (bare : size.unplaced = size) :
    (signed negative size).unplaced = signed negative size := by
  cases negative with
  | false => exact bare
  | true => exact congrArg (Expr.unary .negate · .generated) bare

mutual

theorem unplaced_expr : ∀ value : Value, value.expr.rebuild Expr.ofDecimal = value.expr
  | .nil | .boolean _ | .text _ | .atom _ | .recordType _ | .undefined _ | .closure ..
  | .function .. => rfl
  | .integer _ | .decimal _ => unplaced_signed _ rfl
  | .result _ inner => by
      simp only [expr, Expr.rebuild, unplaced_expr inner]
  | .tuple elements | .list elements => by
      simp only [expr, Expr.rebuild, rebuildAll_exprs elements]
  | .map entries | .record _ entries => by
      simp only [expr, Expr.rebuild, rebuildEntries_exprEntries entries]

theorem rebuildAll_exprs : ∀ values : List Value,
    Expr.rebuildAll Expr.ofDecimal (exprs values) = exprs values
  | [] => rfl
  | value :: rest => by
      simp only [exprs, Expr.rebuildAll, unplaced_expr value, rebuildAll_exprs rest]

theorem rebuildEntries_exprEntries : ∀ entries : List (Value × Value),
    Expr.rebuildEntries Expr.ofDecimal (exprEntries entries) = exprEntries entries
  | [] => rfl
  | (key, value) :: rest => by
      simp only [exprEntries, Expr.rebuildEntries, unplaced_expr value,
        rebuildEntries_exprEntries rest]

end

end ClauseFlow.Value

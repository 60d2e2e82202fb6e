import ClauseFlow.Proofs.Number.Rounding
import ClauseFlow.Value.Equality

/-!
# Exact comparison

Integers and decimal numbers stand on one line, at a count of units or at one of its ends. Two
numbers are equal if they stand at the same place. Undefined numbers stand nowhere.
-/

namespace ClauseFlow.Value.Number

/-- A place on the line of numbers: one of its ends, or a count of units. -/
inductive Place where
  | infinite (negative : Bool)
  | units (count : Int)

/-- Where a number stands, if it is one. -/
def place? : Number → Option Place
  | .integer value => some (.units (value * Binary64.unitsPerOne))
  | .decimal .nan => none
  | .decimal (.infinite negative) => some (.infinite negative)
  | .decimal value => some (.units value.units)

theorem mul_unitsPerOne_inj {first second : Int} :
    first * Binary64.unitsPerOne = second * Binary64.unitsPerOne ↔ first = second := by
  have positive : (Binary64.unitsPerOne : Int) ≠ 0 := by
    exact_mod_cast Binary64.unitsPerOne_pos.ne'
  exact mul_left_inj' positive

/-- Comparison is that of the places. -/
theorem compare?_eq_iff : ∀ first second : Number, compare? first second = some .eq ↔
    ∃ place, first.place? = some place ∧ second.place? = some place
  | .integer value, .integer value' => by
      simp only [compare?, place?, Option.some.injEq, compare_eq_iff_eq, exists_eq_left',
        Place.units.injEq, mul_unitsPerOne_inj]
      exact eq_comm
  | .integer value, .decimal (.finite ..) => by
      simp only [compare?, place?, Binary64.compareInt?, Binary64.compareUnits, Option.map_some,
        Option.some.injEq, Ordering.swap_eq_eq, compare_eq_iff_eq, exists_eq_left',
        Place.units.injEq]
  | .decimal (.finite ..), .integer value' => by
      simp only [compare?, place?, Binary64.compareInt?, Binary64.compareUnits, Option.some.injEq,
        compare_eq_iff_eq, exists_eq_left', Place.units.injEq]
      exact eq_comm
  | .decimal (.finite ..), .decimal (.finite ..) => by
      simp only [compare?, place?, Binary64.compare?, Binary64.compareUnits, Option.some.injEq,
        compare_eq_iff_eq, exists_eq_left', Place.units.injEq]
      exact eq_comm
  | .decimal (.infinite negative), .decimal (.infinite negative') => by
      cases negative <;> cases negative' <;>
        simp only [compare?, place?, Binary64.compare?, if_true, if_false, Bool.false_eq_true,
          Bool.true_eq_false, Option.some.injEq, reduceCtorEq, exists_eq_left',
          Place.infinite.injEq]
  | .integer value, .decimal (.infinite negative)
  | .decimal (.infinite negative), .integer value => by
      cases negative <;>
        simp only [compare?, place?, Binary64.compareInt?, Binary64.compareUnits, Option.map_some,
          Ordering.swap_gt, Ordering.swap_lt, Option.some.injEq, reduceCtorEq, exists_eq_left']
  | .decimal (.infinite negative), .decimal (.finite ..)
  | .decimal (.finite ..), .decimal (.infinite negative) => by
      cases negative <;>
        simp only [compare?, place?, Binary64.compare?, Binary64.compareUnits, if_true, if_false,
          Bool.false_eq_true, Option.some.injEq, reduceCtorEq, exists_eq_left']
  | .decimal .nan, .integer _ | .integer _, .decimal .nan => by
      simp only [compare?, place?, Binary64.compareInt?, Binary64.compareUnits, Option.map_none,
        reduceCtorEq, false_and, and_false, exists_false]
  | .decimal .nan, .decimal _ | .decimal (.infinite _), .decimal .nan
  | .decimal (.finite ..), .decimal .nan => by
      simp only [compare?, place?, Binary64.compare?, reduceCtorEq, false_and, and_false,
        exists_false]

/-- Numbers are equal if and only if they stand at the same place. -/
theorem equal_iff {first second : Number} : first.equal second = true ↔
    ∃ place, first.place? = some place ∧ second.place? = some place :=
  decide_eq_true_iff.trans (compare?_eq_iff first second)

theorem equal_symm {first second : Number} (same : first.equal second = true) :
    second.equal first = true := by
  obtain ⟨place, here, there⟩ := equal_iff.mp same
  exact equal_iff.mpr ⟨place, there, here⟩

theorem equal_trans {first second third : Number} (same : first.equal second = true)
    (same' : second.equal third = true) : first.equal third = true := by
  obtain ⟨place, here, there⟩ := equal_iff.mp same
  obtain ⟨place', here', there'⟩ := equal_iff.mp same'
  obtain rfl : place = place' := Option.some.inj (there.symm.trans here')
  exact equal_iff.mpr ⟨place, here, there'⟩

@[simp] theorem equal_integers {value value' : Int} :
    equal (.integer value) (.integer value') = true ↔ value = value' := by
  rw [equal, decide_eq_true_eq, compare?, Option.some.injEq, compare_eq_iff_eq]

theorem equal_decimal_self {value : Binary64} (defined : value.isNaN = false) :
    equal (.decimal value) (.decimal value) = true := by
  cases value with
  | nan => cases defined
  | infinite | finite => exact equal_iff.mpr ⟨_, rfl, rfl⟩

/-- An undefined number equals nothing. -/
@[simp] theorem nan_equal (other : Number) : equal (.decimal .nan) other = false := by
  apply Bool.eq_false_iff.mpr
  intro same
  obtain ⟨_, nowhere, _⟩ := equal_iff.mp same
  cases nowhere

/-- Nothing equals an undefined number. -/
@[simp] theorem equal_nan (other : Number) : equal other (.decimal .nan) = false := by
  apply Bool.eq_false_iff.mpr
  intro same
  have nowhere := equal_symm same
  rw [nan_equal] at nowhere
  cases nowhere

end ClauseFlow.Value.Number

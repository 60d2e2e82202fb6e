import ClauseFlow.Number.Binary64

/-!
# Zeros of either sign

The two zeros compare alike. A number whose sign is not set is told by its value alone.
-/

namespace ClauseFlow.Binary64

theorem units_of_isZero {x : Binary64} (zero : x.isZero = true) : x.units = 0 := by
  cases x with
  | nan | infinite => rfl
  | finite negative mantissa exponent canonical =>
      obtain rfl : mantissa = 0 := of_decide_eq_true zero
      simp [units]

/-- A zero compares like any other zero. -/
theorem compare?_unsignZero (x y : Binary64) : x.unsignZero.compare? y = x.compare? y := by
  rw [unsignZero]
  split
  · rename_i zero
    have noUnits := units_of_isZero zero
    cases x with
    | nan | infinite => cases zero
    | finite negative mantissa exponent canonical =>
        cases y with
        | nan | infinite => rfl
        | finite negative' mantissa' exponent' canonical' =>
            change some (compare (signedZero false).units _) = some (compare _ _)
            rw [noUnits]
            rfl
  · rfl

/-- A number without a sign keeps its form when the sign of a zero is forgotten. -/
theorem unsignZero_of_not_negative {x : Binary64} (positive : x.isNegative = false) :
    x.unsignZero = x := by
  rw [unsignZero]
  split
  · rename_i zero
    cases x with
    | nan | infinite => cases zero
    | finite negative mantissa exponent canonical =>
        obtain rfl : mantissa = 0 := of_decide_eq_true zero
        obtain rfl : negative = false := positive
        obtain rfl : exponent = -1074 := by
          rcases canonical.2.2.2 with large | least
          · exact absurd large (by decide)
          · exact least
        rfl
  · rfl

theorem unsignZero_unsignZero (x : Binary64) : x.unsignZero.unsignZero = x.unsignZero := by
  cases zero : x.isZero with
  | true =>
      rw [unsignZero, unsignZero, zero]
      rfl
  | false =>
      have same : x.unsignZero = x := if_neg (by simp [zero])
      rw [same, same]

theorem isNegative_ofParts (mantissa : Nat) (exponent : Int) :
    (ofParts false mantissa exponent).isNegative = false := by
  rw [ofParts]
  split <;> rfl

theorem isNegative_ofQuotient (numerator denominator : Nat) :
    (ofQuotient false numerator denominator).isNegative = false := by
  rw [ofQuotient]
  split
  · rfl
  · simp only
    split <;> exact isNegative_ofParts _ _

end ClauseFlow.Binary64

import ClauseFlow.Eval.Dispatch
import ClauseFlow.Proofs.Number.Integers

/-!
# Rounding of integers

An integer is rounded by adding one half to it as a floating point number. This gives back the
integers below `2 ^ 52` in size and the larger ones that are a whole multiple of a power of two
which leaves 53 bits at most. Any other integer is rounded to a neighbour, or is too large for a
floating point number.
-/

namespace ClauseFlow

namespace Value.Number

/-- The integer part of the sum when one half is added to an integer as a floating point number. -/
theorem truncateHalfUp_of_truncate? {n whole : Int} (isFinite : (Binary64.ofInt n).isFinite = true)
    (truncated : ((Binary64.ofInt n).add .half).truncate? = some whole) :
    truncateHalfUp (.integer n) = .ok whole := by
  have finite : truncate ((Binary64.ofInt n).add .half) = .ok whole := by
    cases sum : (Binary64.ofInt n).add .half with
    | nan | infinite =>
        rw [sum] at truncated
        cases truncated
    | finite =>
        rw [sum] at truncated
        simp only [truncate, truncated]
  rw [← finite]
  simp only [truncateHalfUp, toBinary, convert, isFinite, if_true]
  rfl

variable {n : Nat}

theorem truncateHalfUp_of_small (small : n < 2 ^ 52) : truncateHalfUp (.integer n) = .ok n := by
  obtain ⟨isFinite, added⟩ := Binary64.ofInt_add_half (n := n) (by omega)
  have fits : ((2 * n + 1 : Nat) : ℚ) / (2 : Nat) = (2 * n + 1 : Nat) * 2 ^ (-1 : Int) := by
    rw [zpow_neg_one]
    rfl
  obtain ⟨mantissa, exponent, canonical, isSum, value⟩ :=
    Binary64.exists_finite_of_fits Nat.two_pos (by omega) (by omega) (by decide) (by decide) fits
  apply truncateHalfUp_of_truncate? isFinite
  rw [added, isSum]
  push_cast at value
  apply Binary64.truncate?_of_between canonical
  · linarith
  · linarith

/-- An integer of 53 bits is rounded to the even integer when one half is added. -/
theorem truncateHalfUp_of_tie (low : 2 ^ 52 ≤ n) (high : n < 2 ^ 53) :
    truncateHalfUp (.integer n) = .ok (n + n % 2 : Nat) := by
  obtain ⟨isFinite, added⟩ := Binary64.ofInt_add_half high
  obtain ⟨mantissa, exponent, canonical, isSum, value⟩ := Binary64.ofQuotient_tie low high
  apply truncateHalfUp_of_truncate? isFinite
  rw [added, isSum]
  apply Binary64.truncate?_of_between canonical
  · linarith
  · linarith

/-- A larger integer is rounded to the floating point number nearest to it. -/
theorem truncateHalfUp_of_large (large : 2 ^ 53 ≤ n) :
    Binary64.ofInt n = .infinite false ∧ truncateHalfUp (.integer n) = .error .tooLarge ∨
      ∃ mantissa power canonical, 1 ≤ power ∧
        Binary64.ofInt n = .finite false mantissa (power : Nat) canonical ∧
        truncateHalfUp (.integer n) = .ok (mantissa * 2 ^ power : Nat) := by
  cases Binary64.ofInt_of_large large with
  | inl infinite =>
      refine .inl ⟨infinite, ?_⟩
      simp only [truncateHalfUp, toBinary, convert, infinite]
      rfl
  | inr finite =>
      obtain ⟨mantissa, exponent, canonical, whole, isValue⟩ := finite
      obtain ⟨power, rfl⟩ := Int.eq_ofNat_of_zero_le (by omega : 0 ≤ exponent)
      refine .inr ⟨mantissa, power, canonical, by omega, isValue, ?_⟩
      apply truncateHalfUp_of_truncate?
      · rw [isValue]
        rfl
      · rw [isValue, Binary64.add_half_of_whole canonical whole]
        apply Binary64.truncate?_of_between canonical
        · simp
        · simp

/-- The integers that are found again after one half is added. -/
theorem truncateHalfUp_eq_self_iff (n : Nat) :
    truncateHalfUp (.integer n) = .ok n ↔
      n < 2 ^ 52 ∨ ∃ mantissa power, mantissa < 2 ^ 53 ∧ 1 ≤ power ∧ power ≤ 971 ∧
        n = mantissa * 2 ^ power := by
  by_cases small : n < 2 ^ 52
  · simp only [truncateHalfUp_of_small small, small, true_or]
  rw [or_iff_right small]
  by_cases tie : n < 2 ^ 53
  · rw [truncateHalfUp_of_tie (by omega) tie]
    constructor
    · intro same
      have even : n = n / 2 * 2 ^ 1 := by
        have := Int.ofNat.inj (Except.ok.inj same)
        omega
      exact ⟨n / 2, 1, by omega, by decide, by decide, even⟩
    · intro scaled
      obtain ⟨mantissa, power, _, some, _, value⟩ := scaled
      have even : 2 ∣ n := by
        rw [value]
        exact (dvd_pow_self 2 (by omega)).mul_left mantissa
      rw [Nat.mod_eq_zero_of_dvd even, Nat.add_zero]
  · have nearest := truncateHalfUp_of_large (by omega : 2 ^ 53 ≤ n)
    constructor
    · intro same
      rw [same] at nearest
      cases nearest with
      | inl tooLarge => cases tooLarge.2
      | inr finite =>
          obtain ⟨mantissa, power, canonical, whole, _, isValue⟩ := finite
          have high := canonical.2.2.1
          exact ⟨mantissa, power, canonical.1, whole, by omega,
            Int.ofNat.inj (Except.ok.inj isValue)⟩
    · intro scaled
      obtain ⟨mantissa, power, small, _, high, value⟩ := scaled
      obtain ⟨mantissa', exponent', _, isValue, value'⟩ :=
        Binary64.exists_finite_ofInt small high value
      rw [isValue] at nearest
      cases nearest with
      | inl tooLarge => cases tooLarge.1
      | inr finite =>
          obtain ⟨mantissa'', power', canonical, _, isValue', rounded⟩ := finite
          cases isValue'
          have same : mantissa' * 2 ^ power' = n := by exact_mod_cast value'
          rw [rounded, same]

theorem holds_isGE_zero (n : Int) :
    holds Ordering.isGE (.integer n) (.integer 0) = decide (0 ≤ n) := by
  simp only [holds, compare?]
  rw [Bool.eq_iff_iff, decide_eq_true_iff]
  exact Int.isGE_compare

/-- An integer is rounded by its size; the sign is put back. -/
theorem round_eq_self_iff (n : Int) :
    round (.integer n) = .ok n ↔ truncateHalfUp (.integer n.natAbs) = .ok n.natAbs := by
  simp only [round, holds_isGE_zero]
  by_cases nonnegative : 0 ≤ n
  · simp only [nonnegative, decide_true, if_true, Int.natAbs_of_nonneg]
  · have size : (n.natAbs : Int) = -n := by omega
    simp only [nonnegative, decide_false, Bool.false_eq_true, if_false, neg, ← size]
    cases truncateHalfUp (.integer n.natAbs) with
    | error => exact ⟨nofun, nofun⟩
    | ok rounded =>
        constructor
        · intro same
          have : -rounded = n := Except.ok.inj same
          rw [size]
          exact congrArg Except.ok (by omega)
        · intro same
          have : rounded = n.natAbs := Except.ok.inj same
          exact congrArg Except.ok (by omega : -rounded = n)

end Value.Number

namespace Builtin

theorem call_round_integer (home : Nat) (invoke : Invoke) (n : Int) :
    call home invoke .round [.integer n] = do
      return .integer (← Run.ofExcept (Value.Number.round (.integer n))) :=
  rfl

/-- Integers are rounded to themselves if they are below `2 ^ 52` in size or a mantissa of at most
53 bits times a power of two that is not too large, and only then. -/
theorem round_integer_eq_self_iff (home : Nat) (invoke : Invoke) (n : Int) :
    call home invoke .round [.integer n] = pure (.integer n) ↔
      n.natAbs < 2 ^ 52 ∨ ∃ mantissa power, mantissa < 2 ^ 53 ∧ 1 ≤ power ∧ power ≤ 971 ∧
        n.natAbs = mantissa * 2 ^ power := by
  rw [← Value.Number.truncateHalfUp_eq_self_iff, ← Value.Number.round_eq_self_iff,
    call_round_integer]
  cases Value.Number.round (.integer n) with
  | error =>
      constructor
      · intro same
        cases congrFun same 0
      · nofun
  | ok rounded =>
      constructor
      · intro same
        cases congrFun same 0
        rfl
      · intro same
        cases same
        rfl

/-- The least positive integer that is lost: with one half it is a tie, which goes to the even
integer above. -/
theorem round_integer_lost :
    call 0 (Eval.callsWithin ⟨⟨[]⟩, [], 0⟩ 0).invoke .round [.integer (2 ^ 52 + 1)] =
        pure (.integer (2 ^ 52 + 2)) ∧
      (2 ^ 52 + 1 : Int) ≠ 2 ^ 52 + 2 := by
  have rounded : Value.Number.round (.integer (2 ^ 52 + 1)) = .ok (2 ^ 52 + 2) :=
    Value.Number.truncateHalfUp_of_tie (n := 2 ^ 52 + 1) (by decide) (by decide)
  constructor
  · rw [call_round_integer, rounded]
    rfl
  · decide

end Builtin
end ClauseFlow

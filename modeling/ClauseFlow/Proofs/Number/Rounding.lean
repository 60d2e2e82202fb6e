import ClauseFlow.Number.Binary64
import Mathlib.Algebra.Order.Field.Power
import Mathlib.Data.Int.Log
import Mathlib.Data.Rat.Floor
import Mathlib.Tactic.FieldSimp
import Mathlib.Tactic.GCongr
import Mathlib.Tactic.Linarith
import Mathlib.Tactic.Positivity
import Mathlib.Tactic.Ring

/-!
# Rounding

Rounding depends on the quotient alone, not on how it is written as a fraction, and it gives back a
number that is a count of units. The places of the bits are told by powers of two of the rational
numbers.
-/

namespace ClauseFlow.Binary64

/-- A power of two as a quotient of natural powers. -/
theorem mul_pow_toNat_le_iff {n d : Nat} (positive : 0 < d) (power : Int) :
    d * Nat.pow 2 power.toNat ≤ n * Nat.pow 2 (-power).toNat ↔ (2 : ℚ) ^ power ≤ n / d := by
  have positive' : (0 : ℚ) < d := by exact_mod_cast positive
  rw [le_div_iff₀ positive']
  cases power with
  | ofNat power =>
      have none : (-Int.ofNat power).toNat = 0 := by simp
      rw [none]
      simp only [Int.ofNat_eq_natCast, Int.toNat_natCast, Nat.pow_eq, pow_zero, mul_one, zpow_natCast]
      rw [mul_comm]
      exact_mod_cast Iff.rfl
  | negSucc power =>
      have some : (-Int.negSucc power).toNat = power + 1 := by simp
      rw [some]
      simp only [Int.toNat_negSucc, Nat.pow_eq, pow_zero, mul_one, zpow_negSucc]
      rw [inv_mul_le_iff₀ (by positivity), mul_comm ((2 : ℚ) ^ _)]
      exact_mod_cast Iff.rfl

theorem two_zpow_le_iff {q : ℚ} (positive : 0 < q) (power : Int) :
    (2 : ℚ) ^ power ≤ q ↔ power ≤ Int.log 2 q := by
  have general : ((2 : ℕ) : ℚ) ^ power ≤ q ↔ power ≤ Int.log 2 q :=
    Int.zpow_le_iff_le_log (by decide) positive
  simpa using general

/-- The place of the last bit is 52 places below the power of two just below the quotient, unless
that is below the least place. -/
theorem lastPlace_eq {n d : Nat} (positive : 0 < n) (positive' : 0 < d) :
    lastPlace n d = max (Int.log 2 ((n : ℚ) / d) - 52) (-1074) := by
  have above : (0 : ℚ) < d := by exact_mod_cast positive'
  have quotient : (0 : ℚ) < (n : ℚ) / d := by positivity
  have low : (2 : ℚ) ^ ((n.log2 : Int) - d.log2 - 1) ≤ n / d := by
    have lowN : (2 : ℚ) ^ n.log2 ≤ n := by exact_mod_cast Nat.log2_self_le positive.ne'
    have highD : (d : ℚ) < 2 ^ (d.log2 + 1) := by exact_mod_cast Nat.lt_log2_self
    rw [le_div_iff₀ above, sub_sub, zpow_sub₀ two_ne_zero]
    calc (2 : ℚ) ^ (n.log2 : Int) / 2 ^ ((d.log2 : Int) + 1) * d
        ≤ 2 ^ (n.log2 : Int) / 2 ^ ((d.log2 : Int) + 1) * 2 ^ ((d.log2 : Int) + 1) := by
          gcongr
          exact_mod_cast highD.le
      _ = 2 ^ (n.log2 : Int) := div_mul_cancel₀ _ (by positivity)
      _ ≤ n := by exact_mod_cast lowN
  have high : (n : ℚ) / d < (2 : ℚ) ^ ((n.log2 : Int) - d.log2 + 1) := by
    have highN : (n : ℚ) < 2 ^ (n.log2 + 1) := by exact_mod_cast Nat.lt_log2_self
    have lowD : (2 : ℚ) ^ d.log2 ≤ d := by exact_mod_cast Nat.log2_self_le positive'.ne'
    rw [div_lt_iff₀ above]
    calc (n : ℚ) < 2 ^ ((n.log2 : Int) + 1) := by exact_mod_cast highN
      _ = 2 ^ ((n.log2 : Int) - d.log2 + 1) * 2 ^ (d.log2 : Int) := by
          rw [← zpow_add₀ two_ne_zero]
          congr 1
          ring
      _ ≤ 2 ^ ((n.log2 : Int) - d.log2 + 1) * d := by
          gcongr
          exact_mod_cast lowD
  have enough := mul_pow_toNat_le_iff (n := n) positive' ((n.log2 : Int) - d.log2 - 52 + 52)
  rw [two_zpow_le_iff quotient] at low enough
  rw [← not_le, two_zpow_le_iff quotient] at high
  simp only [lastPlace]
  congr 1
  split
  · rename_i here
    have := enough.mp here
    omega
  · rename_i here
    have : ¬ _ := fun large => here (enough.mpr large)
    omega

/-! ## Rounding depends on the quotient alone -/

theorem roundQuotient_mul_left {factor : Nat} (positive : 0 < factor) (n d : Nat) :
    roundQuotient (factor * n) (factor * d) = roundQuotient n d := by
  have twice : 2 * (factor * n % (factor * d)) = factor * (2 * (n % d)) := by
    rw [Nat.mul_mod_mul_left]
    ring
  simp only [roundQuotient, twice, Nat.mul_div_mul_left n d positive,
    Nat.mul_lt_mul_left positive]

theorem roundQuotient_eq {n d n' d' : Nat} (positive : 0 < d) (positive' : 0 < d')
    (same : n * d' = n' * d) : roundQuotient n d = roundQuotient n' d' := by
  rw [← roundQuotient_mul_left positive' n d, ← roundQuotient_mul_left positive n' d',
    Nat.mul_comm d' n, same, Nat.mul_comm d' d, Nat.mul_comm n' d]

/-- Equal quotients are rounded to the same number. -/
theorem ofQuotient_eq {n d n' d' : Nat} (negative : Bool) (positive : 0 < d) (positive' : 0 < d')
    (same : n * d' = n' * d) : ofQuotient negative n d = ofQuotient negative n' d' := by
  by_cases zero : n = 0
  · have zero' : n' = 0 := by
      rw [zero, Nat.zero_mul] at same
      exact (Nat.mul_eq_zero.mp same.symm).resolve_right positive.ne'
    rw [zero, zero']
    rfl
  · have zero' : n' ≠ 0 := by
      rintro rfl
      rw [Nat.zero_mul] at same
      exact (Nat.mul_eq_zero.mp same).elim zero positive'.ne'
    have sameQuotient : (n : ℚ) / d = n' / d' := by
      rw [div_eq_div_iff (by exact_mod_cast positive.ne') (by exact_mod_cast positive'.ne')]
      exact_mod_cast same
    have samePlace : lastPlace n d = lastPlace n' d' := by
      rw [lastPlace_eq (by omega) positive, lastPlace_eq (by omega) positive', sameQuotient]
    have sameMantissa : ∀ up down : Nat,
        roundQuotient (n * Nat.pow 2 up) (d * Nat.pow 2 down) =
          roundQuotient (n' * Nat.pow 2 up) (d' * Nat.pow 2 down) := by
      intro up down
      apply roundQuotient_eq (Nat.mul_pos positive (Nat.pow_pos (by decide)))
        (Nat.mul_pos positive' (Nat.pow_pos (by decide)))
      calc n * Nat.pow 2 up * (d' * Nat.pow 2 down)
          = n * d' * (Nat.pow 2 up * Nat.pow 2 down) := by ring
        _ = n' * Nat.pow 2 up * (d * Nat.pow 2 down) := by rw [same]; ring
    simp only [ofQuotient, zero, zero', if_false, samePlace, sameMantissa]

/-! ## Numbers are exact -/

theorem unitsPerOne_pos : 0 < unitsPerOne := by
  decide +kernel

theorem cast_pow_toNat {power : Int} (nonnegative : 0 ≤ power) :
    ((Nat.pow 2 power.toNat : Nat) : ℚ) = 2 ^ power := by
  rw [Nat.pow_eq, Nat.cast_pow, Nat.cast_ofNat, ← zpow_natCast, Int.toNat_of_nonneg nonnegative]

theorem cast_unitsPerOne : (unitsPerOne : ℚ) = 2 ^ (1074 : Int) := by
  have same : unitsPerOne = Nat.pow 2 (1074 : Int).toNat := by decide +kernel
  rw [same, cast_pow_toNat (by decide)]

/-- A power of two over another one, of which only one counts. -/
theorem cast_pow_div_pow (power : Int) :
    ((Nat.pow 2 power.toNat : Nat) : ℚ) / (Nat.pow 2 (-power).toNat : Nat) = 2 ^ power := by
  rcases le_total 0 power with up | down
  · rw [cast_pow_toNat up, Int.toNat_eq_zero.mpr (by omega)]
    simp
  · rw [cast_pow_toNat (by omega : 0 ≤ -power), Int.toNat_eq_zero.mpr down, zpow_neg]
    simp

section

variable {mantissa : Nat} {exponent : Int}

/-- The units of a number over those of one are its mantissa times its power of two. -/
theorem units_div_unitsPerOne (canonical : Canonical mantissa exponent) :
    ((mantissa * Nat.pow 2 (exponent + 1074).toNat : Nat) : ℚ) / unitsPerOne =
      mantissa * (2 : ℚ) ^ exponent := by
  rw [Nat.cast_mul, cast_unitsPerOne, cast_pow_toNat (by have := canonical.2.1; omega),
    zpow_add₀ two_ne_zero]
  field_simp

theorem lastPlace_units (positive : 0 < mantissa) (canonical : Canonical mantissa exponent) :
    lastPlace (mantissa * Nat.pow 2 (exponent + 1074).toNat) unitsPerOne = exponent := by
  have some : (0 : ℚ) < mantissa := by exact_mod_cast positive
  have quotient : (0 : ℚ) < mantissa * (2 : ℚ) ^ exponent := by positivity
  have units : 0 < mantissa * Nat.pow 2 (exponent + 1074).toNat :=
    Nat.mul_pos positive (Nat.pow_pos (by decide))
  rw [lastPlace_eq units unitsPerOne_pos, units_div_unitsPerOne canonical]
  have least := canonical.2.1
  have high : Int.log 2 ((mantissa : ℚ) * 2 ^ exponent) < exponent + 53 := by
    have below : (mantissa : ℚ) < 2 ^ (53 : Int) := by exact_mod_cast canonical.1
    rw [← not_le, ← two_zpow_le_iff quotient, not_le, add_comm, zpow_add₀ two_ne_zero]
    gcongr
  rcases canonical.2.2.2 with normal | subnormal
  · have low : exponent + 52 ≤ Int.log 2 ((mantissa : ℚ) * 2 ^ exponent) := by
      have above : (2 : ℚ) ^ (52 : Int) ≤ mantissa := by exact_mod_cast normal
      rw [← two_zpow_le_iff quotient, add_comm, zpow_add₀ two_ne_zero]
      gcongr
    omega
  · omega

/-- A number is found again from its units. -/
theorem ofQuotient_units (positive : 0 < mantissa) (canonical : Canonical mantissa exponent) :
    ofQuotient false (mantissa * Nat.pow 2 (exponent + 1074).toNat) unitsPerOne =
      .finite false mantissa exponent canonical := by
  have exact : roundQuotient
      (mantissa * Nat.pow 2 (exponent + 1074).toNat * Nat.pow 2 (-exponent).toNat)
      (unitsPerOne * Nat.pow 2 exponent.toNat) = mantissa := by
    have whole : roundQuotient mantissa 1 = mantissa := by simp [roundQuotient, Nat.mod_one]
    rw [← whole]
    apply roundQuotient_eq (Nat.mul_pos unitsPerOne_pos (Nat.pow_pos (by decide))) Nat.one_pos
    have here := units_div_unitsPerOne canonical
    have unit : (unitsPerOne : ℚ) ≠ 0 := by exact_mod_cast unitsPerOne_pos.ne'
    have some : ((Nat.pow 2 (-exponent).toNat : Nat) : ℚ) ≠ 0 := by
      exact_mod_cast (Nat.pow_pos (by decide)).ne'
    rw [← cast_pow_div_pow, div_eq_iff unit, mul_div_assoc', div_mul_eq_mul_div,
      eq_div_iff some] at here
    rw [whole, Nat.mul_one, Nat.mul_comm unitsPerOne, ← Nat.mul_assoc]
    exact_mod_cast here
  have nonzero : mantissa * Nat.pow 2 (exponent + 1074).toNat ≠ 0 :=
    Nat.mul_ne_zero positive.ne' (Nat.pow_pos (by decide)).ne'
  have small : mantissa ≠ Nat.pow 2 53 := canonical.1.ne
  simp only [ofQuotient, nonzero, lastPlace_units positive canonical, exact, small, if_false,
    ofParts, dif_pos canonical]

end

end ClauseFlow.Binary64

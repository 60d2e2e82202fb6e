import ClauseFlow.Proofs.Number.Rounding

/-!
# Integers among the floating point numbers

A quotient that fits into 53 bits is exact. An integer of at most 53 bits is therefore exact, a
larger one is rounded to a whole multiple of a power of two. One half is added exactly below
`2 ^ 52`; from there to `2 ^ 53` the sum is a tie, which goes to the even neighbour, and above one
half is lost.
-/

namespace ClauseFlow.Binary64

variable {n d mantissa : Nat} {exponent : Int}

/-! ## Exact quotients -/

/-- The quotient that a number stands for is rounded to this number. -/
theorem ofQuotient_eq_finite (positive : 0 < d) (some : 0 < mantissa)
    (canonical : Canonical mantissa exponent)
    (value : (n : ℚ) / d = mantissa * (2 : ℚ) ^ exponent) :
    ofQuotient false n d = .finite false mantissa exponent canonical := by
  rw [← ofQuotient_units some canonical]
  apply ofQuotient_eq false positive unitsPerOne_pos
  rw [← units_div_unitsPerOne canonical,
    div_eq_div_iff (by exact_mod_cast positive.ne') (by exact_mod_cast unitsPerOne_pos.ne')] at value
  exact_mod_cast value

/-- A positive mantissa is shifted until its leading bit is set. -/
theorem exists_canonical (some : 0 < mantissa) (small : mantissa < 2 ^ 53)
    (low : -1022 ≤ exponent) (high : exponent ≤ 971) :
    ∃ mantissa' exponent', Canonical mantissa' exponent' ∧ 0 < mantissa' ∧
      (mantissa' : ℚ) * 2 ^ exponent' = mantissa * 2 ^ exponent := by
  have leading : mantissa.log2 < 53 := (Nat.log2_lt some.ne').mpr small
  have above : 2 ^ 52 ≤ mantissa * 2 ^ (52 - mantissa.log2) := by
    calc 2 ^ 52 = 2 ^ mantissa.log2 * 2 ^ (52 - mantissa.log2) := by
          rw [← Nat.pow_add]
          congr 1
          omega
      _ ≤ mantissa * 2 ^ (52 - mantissa.log2) :=
          Nat.mul_le_mul_right _ (Nat.log2_self_le some.ne')
  have below : mantissa * 2 ^ (52 - mantissa.log2) < 2 ^ 53 := by
    calc mantissa * 2 ^ (52 - mantissa.log2)
        < 2 ^ (mantissa.log2 + 1) * 2 ^ (52 - mantissa.log2) :=
          Nat.mul_lt_mul_of_pos_right Nat.lt_log2_self (Nat.two_pow_pos _)
      _ = 2 ^ 53 := by
          rw [← Nat.pow_add]
          congr 1
          omega
  refine ⟨mantissa * 2 ^ (52 - mantissa.log2), exponent - (52 - mantissa.log2 : Nat),
    ⟨below, by omega, by omega, .inl above⟩, by omega, ?_⟩
  rw [zpow_sub₀ two_ne_zero, zpow_natCast, Nat.cast_mul, Nat.cast_pow, Nat.cast_ofNat]
  field_simp

/-- A quotient of at most 53 bits is exact. -/
theorem exists_finite_of_fits (positive : 0 < d) (some : 0 < mantissa) (small : mantissa < 2 ^ 53)
    (low : -1022 ≤ exponent) (high : exponent ≤ 971)
    (value : (n : ℚ) / d = mantissa * (2 : ℚ) ^ exponent) :
    ∃ mantissa' exponent' canonical,
      ofQuotient false n d = .finite false mantissa' exponent' canonical ∧
        (mantissa' : ℚ) * 2 ^ exponent' = n / d := by
  obtain ⟨mantissa', exponent', canonical, some', same⟩ := exists_canonical some small low high
  exact ⟨mantissa', exponent', canonical,
    ofQuotient_eq_finite positive some' canonical (value.trans same.symm), same.trans value.symm⟩

/-! ## Integer parts -/

/-- The integer part of a number without a sign is the integer just below. -/
theorem truncate?_of_between (canonical : Canonical mantissa exponent) {whole : Nat}
    (low : (whole : ℚ) ≤ mantissa * 2 ^ exponent)
    (high : (mantissa : ℚ) * 2 ^ exponent < whole + 1) :
    (Binary64.finite false mantissa exponent canonical).truncate? = some (whole : Int) := by
  have unit : (0 : ℚ) < unitsPerOne := by exact_mod_cast unitsPerOne_pos
  rw [← units_div_unitsPerOne canonical] at low high
  rw [le_div_iff₀ unit] at low
  rw [div_lt_iff₀ unit] at high
  have quotient : mantissa * Nat.pow 2 (exponent + 1074).toNat / unitsPerOne = whole :=
    Nat.div_eq_of_lt_le (by exact_mod_cast low) (by exact_mod_cast high)
  simp only [truncate?, units, Bool.false_eq_true, if_false]
  rw [← quotient]
  rfl

/-! ## Adding one half -/

section

variable {mantissa' : Nat} {exponent' : Int}

/-- A sum of numbers without a sign is exact, then it is rounded. -/
theorem add_eq_ofQuotient (canonical : Canonical mantissa exponent)
    (canonical' : Canonical mantissa' exponent') (some : 0 < mantissa') (positive : 0 < d)
    (value : (mantissa : ℚ) * 2 ^ exponent + mantissa' * 2 ^ exponent' = n / d) :
    (Binary64.finite false mantissa exponent canonical).add
        (.finite false mantissa' exponent' canonical') = ofQuotient false n d := by
  have whole := units_div_unitsPerOne canonical
  have whole' := units_div_unitsPerOne canonical'
  have some' : 0 < mantissa' * Nat.pow 2 (exponent' + 1074).toNat :=
    Nat.mul_pos some (Nat.pow_pos (by decide))
  simp only [add, isNegative, units, ofUnits, Bool.false_eq_true, if_false, Bool.and_self]
  generalize mantissa * Nat.pow 2 (exponent + 1074).toNat = count at whole
  generalize mantissa' * Nat.pow 2 (exponent' + 1074).toNat = count' at whole' some'
  have nonzero : ¬ (count : Int) + count' = 0 := by omega
  have unsigned : ¬ (count : Int) + count' < 0 := by omega
  have sum : ((count : Int) + count').natAbs = count + count' := by omega
  simp only [nonzero, unsigned, if_false, decide_false, sum]
  apply ofQuotient_eq false unitsPerOne_pos positive
  rw [← whole, ← whole', ← add_div, div_eq_div_iff (by exact_mod_cast unitsPerOne_pos.ne')
    (by exact_mod_cast positive.ne')] at value
  exact_mod_cast value

end

theorem half_eq : half = .finite false (2 ^ 52) (-53) (by decide) := by
  apply ofQuotient_eq_finite Nat.two_pos (by decide)
  norm_num

/-- One half is added exactly, then the sum is rounded. -/
theorem add_half (canonical : Canonical mantissa exponent) (positive : 0 < d)
    (value : (mantissa : ℚ) * 2 ^ exponent + 1 / 2 = n / d) :
    (Binary64.finite false mantissa exponent canonical).add half = ofQuotient false n d := by
  rw [half_eq]
  apply add_eq_ofQuotient canonical (by decide) (by decide) positive
  rw [← value]
  norm_num

/-! ## The last place of an integer and a half -/

/-- The last place of a quotient whose leading bit is 52 places above. -/
theorem lastPlace_of_between (some : 0 < n) (positive : 0 < d) (least : -1074 ≤ exponent)
    (low : (2 : ℚ) ^ (exponent + 52) ≤ n / d) (high : (n : ℚ) / d < 2 ^ (exponent + 53)) :
    lastPlace n d = exponent := by
  have quotient : (0 : ℚ) < n / d := by
    have some' : (0 : ℚ) < n := by exact_mod_cast some
    have positive' : (0 : ℚ) < d := by exact_mod_cast positive
    positivity
  rw [two_zpow_le_iff quotient] at low
  rw [← not_le, two_zpow_le_iff quotient] at high
  rw [lastPlace_eq some positive]
  omega

theorem roundQuotient_tie (n : Nat) : roundQuotient (2 * n + 1) 2 = n + n % 2 := by
  have quotient : (2 * n + 1) / 2 = n := by omega
  have rest : (2 * n + 1) % 2 = 1 := by omega
  simp only [roundQuotient, quotient, rest]
  rfl

theorem roundQuotient_mul_add_one {d : Nat} (large : 2 < d) (n : Nat) :
    roundQuotient (d * n + 1) d = n := by
  have quotient : (d * n + 1) / d = n := by
    rw [Nat.mul_add_div (by omega), Nat.div_eq_of_lt (by omega), Nat.add_zero]
  have rest : (d * n + 1) % d = 1 := by
    rw [Nat.mul_add_mod, Nat.mod_eq_of_lt (by omega)]
  simp only [roundQuotient, quotient, rest, Nat.mul_one, large, if_true]

/-- An integer of 53 bits and a half is a tie, which goes to the even integer. -/
theorem ofQuotient_tie (low : 2 ^ 52 ≤ n) (high : n < 2 ^ 53) :
    ∃ mantissa exponent canonical,
      ofQuotient false (2 * n + 1) 2 = .finite false mantissa exponent canonical ∧
        (mantissa : ℚ) * 2 ^ exponent = (n + n % 2 : Nat) := by
  have place : lastPlace (2 * n + 1) 2 = 0 := by
    have low' : (2 : ℚ) ^ 52 ≤ n := by exact_mod_cast low
    have high' : (n : ℚ) + 1 ≤ 2 ^ 53 := by exact_mod_cast high
    apply lastPlace_of_between (by omega) (by decide) (by decide)
    · rw [le_div_iff₀ (by norm_num)]
      push_cast
      norm_num
      linarith
    · rw [div_lt_iff₀ (by norm_num)]
      push_cast
      norm_num
      linarith
  have rounded : ofQuotient false (2 * n + 1) 2 =
      if n + n % 2 = Nat.pow 2 53 then ofParts false (Nat.pow 2 52) 1
      else ofParts false (n + n % 2) 0 := by
    have even : roundQuotient ((2 * n + 1) * Nat.pow 2 (-0 : Int).toNat)
        (2 * Nat.pow 2 (0 : Int).toNat) = n + n % 2 := by
      simpa using roundQuotient_tie n
    simp only [ofQuotient, place, even, Nat.add_one_ne_zero, if_false, zero_add]
  rw [rounded]
  split
  · rename_i carry
    refine ⟨Nat.pow 2 52, 1, by decide, rfl, ?_⟩
    rw [carry]
    norm_num
  · rename_i fits
    simp only [Nat.pow_eq] at fits
    have canonical : Canonical (n + n % 2) 0 :=
      ⟨by simp only [Nat.pow_eq]; omega, by decide, by decide,
        .inl (by simp only [Nat.pow_eq]; omega)⟩
    refine ⟨_, _, canonical, dif_pos canonical, ?_⟩
    simp

/-- A number without a place for halves stays as it is when one half is added. -/
theorem add_half_of_whole (canonical : Canonical mantissa exponent) (large : 1 ≤ exponent) :
    (Binary64.finite false mantissa exponent canonical).add half =
      .finite false mantissa exponent canonical := by
  obtain ⟨power, rfl⟩ := Int.eq_ofNat_of_zero_le (by omega : 0 ≤ exponent)
  have twice : 2 ≤ 2 ^ power := by
    calc 2 = 2 ^ 1 := rfl
      _ ≤ 2 ^ power := Nat.pow_le_pow_right (by decide) (by omega)
  have normal : Nat.pow 2 52 ≤ mantissa := by
    have := canonical.2.2.2
    omega
  have value : (mantissa : ℚ) * 2 ^ (power : Int) + 1 / 2 =
      (2 * 2 ^ power * mantissa + 1 : Nat) / (2 : Nat) := by
    push_cast
    rw [zpow_natCast]
    ring
  have place : lastPlace (2 * 2 ^ power * mantissa + 1) 2 = power := by
    have low : (2 : ℚ) ^ 52 ≤ mantissa := by exact_mod_cast normal
    have high : (mantissa : ℚ) + 1 ≤ 2 ^ 53 := by exact_mod_cast canonical.1
    have twice' : (2 : ℚ) ≤ 2 ^ power := by exact_mod_cast twice
    apply lastPlace_of_between (by omega) (by decide) (by omega)
    · rw [← value, zpow_add₀ two_ne_zero, zpow_natCast, mul_comm]
      calc (2 : ℚ) ^ (52 : Int) * 2 ^ power
          ≤ mantissa * 2 ^ power := by gcongr; exact_mod_cast low
        _ ≤ mantissa * 2 ^ power + 1 / 2 := by linarith
    · rw [← value, zpow_add₀ two_ne_zero, zpow_natCast, mul_comm (2 ^ power)]
      calc (mantissa : ℚ) * 2 ^ power + 1 / 2
          < mantissa * 2 ^ power + 2 ^ power := by linarith
        _ = (mantissa + 1) * 2 ^ power := by ring
        _ ≤ 2 ^ (53 : Int) * 2 ^ power := by gcongr; exact_mod_cast high
  rw [add_half canonical Nat.two_pos value]
  have rounded : roundQuotient
      ((2 * 2 ^ power * mantissa + 1) * Nat.pow 2 (-(power : Int)).toNat)
      (2 * Nat.pow 2 (power : Int).toNat) = mantissa := by
    simpa using roundQuotient_mul_add_one (by omega) mantissa
  have fits : mantissa ≠ Nat.pow 2 53 := canonical.1.ne
  simp only [ofQuotient, place, rounded, Nat.add_one_ne_zero, fits, if_false]
  exact dif_pos canonical

/-! ## Integers -/

theorem ofInt_natCast (n : Nat) : ofInt n = ofQuotient false n 1 := by
  have unsigned : decide ((n : Int) < 0) = false := decide_eq_false (by omega)
  rw [ofInt, unsigned, Int.natAbs_natCast]

/-- An integer of at most 53 bits times a power of two is exact. -/
theorem exists_finite_ofInt {power : Nat} (small : mantissa < 2 ^ 53) (high : power ≤ 971)
    (value : n = mantissa * 2 ^ power) :
    ∃ mantissa' exponent canonical,
      ofInt n = .finite false mantissa' exponent canonical ∧
        (mantissa' : ℚ) * 2 ^ exponent = n := by
  cases Nat.eq_zero_or_pos mantissa with
  | inl none =>
      rw [none, Nat.zero_mul] at value
      subst value
      exact ⟨0, -1074, by decide, rfl, by simp⟩
  | inr some =>
      have value' : (n : ℚ) / (1 : Nat) = mantissa * 2 ^ (power : Int) := by
        rw [value]
        simp
      rw [ofInt_natCast]
      simpa using exists_finite_of_fits Nat.one_pos some small (by omega) (by omega) value'

/-- An integer of 53 bits and a half is only rounded once. -/
theorem ofInt_add_half (small : n < 2 ^ 53) :
    (ofInt n).isFinite = true ∧ (ofInt n).add half = ofQuotient false (2 * n + 1) 2 := by
  have itself : n = n * 2 ^ 0 := by omega
  obtain ⟨mantissa, exponent, canonical, isValue, value⟩ :=
    exists_finite_ofInt small (Nat.zero_le _) itself
  have sum : (mantissa : ℚ) * 2 ^ exponent + 1 / 2 = (2 * n + 1 : Nat) / (2 : Nat) := by
    rw [value]
    push_cast
    ring
  rw [isValue]
  exact ⟨rfl, add_half canonical Nat.two_pos sum⟩

/-- An integer of more than 53 bits becomes a number without places for halves, if it is not too
large. -/
theorem ofInt_of_large (large : 2 ^ 53 ≤ n) :
    ofInt n = .infinite false ∨
      ∃ mantissa exponent canonical, 1 ≤ exponent ∧
        ofInt n = .finite false mantissa exponent canonical := by
  have place : 1 ≤ lastPlace n 1 := by
    have quotient : (0 : ℚ) < n := by exact_mod_cast (by omega : 0 < n)
    have leading : 53 ≤ Int.log 2 (n : ℚ) := by
      rw [← two_zpow_le_iff quotient]
      exact_mod_cast large
    rw [lastPlace_eq (by omega) Nat.one_pos, Nat.cast_one, div_one]
    omega
  have parts : ∀ mantissa exponent, 1 ≤ exponent →
      ofParts false mantissa exponent = .infinite false ∨
        ∃ mantissa' exponent' canonical, 1 ≤ exponent' ∧
          ofParts false mantissa exponent = .finite false mantissa' exponent' canonical := by
    intro mantissa exponent high
    rw [ofParts]
    split
    · rename_i canonical
      exact .inr ⟨mantissa, exponent, canonical, high, rfl⟩
    · exact .inl rfl
  have nonzero : n ≠ 0 := by omega
  simp only [ofInt_natCast, ofQuotient, nonzero, if_false]
  split
  · exact parts _ _ (by omega)
  · exact parts _ _ place

end ClauseFlow.Binary64

import ClauseFlow.Number.Shortest
import ClauseFlow.Proofs.Number.Rounding

/-!
# Numerals read back

A number is written so that reading gives the same number again: an integer by its digits, a finite
decimal number by the digits of a decimal that rounds to it, in positional notation.
-/

namespace ClauseFlow

namespace Numeral

/-! ## Digits -/

/-- Whether all characters are ASCII digits. -/
def AllDigits (text : List Char) : Prop :=
  ∀ c ∈ text, c.isDigit = true

theorem AllDigits.append {text text' : List Char} (first : AllDigits text)
    (second : AllDigits text') : AllDigits (text ++ text') :=
  List.forall_mem_append.mpr ⟨first, second⟩

theorem allDigits_toDigits (n : Nat) : AllDigits (Nat.toDigits 10 n) :=
  fun _ member => Nat.isDigit_of_mem_toDigits (by decide) (by decide) member

theorem allDigits_zeros (count : Nat) : AllDigits (List.replicate count '0') := by
  intro c member
  rw [List.eq_of_mem_replicate member]
  decide

theorem ofDigitChars_toDigits (n : Nat) : Nat.ofDigitChars 10 (Nat.toDigits 10 n) 0 = n :=
  Nat.ofDigitChars_toDigits (by decide) (by decide)

theorem ofDigitChars_zeros (count init : Nat) :
    Nat.ofDigitChars 10 (List.replicate count '0') init = 10 ^ count * init := by
  induction count generalizing init with
  | zero => simp [Nat.ofDigitChars]
  | succ count ih =>
      rw [List.replicate_succ, Nat.ofDigitChars_cons, ih, Nat.sub_self, Nat.add_zero, pow_succ,
        Nat.mul_assoc]

/-- A digit is no sign, point, underscore, mark of a base or blank. -/
theorem isDigit_ne {c other : Char} (digit : c.isDigit = true) (differs : other.isDigit = false) :
    c ≠ other := by
  rintro rfl
  rw [digit] at differs
  cases differs

theorem toNat_of_isDigit {c : Char} (digit : c.isDigit = true) :
    48 ≤ c.toNat ∧ c.toNat ≤ 57 :=
  Char.isDigit_iff_toNat.mp digit

theorem isAscii_of_isDigit {c : Char} (digit : c.isDigit = true) :
    CharClass.isAscii c = true := by
  have upper := (toNat_of_isDigit digit).2
  exact decide_eq_true (by omega)

theorem digitValue?_of_isDigit {c : Char} (digit : c.isDigit = true) :
    digitValue? 10 c = some (c.toNat - '0'.toNat) := by
  have value : CharClass.decimalValue? c = some (c.toNat - '0'.toNat) := by
    rw [CharClass.decimalValue?, if_pos (isAscii_of_isDigit digit), if_pos digit]
  have upper := (toNat_of_isDigit digit).2
  have small : c.toNat - '0'.toNat < 10 := by
    change c.toNat - 48 < 10
    omega
  simp only [digitValue?, value, Option.filter_some, decide_eq_true small, if_true]

theorem mapM_digitValue? {text : List Char} (digits : AllDigits text) :
    text.mapM (digitValue? 10) = some (text.map fun c => c.toNat - '0'.toNat) := by
  induction text with
  | nil => rfl
  | cons c rest ih =>
      rcases List.forall_mem_cons.mp digits with ⟨here, later⟩
      rw [List.mapM_cons, digitValue?_of_isDigit here, ih later]
      rfl

/-- A run of digits denotes the number with these digits. -/
theorem ofDigitChars?_eq {text : List Char} (nonempty : text ≠ []) (digits : AllDigits text) :
    ofDigitChars? 10 text = some (Nat.ofDigitChars 10 text 0) := by
  have value : ofDigits 10 (text.map fun c => c.toNat - '0'.toNat) =
      Nat.ofDigitChars 10 text 0 := by
    rw [ofDigits, List.foldl_map, Nat.ofDigitChars]
    simp only [Nat.mul_comm]
  rw [ofDigitChars?, if_neg (by simpa using nonempty), mapM_digitValue? digits, Option.map_some,
    value]

theorem filter_of_allDigits {text : List Char} (digits : AllDigits text) :
    text.filter (· ≠ '_') = text := by
  apply List.filter_eq_self.mpr
  intro c member
  exact decide_eq_true (isDigit_ne (digits c member) (by decide))

theorem isPadding_of_isDigit {c : Char} (digit : c.isDigit = true) : isPadding c = false := by
  have lower := (toNat_of_isDigit digit).1
  have notControl : (c ≤ '\r') = False := by
    rw [Char.le_def, eq_iff_iff, iff_false]
    intro small
    have : c.toNat ≤ 13 := small
    omega
  have notSpace : c ≠ ' ' := isDigit_ne digit (by decide)
  simp [isPadding, isAscii_of_isDigit digit, notControl, notSpace]

/-- Digits have no blanks around them. -/
theorem trim_of_allDigits {text : List Char} (digits : AllDigits text) :
    trimRight (text.dropWhile isPadding) = text := by
  have dropNone : ∀ {text : List Char}, AllDigits text → text.dropWhile isPadding = text := by
    intro text digits
    cases text with
    | nil => rfl
    | cons c rest =>
        rw [List.dropWhile_cons_of_neg]
        rw [isPadding_of_isDigit (digits c (.head _))]
        exact Bool.false_ne_true
  have reversed : AllDigits text.reverse := fun c member => digits c (List.mem_reverse.mp member)
  rw [dropNone digits, trimRight, dropNone reversed, List.reverse_reverse]

theorem readDecimalInteger?_eq {text : List Char} (nonempty : text ≠ [])
    (digits : AllDigits text) (short : text.length ≤ maxDigits) :
    readDecimalInteger? text = some (Nat.ofDigitChars 10 text 0 : Int) := by
  rw [readDecimalInteger?, trim_of_allDigits digits]
  split
  · exact absurd (digits _ (.head _)) (by decide)
  · exact absurd (digits _ (.head _)) (by decide)
  · rw [ofDecimalDigits?, if_pos short, ofDigitChars?_eq nonempty digits]
    rfl

/-- An integer reads back. -/
theorem readInteger?_natText {n : Nat} (short : hasNumeral n = true) :
    readInteger? (natText n) = some (n : Int) := by
  have digits := allDigits_toDigits n
  have length : (Nat.toDigits 10 n).length ≤ maxDigits := by
    apply (Nat.length_toDigits_le_iff (by decide) (by decide)).mpr
    exact of_decide_eq_true short
  have whole : readDecimalInteger? (Nat.toDigits 10 n) = some (n : Int) := by
    rw [readDecimalInteger?_eq Nat.toDigits_ne_nil digits length, ofDigitChars_toDigits]
  rw [readInteger?, natText, String.toList_ofList, filter_of_allDigits digits]
  split
  · rename_i mark rest written
    have markDigit : mark.isDigit = true := by
      rw [written] at digits
      exact digits mark (.tail _ (.head _))
    have unmarked : baseOfMark? mark = none := by
      have differs : ∀ other : Char, other.isDigit = false → mark ≠ other :=
        fun other => isDigit_ne markDigit
      simp [baseOfMark?, differs 'x' (by decide), differs 'X' (by decide),
        differs 'o' (by decide), differs 'O' (by decide), differs 'b' (by decide),
        differs 'B' (by decide)]
    rw [unmarked]
    exact written ▸ whole
  · exact whole

end Numeral

namespace Binary64

open Numeral (AllDigits)

/-! ## Decimals with the same value -/

/-- A decimal keeps its value when a zero at the end of its digits becomes part of its exponent. -/
theorem ofDecimal_mul_ten (digits : Nat) (exponent : Int) :
    ofDecimal (digits * 10) exponent = ofDecimal digits (exponent + 1) := by
  apply ofQuotient_eq _ (Nat.pow_pos (by decide)) (Nat.pow_pos (by decide))
  rcases lt_or_ge exponent 0 with negative | nonnegative
  · have noDigits : exponent.toNat = 0 := by omega
    have noDigits' : (exponent + 1).toNat = 0 := by omega
    have places : (-exponent).toNat = (-(exponent + 1)).toNat + 1 := by omega
    rw [noDigits, noDigits', places]
    simp only [Nat.pow_eq, pow_succ]
    ring
  · have noPlaces : (-exponent).toNat = 0 := by omega
    have noPlaces' : (-(exponent + 1)).toNat = 0 := by omega
    have zeros : (exponent + 1).toNat = exponent.toNat + 1 := by omega
    rw [noPlaces, noPlaces', zeros]
    simp only [Nat.pow_eq, pow_succ]
    ring

theorem ofDecimal_mul_pow_ten (digits zeros : Nat) (exponent : Int) :
    ofDecimal (digits * 10 ^ zeros) exponent = ofDecimal digits (exponent + zeros) := by
  induction zeros generalizing exponent with
  | zero => simp
  | succ zeros ih =>
      rw [pow_succ, ← Nat.mul_assoc, ofDecimal_mul_ten, ih, Nat.cast_succ]
      congr 1
      omega

theorem ofDecimal_dropZeros (fuel : Nat) (decimal : Decimal) :
    ofDecimal (decimal.dropZeros fuel).digits (decimal.dropZeros fuel).exponent =
      ofDecimal decimal.digits decimal.exponent := by
  induction fuel generalizing decimal with
  | zero => rfl
  | succ fuel ih =>
      rw [Decimal.dropZeros]
      split
      · rename_i multiple
        rw [ih, ← ofDecimal_mul_ten, Nat.div_mul_cancel (Nat.dvd_of_mod_eq_zero multiple)]
      · rfl

/-- Halves written in decimal. -/
theorem ofDecimal_mul_pow_five (count places : Nat) :
    ofDecimal (count * Nat.pow 5 places) (-(places : Int)) =
      ofQuotient false count (Nat.pow 2 places) := by
  apply ofQuotient_eq _ (Nat.pow_pos (by decide)) (Nat.pow_pos (by decide))
  have noDigits : (-(places : Int)).toNat = 0 := by omega
  rw [noDigits, Int.neg_neg, Int.toNat_natCast]
  simp only [Nat.pow_eq, pow_zero, mul_one, mul_assoc, ← Nat.mul_pow]

theorem ofDecimal_exactDecimal (count : Nat) :
    ofDecimal (exactDecimal count).digits (exactDecimal count).exponent =
      ofQuotient false count unitsPerOne :=
  ofDecimal_mul_pow_five count 1074

/-- The candidate that is found reads back. -/
theorem ofDecimal_shortestFrom {x : Binary64} {numerator denominator remaining : Nat}
    {exponent : Int} {decimal : Decimal}
    (found : shortestFrom x numerator denominator remaining exponent = some decimal) :
    ofDecimal decimal.digits decimal.exponent = x := by
  induction remaining generalizing exponent with
  | zero => cases found
  | succ remaining ih =>
      rw [shortestFrom] at found
      split at found
      · rename_i candidate accepted
        cases found
        have reads := List.find?_some accepted
        exact of_decide_eq_true reads
      · exact ih found

/-- The shortest decimal of a number reads back. -/
theorem ofDecimal_shortestDecimal {x : Binary64} {count : Nat}
    (exact : ofQuotient false count unitsPerOne = x) :
    ofDecimal (shortestDecimal count).digits (shortestDecimal count).exponent = x := by
  unfold shortestDecimal
  cases found : shortestFrom (ofQuotient false count unitsPerOne) count unitsPerOne 17
      (magnitude count unitsPerOne - 1) with
  | some decimal =>
      simp only [found]
      rw [ofDecimal_dropZeros, ofDecimal_shortestFrom found, exact]
  | none =>
      simp only [found]
      rw [ofDecimal_exactDecimal, exact]

/-! ## Positional notation -/

/-- Whether a text has digits around a point that denote a number. -/
def Pointed (text : List Char) (x : Binary64) : Prop :=
  ∃ whole fraction, text = whole ++ '.' :: fraction ∧ whole ≠ [] ∧ fraction ≠ [] ∧
    AllDigits whole ∧ AllDigits fraction ∧
      ofDecimal (Nat.ofDigitChars 10 (whole ++ fraction) 0) (-(fraction.length : Int)) = x

/-- What is written in positional notation has the value of the decimal. -/
theorem pointed_positional (decimal : Decimal) :
    Pointed (positional decimal) (ofDecimal decimal.digits decimal.exponent) := by
  have digits := Numeral.allDigits_toDigits decimal.digits
  by_cases whole : 0 ≤ decimal.exponent
  · refine ⟨Nat.toDigits 10 decimal.digits ++ List.replicate decimal.exponent.toNat '0', ['0'],
      ?_, List.append_ne_nil_of_left_ne_nil Nat.toDigits_ne_nil _, List.cons_ne_nil _ _,
      digits.append (Numeral.allDigits_zeros _), Numeral.allDigits_zeros 1, ?_⟩
    · simp only [positional, if_pos whole]
    · have zeros : List.replicate decimal.exponent.toNat '0' ++ ['0'] =
          List.replicate (decimal.exponent.toNat + 1) '0' := List.replicate_succ'.symm
      rw [List.append_assoc, zeros, Nat.ofDigitChars_append, Numeral.ofDigitChars_toDigits,
        Numeral.ofDigitChars_zeros, Nat.mul_comm, ofDecimal_mul_pow_ten]
      congr 1
      simp only [List.length_singleton]
      omega
  · have places : 0 < (-decimal.exponent).toNat := by omega
    let padded := List.replicate
      ((-decimal.exponent).toNat + 1 - (Nat.toDigits 10 decimal.digits).length) '0' ++
        Nat.toDigits 10 decimal.digits
    have paddedDigits : AllDigits padded := (Numeral.allDigits_zeros _).append digits
    have long : (-decimal.exponent).toNat < padded.length := by
      simp only [padded, List.length_append, List.length_replicate]
      omega
    have value : Nat.ofDigitChars 10 padded 0 = decimal.digits := by
      rw [Nat.ofDigitChars_append, Numeral.ofDigitChars_zeros, Nat.mul_zero,
        Numeral.ofDigitChars_toDigits]
    refine ⟨padded.take (padded.length - (-decimal.exponent).toNat),
      padded.drop (padded.length - (-decimal.exponent).toNat), ?_, ?_, ?_,
      fun c member => paddedDigits c (List.mem_of_mem_take member),
      fun c member => paddedDigits c (List.mem_of_mem_drop member), ?_⟩
    · simp only [positional, if_neg whole, padded]
    · apply List.ne_nil_of_length_pos
      rw [List.length_take]
      omega
    · apply List.ne_nil_of_length_pos
      rw [List.length_drop]
      omega
    · rw [List.take_append_drop, value, List.length_drop]
      congr 1
      omega

/-- What is written for a finite number without a sign reads as that number. -/
theorem pointed_text {x : Binary64} (finite : x.isFinite = true)
    (positive : x.isNegative = false) : Pointed x.text.toList x := by
  cases x with
  | nan | infinite => cases finite
  | finite negative mantissa exponent canonical =>
      obtain rfl : negative = false := positive
      rcases Nat.eq_zero_or_pos mantissa with rfl | nonzero
      · obtain rfl : exponent = -1074 := by
          rcases canonical.2.2.2 with large | least
          · exact absurd large (by decide)
          · exact least
        change Pointed (text (signedZero false)).toList (signedZero false)
        exact ⟨['0'], ['0'], by decide +kernel, List.cons_ne_nil _ _, List.cons_ne_nil _ _,
          Numeral.allDigits_zeros 1, Numeral.allDigits_zeros 1, by decide +kernel⟩
      · have notZero : (Binary64.finite false mantissa exponent canonical).isZero = false :=
          decide_eq_false nonzero.ne'
        have written : (text (.finite false mantissa exponent canonical)).toList =
            positional (shortestDecimal (mantissa * Nat.pow 2 (exponent + 1074).toNat)) := by
          simp only [text, textWith, notZero, isNegative, Bool.false_eq_true, if_false,
            String.toList_ofList]
          rfl
        rw [written, ← ofDecimal_shortestDecimal (ofQuotient_units nonzero canonical)]
        exact pointed_positional _

/-- A finite number without a sign reads back. -/
theorem readDecimal?_text {x : Binary64} (finite : x.isFinite = true)
    (positive : x.isNegative = false) : Numeral.readDecimal? x.text = some x := by
  rcases pointed_text finite positive with
    ⟨whole, fraction, written, wholeSome, fractionSome, wholeDigits, fractionDigits, value⟩
  have noPoint : ∀ c ∈ whole, decide (c ≠ '.') = true := fun c member =>
    decide_eq_true (Numeral.isDigit_ne (wholeDigits c member) (by decide))
  have clean : (whole ++ '.' :: fraction).filter (· ≠ '_') = whole ++ '.' :: fraction := by
    rw [List.filter_append, Numeral.filter_of_allDigits wholeDigits,
      List.filter_cons_of_pos (by decide), Numeral.filter_of_allDigits fractionDigits]
  have before : (whole ++ '.' :: fraction).takeWhile (· ≠ '.') = whole := by
    rw [List.takeWhile_append_of_pos noPoint, List.takeWhile_cons_of_neg (by decide),
      List.append_nil]
  have after : (whole ++ '.' :: fraction).dropWhile (· ≠ '.') = '.' :: fraction := by
    rw [List.dropWhile_append_of_pos noPoint, List.dropWhile_cons_of_neg (by decide)]
  have number : Nat.ofDigitChars 10 (whole ++ fraction) 0 =
      Nat.ofDigitChars 10 whole 0 * Nat.pow 10 fraction.length +
        Nat.ofDigitChars 10 fraction 0 := by
    rw [Nat.ofDigitChars_append, Nat.mul_comm]
    exact Nat.ofDigitChars_eq_ofDigitChars_zero
  simp only [Numeral.readDecimal?, written, clean, before, after,
    Numeral.ofDigitChars?_eq wholeSome wholeDigits,
    Numeral.ofDigitChars?_eq fractionSome fractionDigits, Option.bind_eq_bind, Option.bind_some]
  rw [← number, value]
  rfl

end Binary64
end ClauseFlow

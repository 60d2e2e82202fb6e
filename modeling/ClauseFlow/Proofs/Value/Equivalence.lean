import Mathlib.Data.Fintype.EquivFin
import ClauseFlow.Proofs.Value.Keys

/-!
# Equality is an equivalence

Strict and loose equality are both transitive. They are symmetric and reflexive on values whose maps
and records tell their keys apart, as those of a run do, and which have no undefined number in them.
Strict equality implies loose equality.
-/

namespace ClauseFlow.Value

/-! ## Regular values -/

mutual

/-- Whether every map and every record in a value maps keys, and tells them apart. -/
def isRegular : Value → Bool
  | .result _ inner => isRegular inner
  | .tuple elements | .list elements => allRegular elements
  | .map entries | .record _ entries => entriesRegular entries
  | .nil | .boolean _ | .integer _ | .decimal _ | .undefined _ | .text _ | .atom _
  | .recordType _ | .closure .. | .function .. => true

def allRegular : List Value → Bool
  | [] => true
  | value :: rest => isRegular value && allRegular rest

def entriesRegular : List (Value × Value) → Bool
  | [] => true
  | (key, value) :: rest =>
      isKey key && isRegular value && rest.all (fun later => !sameKey key later.1) &&
        entriesRegular rest

end

theorem entriesRegular_cons {key value : Value} {rest : Entries} :
    entriesRegular ((key, value) :: rest) = true ↔
      key.isKey = true ∧ value.isRegular = true ∧
        (∀ later ∈ rest, sameKey key later.1 = false) ∧ entriesRegular rest = true := by
  simp only [entriesRegular, Bool.and_eq_true, List.all_eq_true, Bool.not_eq_true', and_assoc]

theorem distinctKeys_of_entriesRegular : ∀ {entries : Entries}, entriesRegular entries = true →
    DistinctKeys entries
  | [], _ => .nil
  | (_, _) :: _, regular =>
      have ⟨_, _, apart, rest⟩ := entriesRegular_cons.mp regular
      .cons apart (distinctKeys_of_entriesRegular rest)

theorem regular_of_mem {entries : Entries} (regular : entriesRegular entries = true)
    {entry : Value × Value} (member : entry ∈ entries) :
    entry.1.isKey = true ∧ entry.2.isRegular = true := by
  induction entries with
  | nil => cases member
  | cons first rest ih =>
      have ⟨isKey, inside, _, others⟩ := entriesRegular_cons.mp regular
      cases List.mem_cons.mp member with
      | inl here =>
          cases here
          exact ⟨isKey, inside⟩
      | inr later => exact ih others later

theorem defined_of_mem {entries : Entries} (defined : entriesDefined entries = true)
    {entry : Value × Value} (member : entry ∈ entries) :
    entry.1.isDefined = true ∧ entry.2.isDefined = true := by
  induction entries with
  | nil => cases member
  | cons first rest ih =>
      simp only [entriesDefined, Bool.and_eq_true] at defined
      cases List.mem_cons.mp member with
      | inl here =>
          cases here
          exact defined.1
      | inr later => exact ih defined.2 later

variable {strict : Bool}

/-! ## Equal numbers -/

/-- Whether a number is an integer by its type. -/
def Number.isInteger : Number → Bool
  | .integer _ => true
  | .decimal _ => false

/-- Numbers are equal by their value, and strictly by their type as well. -/
theorem equal_iff_of_numbers {first second : Value} {number number' : Number}
    (here : first.number? = some number) (there : second.number? = some number') :
    equal strict first second = true ↔
      number.equal number' = true ∧ (strict = true → number.isInteger = number'.isInteger) := by
  cases first with
  | integer value =>
      cases here
      cases second with
      | integer | decimal | undefined =>
          cases there
          simp [equal, Number.isInteger, and_comm]
      | _ => cases there
  | decimal value =>
      cases here
      cases second with
      | integer | decimal | undefined =>
          cases there
          simp [equal, Number.isInteger, and_comm]
      | _ => cases there
  | undefined mark =>
      cases here
      simp [equal]
  | _ => cases here

/-- Only numbers are equal to numbers. -/
theorem exists_number_of_equal {first second : Value} {number : Number}
    (here : first.number? = some number) (same : equal strict first second = true) :
    ∃ number', second.number? = some number' := by
  cases first with
  | integer | decimal =>
      cases second with
      | integer | decimal => exact ⟨_, rfl⟩
      | _ => cases same
  | undefined => cases second <;> cases same
  | _ => cases here

/-! ## Equal entries -/

/-- Each entry has a counterpart that is found by its key. -/
theorem equalEntries_iff {entries entries' : Entries} :
    equalEntries strict entries entries' = true ↔
      ∀ entry ∈ entries, ∃ other, find? entry.1 entries' = some other ∧
        equal strict entry.2 other = true := by
  induction entries with
  | nil => simp [equalEntries]
  | cons entry rest ih =>
      rw [equalEntries, Bool.and_eq_true, ih, List.forall_mem_cons]
      apply and_congr_left
      intro _
      cases find? entry.1 entries' with
      | none => simp
      | some other => simp

/-- Among as many entries, whose keys are told apart, each one is a counterpart if each has one. -/
theorem exists_mem_of_counterpart {entries entries' : Entries} (distinct : DistinctKeys entries)
    (sameLength : entries.length = entries'.length)
    (counterparts : ∀ entry ∈ entries, ∃ other, find? entry.1 entries' = some other ∧
      equal strict entry.2 other = true) :
    ∀ entry' ∈ entries', ∃ entry ∈ entries, sameKey entry'.1 entry.1 = true ∧
      equal strict entry.2 entry'.2 = true := by
  have found (index : Fin entries.length) : ∃ index' : Fin entries'.length,
      sameKey entries'[index'].1 entries[index].1 = true ∧
        equal strict entries[index].2 entries'[index'].2 = true := by
    obtain ⟨other, isFound, same⟩ := counterparts entries[index] (List.getElem_mem index.isLt)
    obtain ⟨known, member, sameKnown⟩ := exists_mem_of_find? isFound
    obtain ⟨index', inside, here⟩ := List.getElem_of_mem member
    refine ⟨⟨index', inside⟩, ?_, ?_⟩
    · simpa [here] using sameKnown
    · simpa [here] using same
  choose counterpart counterpart_spec using found
  have injective : Function.Injective counterpart := by
    intro first second same
    have sameFirst := (counterpart_spec first).1
    have sameSecond := (counterpart_spec second).1
    rw [← same] at sameSecond
    have sameKeys := sameKey_trans (sameKey_symm sameFirst) sameSecond
    have apart := List.pairwise_iff_getElem.mp distinct
    by_contra differs
    cases Nat.lt_or_gt_of_ne (Fin.val_ne_of_ne differs) with
    | inl before =>
        have told := apart _ _ first.isLt second.isLt before
        simp [told] at sameKeys
    | inr after =>
        have told := apart _ _ second.isLt first.isLt after
        have sameKeys := sameKey_symm sameKeys
        simp [told] at sameKeys
  have surjective : Function.Surjective counterpart :=
    (Finite.injective_iff_surjective_of_equiv (finCongr sameLength)).mp injective
  intro entry' member
  obtain ⟨index', inside, rfl⟩ := List.getElem_of_mem member
  obtain ⟨index, here⟩ := surjective ⟨index', inside⟩
  have spec := counterpart_spec index
  rw [here] at spec
  exact ⟨entries[index], List.getElem_mem index.isLt, spec.1, spec.2⟩

/-- Entries with keys that are told apart are equal the other way round if their values are. -/
theorem equalEntries_symm {entries entries' : Entries} (distinct : DistinctKeys entries)
    (sameLength : entries.length = entries'.length)
    (symm : ∀ entry ∈ entries, ∀ other, equal strict entry.2 other = true →
      equal strict other entry.2 = true)
    (same : equalEntries strict entries entries' = true) :
    equalEntries strict entries' entries = true := by
  apply equalEntries_iff.mpr
  intro entry' member'
  obtain ⟨entry, member, sameKeys, sameValues⟩ :=
    exists_mem_of_counterpart distinct sameLength (equalEntries_iff.mp same) entry' member'
  exact ⟨entry.2, find?_of_mem distinct member (sameKey_symm sameKeys),
    symm entry member _ sameValues⟩

theorem equalEntries_trans {entries entries' entries'' : Entries}
    (trans : ∀ entry ∈ entries, ∀ second third, equal strict entry.2 second = true →
      equal strict second third = true → equal strict entry.2 third = true)
    (same : equalEntries strict entries entries' = true)
    (same' : equalEntries strict entries' entries'' = true) :
    equalEntries strict entries entries'' = true := by
  apply equalEntries_iff.mpr
  intro entry member
  obtain ⟨second, found, sameValues⟩ := equalEntries_iff.mp same entry member
  obtain ⟨known, knownMember, sameKeys⟩ := exists_mem_of_find? found
  obtain ⟨third, found', sameValues'⟩ := equalEntries_iff.mp same' _ knownMember
  rw [find?_congr sameKeys] at found'
  exact ⟨third, found', trans entry member _ _ sameValues sameValues'⟩

theorem equalEntries_self {entries : Entries} (regular : entriesRegular entries = true)
    (defined : entriesDefined entries = true)
    (self : ∀ entry ∈ entries, equal strict entry.2 entry.2 = true) :
    equalEntries strict entries entries = true := by
  apply equalEntries_iff.mpr
  intro entry member
  have sameKeys := sameKey_self (regular_of_mem regular member).1 (defined_of_mem defined member).1
  exact ⟨entry.2, find?_of_mem (distinctKeys_of_entriesRegular regular) member sameKeys,
    self entry member⟩

/-! ## Symmetry -/

mutual

/-- Equality of regular values is symmetric. -/
theorem equal_symm : ∀ {first second : Value}, first.isRegular = true →
    equal strict first second = true → equal strict second first = true
  | .nil, second, _, same | .boolean _, second, _, same | .text _, second, _, same
  | .atom _, second, _, same | .recordType _, second, _, same | .function .., second, _, same => by
      cases second <;> simp_all [equal]
  | .undefined _, second, _, same => by cases second <;> cases same
  | .closure .., second, _, same => by
      cases second <;> simp_all [equal]
  | .integer _, second, _, same | .decimal _, second, _, same => by
      obtain ⟨number', there⟩ := exists_number_of_equal rfl same
      have numbers := (equal_iff_of_numbers rfl there).mp same
      exact (equal_iff_of_numbers there rfl).mpr
        ⟨Number.equal_symm numbers.1, fun isStrict => (numbers.2 isStrict).symm⟩
  | .result _ inner, second, regular, same => by
      cases second with
      | result _ inner' =>
          simp only [equal, Bool.and_eq_true, decide_eq_true_eq] at same ⊢
          exact ⟨same.1.symm, equal_symm regular same.2⟩
      | _ => cases same
  | .tuple elements, second, regular, same => by
      cases second with
      | tuple elements' => exact equalAll_symm regular same
      | _ => cases same
  | .list elements, second, regular, same => by
      cases second with
      | list elements' => exact equalAll_symm regular same
      | _ => cases same
  | .map entries, second, regular, same => by
      cases second with
      | map entries' =>
          simp only [equal, Bool.and_eq_true, decide_eq_true_eq] at same ⊢
          exact ⟨same.1.symm, equalEntries_symm (distinctKeys_of_entriesRegular regular) same.1
            (each_equal_symm regular) same.2⟩
      | _ => cases same
  | .record _ entries, second, regular, same => by
      cases second with
      | record _ entries' =>
          simp only [equal, Bool.and_eq_true, decide_eq_true_eq] at same ⊢
          exact ⟨⟨same.1.1.symm, same.1.2.symm⟩, equalEntries_symm
            (distinctKeys_of_entriesRegular regular) same.1.2 (each_equal_symm regular) same.2⟩
      | _ => cases same

theorem equalAll_symm : ∀ {first second : List Value}, allRegular first = true →
    equalAll strict first second = true → equalAll strict second first = true
  | [], second, _, same => by
      cases second with
      | nil => rfl
      | cons => cases same
  | value :: rest, second, regular, same => by
      cases second with
      | nil => cases same
      | cons value' rest' =>
          simp only [allRegular, equalAll, Bool.and_eq_true] at regular same ⊢
          exact ⟨equal_symm regular.1 same.1, equalAll_symm regular.2 same.2⟩

theorem each_equal_symm : ∀ {entries : Entries}, entriesRegular entries = true →
    ∀ entry ∈ entries, ∀ other, equal strict entry.2 other = true →
      equal strict other entry.2 = true
  | [], _ => nofun
  | (_, _) :: _, regular =>
      have ⟨_, inside, _, others⟩ := entriesRegular_cons.mp regular
      List.forall_mem_cons.mpr
        ⟨fun _ same => equal_symm inside same, each_equal_symm others⟩

end

/-! ## Transitivity -/

mutual

theorem equal_trans : ∀ {first second third : Value}, equal strict first second = true →
    equal strict second third = true → equal strict first third = true
  | .nil, second, third, same, same' | .boolean _, second, third, same, same'
  | .text _, second, third, same, same' | .atom _, second, third, same, same'
  | .recordType _, second, third, same, same' | .function .., second, third, same, same'
  | .closure .., second, third, same, same' => by
      cases second <;> simp only [equal, Bool.false_eq_true] at same
      cases third <;> simp_all [equal]
  | .undefined _, second, _, same, _ => by cases second <;> cases same
  | .integer _, second, third, same, same' | .decimal _, second, third, same, same' => by
      obtain ⟨number', there⟩ := exists_number_of_equal rfl same
      obtain ⟨number'', there'⟩ := exists_number_of_equal there same'
      have numbers := (equal_iff_of_numbers rfl there).mp same
      have numbers' := (equal_iff_of_numbers there there').mp same'
      exact (equal_iff_of_numbers rfl there').mpr ⟨Number.equal_trans numbers.1 numbers'.1,
        fun isStrict => (numbers.2 isStrict).trans (numbers'.2 isStrict)⟩
  | .result _ inner, second, third, same, same' => by
      cases second with
      | result _ inner' =>
          cases third with
          | result _ inner'' =>
              simp only [equal, Bool.and_eq_true, decide_eq_true_eq] at same same' ⊢
              exact ⟨same.1.trans same'.1, equal_trans same.2 same'.2⟩
          | _ => cases same'
      | _ => cases same
  | .tuple elements, second, third, same, same' => by
      cases second with
      | tuple elements' =>
          cases third with
          | tuple elements'' => exact equalAll_trans same same'
          | _ => cases same'
      | _ => cases same
  | .list elements, second, third, same, same' => by
      cases second with
      | list elements' =>
          cases third with
          | list elements'' => exact equalAll_trans same same'
          | _ => cases same'
      | _ => cases same
  | .map entries, second, third, same, same' => by
      cases second with
      | map entries' =>
          cases third with
          | map entries'' =>
              simp only [equal, Bool.and_eq_true, decide_eq_true_eq] at same same' ⊢
              exact ⟨same.1.trans same'.1, equalEntries_trans each_equal_trans same.2 same'.2⟩
          | _ => cases same'
      | _ => cases same
  | .record _ entries, second, third, same, same' => by
      cases second with
      | record _ entries' =>
          cases third with
          | record _ entries'' =>
              simp only [equal, Bool.and_eq_true, decide_eq_true_eq] at same same' ⊢
              exact ⟨⟨same.1.1.trans same'.1.1, same.1.2.trans same'.1.2⟩,
                equalEntries_trans each_equal_trans same.2 same'.2⟩
          | _ => cases same'
      | _ => cases same

theorem equalAll_trans : ∀ {first second third : List Value},
    equalAll strict first second = true →
    equalAll strict second third = true → equalAll strict first third = true
  | [], second, third, same, same' => by
      cases second with
      | nil => exact same'
      | cons => cases same
  | value :: rest, second, third, same, same' => by
      cases second with
      | nil => cases same
      | cons value' rest' =>
          cases third with
          | nil => cases same'
          | cons value'' rest'' =>
              simp only [equalAll, Bool.and_eq_true] at same same' ⊢
              exact ⟨equal_trans same.1 same'.1, equalAll_trans same.2 same'.2⟩

theorem each_equal_trans : ∀ {entries : Entries}, ∀ entry ∈ entries, ∀ second third,
    equal strict entry.2 second = true → equal strict second third = true →
      equal strict entry.2 third = true
  | [] => nofun
  | (_, _) :: _ => List.forall_mem_cons.mpr
      ⟨fun _ _ same same' => equal_trans same same', each_equal_trans⟩

end

/-! ## Reflexivity -/

mutual

/-- A regular value equals itself if it is defined. -/
theorem equal_self : ∀ {value : Value}, value.isRegular = true → value.isDefined = true →
    equal strict value value = true
  | .nil, _, _ => rfl
  | .boolean _, _, _ | .text _, _, _ | .atom _, _, _ | .integer _, _, _ | .recordType _, _, _
  | .closure .., _, _ | .function .., _, _ => by simp [equal]
  | .decimal value, _, defined => by
      rw [isDefined, Bool.not_eq_true'] at defined
      exact Number.equal_decimal_self defined
  | .undefined _, _, defined => by cases defined
  | .result _ inner, regular, defined => by
      simp only [equal, decide_true, Bool.true_and]
      exact equal_self regular defined
  | .tuple elements, regular, defined | .list elements, regular, defined =>
      equalAll_self regular defined
  | .map entries, regular, defined => by
      simp only [equal, decide_true, Bool.true_and]
      exact equalEntries_self regular defined (each_equal_self regular defined)
  | .record _ entries, regular, defined => by
      simp only [equal, decide_true, Bool.true_and]
      exact equalEntries_self regular defined (each_equal_self regular defined)

theorem equalAll_self : ∀ {values : List Value}, allRegular values = true →
    allDefined values = true → equalAll strict values values = true
  | [], _, _ => rfl
  | _ :: _, regular, defined => by
      simp only [allRegular, allDefined, equalAll, Bool.and_eq_true] at regular defined ⊢
      exact ⟨equal_self regular.1 defined.1, equalAll_self regular.2 defined.2⟩

theorem each_equal_self : ∀ {entries : Entries}, entriesRegular entries = true →
    entriesDefined entries = true → ∀ entry ∈ entries, equal strict entry.2 entry.2 = true
  | [], _, _ => nofun
  | (_, _) :: _, regular, defined => by
      have ⟨_, inside, _, others⟩ := entriesRegular_cons.mp regular
      simp only [entriesDefined, Bool.and_eq_true] at defined
      exact List.forall_mem_cons.mpr
        ⟨equal_self inside defined.1.2, each_equal_self others defined.2⟩

end

/-! ## Strict and loose equality -/

mutual

/-- What is strictly equal is loosely equal. -/
theorem equal_of_strict : ∀ {first second : Value}, equal true first second = true →
    equal false first second = true
  | .nil, second, same | .boolean _, second, same | .text _, second, same | .atom _, second, same
  | .recordType _, second, same | .function .., second, same | .closure .., second, same
  | .undefined _, second, same => by
      cases second <;> simp_all [equal]
  | .integer _, second, same | .decimal _, second, same => by
      obtain ⟨number', there⟩ := exists_number_of_equal rfl same
      have numbers := (equal_iff_of_numbers rfl there).mp same
      exact (equal_iff_of_numbers rfl there).mpr ⟨numbers.1, nofun⟩
  | .result _ inner, second, same => by
      cases second with
      | result _ inner' =>
          simp only [equal, Bool.and_eq_true, decide_eq_true_eq] at same ⊢
          exact ⟨same.1, equal_of_strict same.2⟩
      | _ => cases same
  | .tuple elements, second, same => by
      cases second with
      | tuple elements' => exact equalAll_of_strict same
      | _ => cases same
  | .list elements, second, same => by
      cases second with
      | list elements' => exact equalAll_of_strict same
      | _ => cases same
  | .map entries, second, same => by
      cases second with
      | map entries' =>
          simp only [equal, Bool.and_eq_true, decide_eq_true_eq] at same ⊢
          exact ⟨same.1, equalEntries_of_strict same.2⟩
      | _ => cases same
  | .record _ entries, second, same => by
      cases second with
      | record _ entries' =>
          simp only [equal, Bool.and_eq_true, decide_eq_true_eq] at same ⊢
          exact ⟨same.1, equalEntries_of_strict same.2⟩
      | _ => cases same

theorem equalAll_of_strict : ∀ {first second : List Value}, equalAll true first second = true →
    equalAll false first second = true
  | [], second, same => by
      cases second with
      | nil => rfl
      | cons => cases same
  | _ :: _, second, same => by
      cases second with
      | nil => cases same
      | cons =>
          simp only [equalAll, Bool.and_eq_true] at same ⊢
          exact ⟨equal_of_strict same.1, equalAll_of_strict same.2⟩

theorem equalEntries_of_strict : ∀ {entries entries' : Entries},
    equalEntries true entries entries' = true → equalEntries false entries entries' = true
  | [], _, _ => rfl
  | (key, _) :: _, entries', same => by
      simp only [equalEntries, Bool.and_eq_true] at same ⊢
      refine ⟨?_, equalEntries_of_strict same.2⟩
      cases found : find? key entries' with
      | none => simp [found] at same
      | some other =>
          simp only [found] at same
          exact equal_of_strict same.1

end

/-! ## The equivalence -/

/-- A value as a run makes them, with no undefined number in it. -/
structure Comparable where
  value : Value
  regular : value.isRegular = true
  defined : value.isDefined = true

/-- Strict and loose equality are equivalences, and strict equality implies loose equality. -/
theorem equal_equivalence :
    (∀ strict, Equivalence fun first second : Comparable =>
      equal strict first.value second.value = true) ∧
      ∀ first second : Comparable, equal true first.value second.value = true →
        equal false first.value second.value = true := by
  constructor
  · intro strict
    exact {
      refl := fun value => equal_self value.regular value.defined
      symm := fun {first _} same => equal_symm first.regular same
      trans := fun same same' => equal_trans same same' }
  · exact fun _ _ same => equal_of_strict same

/-- The map `%{at: {1, -0.0}, true => Ok(nil)}`. -/
def reading : Comparable :=
  ⟨.map [(.text "at", .tuple [.integer 1, .decimal (.signedZero true)]),
    (.boolean true, .result .ok .nil)], by decide, by decide⟩

/-- The same map with its entries in another order, another key that is the same, and the other
zero. -/
def rearranged : Comparable :=
  ⟨.map [(.integer 1, .result .ok .nil),
    (.text "at", .tuple [.integer 1, .decimal (.signedZero false)])], by decide, by decide⟩

/-- The map `%{at: {1.0, 0}, true => Ok(nil)}`. -/
def measured : Comparable :=
  ⟨.map [(.text "at",
      .tuple [.decimal (.finite false (2 ^ 52) (-52) (by decide)), .integer 0]),
    (.boolean true, .result .ok .nil)], by decide, by decide⟩

theorem equal_equivalence_readings :
    equal true reading.value rearranged.value = true ∧
      equal true rearranged.value reading.value = true ∧
      equal false rearranged.value measured.value = true ∧
      equal false reading.value measured.value = true := by
  have same : equal true reading.value rearranged.value = true := by decide +kernel
  have alike : equal false rearranged.value measured.value = true := by decide +kernel
  have loosely := equal_equivalence.2 reading rearranged same
  exact ⟨same, (equal_equivalence.1 true).symm same, alike,
    (equal_equivalence.1 false).trans loosely alike⟩

end ClauseFlow.Value

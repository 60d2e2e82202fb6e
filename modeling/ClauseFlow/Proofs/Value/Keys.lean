import Mathlib.Data.List.Forall2
import ClauseFlow.Proofs.Number.Comparison

/-!
# Keys

Being the same key is symmetric and transitive, and each value that can be a key is the same key as
itself unless an undefined number is in it. So an entry is found by every key that is the same as
its own, and putting a key changes what is found for this key only.
-/

namespace ClauseFlow.Value

/-! ## The same key -/

/-- Whether two values are the same key: numbers by their value, where truth values count as
numbers, and all else by its structure. -/
inductive SameKey : Value → Value → Prop where
  | nil : SameKey .nil .nil
  | undefined (mark : Mark) : SameKey (.undefined mark) (.undefined mark)
  | text (value : String) : SameKey (.text value) (.text value)
  | atom (name : String) : SameKey (.atom name) (.atom name)
  | recordType (name : String) : SameKey (.recordType name) (.recordType name)
  | function (name : String) (home : Nat) : SameKey (.function name home) (.function name home)
  | number {first second : Value} {number number' : Number} :
      first.keyNumber? = some number → second.keyNumber? = some number' →
      number.equal number' = true → SameKey first second
  | result (tag : ResultTag) {inner inner' : Value} :
      SameKey inner inner' → SameKey (.result tag inner) (.result tag inner')
  | tuple {elements elements' : List Value} :
      List.Forall₂ SameKey elements elements' → SameKey (.tuple elements) (.tuple elements')

mutual

theorem sameKey_of_sameKey : ∀ {first second : Value}, sameKey first second = true →
    SameKey first second
  | .nil, second, same => by
      cases second with
      | nil => exact .nil
      | _ => simp [sameKey, keyNumber?, number?] at same
  | .text value, second, same => by
      cases second with
      | text value' =>
          simp only [sameKey, decide_eq_true_eq] at same
          exact same ▸ .text value
      | _ => simp [sameKey, keyNumber?, number?] at same
  | .atom name, second, same => by
      cases second with
      | atom name' =>
          simp only [sameKey, decide_eq_true_eq] at same
          exact same ▸ .atom name
      | _ => simp [sameKey, keyNumber?, number?] at same
  | .recordType name, second, same => by
      cases second with
      | recordType name' =>
          simp only [sameKey, decide_eq_true_eq] at same
          exact same ▸ .recordType name
      | _ => simp [sameKey, keyNumber?, number?] at same
  | .function name home, second, same => by
      cases second with
      | function name' home' =>
          simp only [sameKey, Bool.and_eq_true, decide_eq_true_eq] at same
          obtain ⟨rfl, rfl⟩ := same
          exact .function name home
      | _ => simp [sameKey, keyNumber?, number?] at same
  | .result tag inner, second, same => by
      cases second with
      | result tag' inner' =>
          simp only [sameKey, Bool.and_eq_true, decide_eq_true_eq] at same
          obtain ⟨rfl, inside⟩ := same
          exact .result tag (sameKey_of_sameKey inside)
      | _ => simp [sameKey, keyNumber?, number?] at same
  | .tuple elements, second, same => by
      cases second with
      | tuple elements' =>
          simp only [sameKey] at same
          exact .tuple (sameKeys_of_sameKeys same)
      | _ => simp [sameKey, keyNumber?, number?] at same
  | .undefined mark, second, same => by
      cases second with
      | undefined mark' =>
          simp only [sameKey, decide_eq_true_eq] at same
          exact same ▸ .undefined mark
      | _ => simp [sameKey, keyNumber?, number?] at same
  | .boolean value, second, same => by
      cases second with
      | boolean | integer | decimal | undefined => exact .number rfl rfl same
      | _ => simp [sameKey, keyNumber?, number?] at same
  | .integer value, second, same => by
      cases second with
      | boolean | integer | decimal | undefined => exact .number rfl rfl same
      | _ => simp [sameKey, keyNumber?, number?] at same
  | .decimal value, second, same => by
      cases second with
      | boolean | integer | decimal | undefined => exact .number rfl rfl same
      | _ => simp [sameKey, keyNumber?, number?] at same
  | .list _, _, same | .map _, _, same | .record .., _, same | .closure .., _, same => by
      simp [sameKey, keyNumber?, number?] at same

theorem sameKeys_of_sameKeys : ∀ {first second : List Value}, sameKeys first second = true →
    List.Forall₂ SameKey first second
  | [], second, same => by
      cases second with
      | nil => exact .nil
      | cons => cases same
  | value :: rest, second, same => by
      cases second with
      | nil => cases same
      | cons value' rest' =>
          simp only [sameKeys, Bool.and_eq_true] at same
          exact .cons (sameKey_of_sameKey same.1) (sameKeys_of_sameKeys same.2)

end

/-- Values that count as equal numbers are the same key. -/
theorem sameKey_of_numbers {first second : Value} {number number' : Number}
    (here : first.keyNumber? = some number) (there : second.keyNumber? = some number')
    (same : number.equal number' = true) : sameKey first second = true := by
  cases first with
  | undefined mark =>
      cases here
      rw [Number.nan_equal] at same
      cases same
  | boolean | integer | decimal =>
      cases here
      cases second with
      | boolean | integer | decimal | undefined =>
          cases there
          exact same
      | _ => cases there
  | _ => cases here

mutual

theorem SameKey.sameKey_eq_true : ∀ {first second : Value}, SameKey first second →
    sameKey first second = true
  | _, _, .nil => rfl
  | _, _, .undefined _ | _, _, .text _ | _, _, .atom _ | _, _, .recordType _ | _, _, .function .. => by
      simp [sameKey]
  | _, _, .number here there same => sameKey_of_numbers here there same
  | _, _, .result _ inside => by simp [sameKey, inside.sameKey_eq_true]
  | _, _, .tuple each => by simp [sameKey, sameKeys_eq_true each]

theorem sameKeys_eq_true : ∀ {first second : List Value}, List.Forall₂ SameKey first second →
    sameKeys first second = true
  | _, _, .nil => rfl
  | _, _, .cons here others => by
      simp [sameKeys, here.sameKey_eq_true, sameKeys_eq_true others]

end

theorem sameKey_iff {first second : Value} :
    sameKey first second = true ↔ SameKey first second :=
  ⟨sameKey_of_sameKey, SameKey.sameKey_eq_true⟩

/-! ## Symmetry and transitivity -/

mutual

theorem SameKey.symm : ∀ {first second : Value}, SameKey first second → SameKey second first
  | _, _, .nil => .nil
  | _, _, .undefined mark => .undefined mark
  | _, _, .text value => .text value
  | _, _, .atom name => .atom name
  | _, _, .recordType name => .recordType name
  | _, _, .function name home => .function name home
  | _, _, .number here there same => .number there here (Number.equal_symm same)
  | _, _, .result tag inside => .result tag inside.symm
  | _, _, .tuple each => .tuple (sameKeys_symm each)

theorem sameKeys_symm : ∀ {first second : List Value}, List.Forall₂ SameKey first second →
    List.Forall₂ SameKey second first
  | _, _, .nil => .nil
  | _, _, .cons here others => .cons here.symm (sameKeys_symm others)

end

mutual

theorem SameKey.trans : ∀ {first second third : Value}, SameKey first second →
    SameKey second third → SameKey first third
  | _, _, _, .nil, same | _, _, _, .undefined _, same | _, _, _, .text _, same
  | _, _, _, .atom _, same | _, _, _, .recordType _, same | _, _, _, .function .., same => same
  | _, _, _, .number here there same, same' => by
      cases same' with
      | number here' there' same' =>
          obtain rfl := Option.some.inj (there.symm.trans here')
          exact .number here there' (Number.equal_trans same same')
      | undefined mark =>
          cases there
          rw [Number.equal_nan] at same
          cases same
      | _ => cases there
  | _, _, _, .result tag inside, same' => by
      cases same' with
      | result _ inside' => exact .result tag (inside.trans inside')
      | number here => cases here
  | _, _, _, .tuple each, same' => by
      cases same' with
      | tuple each' => exact .tuple (sameKeys_trans each each')
      | number here => cases here

theorem sameKeys_trans : ∀ {first second third : List Value}, List.Forall₂ SameKey first second →
    List.Forall₂ SameKey second third → List.Forall₂ SameKey first third
  | _, _, _, .nil, .nil => .nil
  | _, _, _, .cons here others, .cons here' others' =>
      .cons (here.trans here') (sameKeys_trans others others')

end

theorem sameKey_symm {first second : Value} (same : sameKey first second = true) :
    sameKey second first = true :=
  (sameKey_iff.mp same).symm.sameKey_eq_true

theorem sameKey_trans {first second third : Value} (same : sameKey first second = true)
    (same' : sameKey second third = true) : sameKey first third = true :=
  ((sameKey_iff.mp same).trans (sameKey_iff.mp same')).sameKey_eq_true

/-- Keys that are the same are the same as the same other keys. -/
theorem sameKey_congr {first second : Value} (same : sameKey first second = true) (other : Value) :
    sameKey other first = sameKey other second := by
  apply Bool.eq_iff_iff.mpr
  constructor
  · exact fun here => sameKey_trans here same
  · exact fun here => sameKey_trans here (sameKey_symm same)

/-! ## Defined values -/

mutual

/-- Whether no undefined number is in a value, neither in keys nor in what they are mapped to. What
a closure sees is no part of it. -/
def isDefined : Value → Bool
  | .undefined _ => false
  | .decimal value => !value.isNaN
  | .result _ inner => isDefined inner
  | .tuple elements | .list elements => allDefined elements
  | .map entries | .record _ entries => entriesDefined entries
  | .nil | .boolean _ | .integer _ | .text _ | .atom _ | .recordType _ | .closure ..
  | .function .. => true

def allDefined : List Value → Bool
  | [] => true
  | value :: rest => isDefined value && allDefined rest

def entriesDefined : List (Value × Value) → Bool
  | [] => true
  | (key, value) :: rest => isDefined key && isDefined value && entriesDefined rest

end

mutual

/-- A key that is defined is the same as itself. -/
theorem SameKey.refl : ∀ {key : Value}, key.isKey = true → key.isDefined = true → SameKey key key
  | .nil, _, _ => .nil
  | .text value, _, _ => .text value
  | .atom name, _, _ => .atom name
  | .recordType name, _, _ => .recordType name
  | .function name home, _, _ => .function name home
  | .boolean _, _, _ | .integer _, _, _ => .number rfl rfl (Number.equal_integers.mpr rfl)
  | .decimal _, _, defined => .number rfl rfl (Number.equal_decimal_self (by
      simpa only [isDefined, Bool.not_eq_true'] using defined))
  | .result tag _, keys, defined => .result tag (SameKey.refl keys defined)
  | .tuple _, keys, defined => .tuple (sameKeys_refl keys defined)
  | .undefined _, _, defined => by cases defined
  | .list _, keys, _ | .map _, keys, _ | .record .., keys, _ | .closure .., keys, _ => by cases keys

theorem sameKeys_refl : ∀ {keys : List Value}, allKeys keys = true → allDefined keys = true →
    List.Forall₂ SameKey keys keys
  | [], _, _ => .nil
  | _ :: _, keys, defined => by
      simp only [allKeys, allDefined, Bool.and_eq_true] at keys defined
      exact .cons (SameKey.refl keys.1 defined.1) (sameKeys_refl keys.2 defined.2)

end

theorem sameKey_self {key : Value} (isKey : key.isKey = true) (defined : key.isDefined = true) :
    sameKey key key = true :=
  (SameKey.refl isKey defined).sameKey_eq_true

/-! ## Entries -/

/-- Whether the keys of entries are told apart. -/
def DistinctKeys (entries : Entries) : Prop :=
  entries.Pairwise fun entry later => sameKey entry.1 later.1 = false

theorem exists_mem_of_find? {entries : Entries} {key value : Value}
    (found : find? key entries = some value) :
    ∃ known, (known, value) ∈ entries ∧ sameKey known key = true := by
  induction entries with
  | nil => cases found
  | cons entry rest ih =>
      obtain ⟨known, old⟩ := entry
      simp only [find?] at found
      split at found
      · cases found
        exact ⟨known, .head _, ‹_›⟩
      · obtain ⟨later, member, same⟩ := ih found
        exact ⟨later, .tail _ member, same⟩

/-- An entry is found by each key that is the same as its own. -/
theorem find?_of_mem {entries : Entries} (distinct : DistinctKeys entries) {known key value : Value}
    (member : (known, value) ∈ entries) (same : sameKey known key = true) :
    find? key entries = some value := by
  induction entries with
  | nil => cases member
  | cons entry rest ih =>
      obtain ⟨apart, distinctRest⟩ := List.pairwise_cons.mp distinct
      rw [find?]
      cases List.mem_cons.mp member with
      | inl here =>
          cases here
          rw [if_pos same]
      | inr later =>
          have differs : sameKey entry.1 key = false := by
            rw [← sameKey_congr same]
            exact apart _ later
          rw [if_neg (by simp [differs])]
          exact ih distinctRest later

/-- Keys that are the same find the same. -/
theorem find?_congr {key key' : Value} (same : sameKey key key' = true) (entries : Entries) :
    find? key entries = find? key' entries := by
  induction entries with
  | nil => rfl
  | cons entry rest ih => rw [find?, find?, sameKey_congr same, ih]

/-- Putting a key changes what is found for this key, and nothing else. -/
theorem find?_insert (key value asked : Value) (entries : Entries) :
    find? asked (insert key value entries) =
      if sameKey key asked then some value else find? asked entries := by
  induction entries with
  | nil => rfl
  | cons entry rest ih =>
      obtain ⟨known, old⟩ := entry
      rw [insert]
      by_cases here : sameKey known key = true
      · rw [if_pos here, find?, find?]
        have same : sameKey known asked = sameKey key asked := by
          apply Bool.eq_iff_iff.mpr
          constructor
          · exact fun there => sameKey_trans (sameKey_symm here) there
          · exact fun there => sameKey_trans here there
        rw [same]
        split <;> rfl
      · rw [if_neg here, find?, find?, ih]
        by_cases there : sameKey known asked = true
        · have differs : ¬sameKey key asked = true := fun same =>
            here (sameKey_trans there (sameKey_symm same))
          rw [if_pos there, if_pos there, if_neg differs]
        · rw [if_neg there, if_neg there]

end ClauseFlow.Value

import ClauseFlow.Proofs.Pattern.Relabelling
import ClauseFlow.Proofs.Shape.Numbering
import Mathlib.Logic.Function.Basic

/-!
# Rows of names with the same numbers

Numbering by first appearance forgets how names are spelled and nothing else: two rows without
repeated anonymous names have the same numbers exactly if a bijection turns one into the other.
-/

namespace ClauseFlow.Shape

open Pattern (ToldApart distinguishFrom)

namespace Numbering

variable {state state' : Numbering} {name other : String}

/-! ## One more name -/

/-- Whether the names that have a number are not anonymous, have different numbers, and have numbers
that are used up. -/
structure Valid (state : Numbering) : Prop where
  named : ∀ name number, state.numbers.lookup name = some number → isAnonymous name = false
  below : ∀ name number, state.numbers.lookup name = some number → number < state.next
  distinct : ∀ name name' number, state.numbers.lookup name = some number →
    state.numbers.lookup name' = some number → name = name'

theorem valid_empty : Valid ⟨[], 0⟩ where
  named := by simp
  below := by simp
  distinct := by simp

/-- A name without a number gets the next one. -/
theorem number_fst_of_unknown (unknown : state.numbers.lookup name = none) :
    (state.number name).1 = state.next := by
  cases anonymous : isAnonymous name with
  | true => rw [number_of_anonymous anonymous]
  | false => rw [number_of_unknown anonymous unknown]

theorem next_of_unknown (unknown : state.numbers.lookup name = none) :
    (state.number name).2.next = state.next + 1 := by
  cases anonymous : isAnonymous name with
  | true => rw [number_of_anonymous anonymous]
  | false => rw [number_of_unknown anonymous unknown]

theorem next_le_number (state : Numbering) (name : String) :
    state.next ≤ (state.number name).2.next := by
  cases anonymous : isAnonymous name with
  | true =>
      rw [number_of_anonymous anonymous]
      exact Nat.le_succ _
  | false =>
      cases known : state.numbers.lookup name with
      | some number => rw [number_of_known anonymous known]
      | none =>
          rw [number_of_unknown anonymous known]
          exact Nat.le_succ _

/-- Other names keep their numbers. -/
theorem lookup_number_of_ne (differs : other ≠ name) :
    (state.number name).2.numbers.lookup other = state.numbers.lookup other := by
  cases anonymous : isAnonymous name with
  | true => rw [number_of_anonymous anonymous]
  | false =>
      cases known : state.numbers.lookup name with
      | some number => rw [number_of_known anonymous known]
      | none =>
          rw [number_of_unknown anonymous known, List.lookup_cons,
            beq_eq_false_iff_ne.mpr differs]

/-- A name that is not anonymous keeps its number. -/
theorem lookup_number_self (named : isAnonymous name = false) :
    (state.number name).2.numbers.lookup name = some (state.number name).1 := by
  cases known : state.numbers.lookup name with
  | some number => rw [number_of_known named known, known]
  | none => rw [number_of_unknown named known, List.lookup_cons_self]

theorem Valid.number_eq (valid : Valid state) {number : Nat}
    (known : state.numbers.lookup name = some number) : state.number name = (number, state) :=
  number_of_known (valid.named name number known) known

theorem Valid.number (valid : Valid state) (name : String) : Valid (state.number name).2 := by
  cases anonymous : isAnonymous name with
  | true =>
      rw [number_of_anonymous anonymous]
      exact ⟨valid.named, fun asked number known =>
        Nat.lt_succ_of_lt (valid.below asked number known), valid.distinct⟩
  | false =>
      cases known : state.numbers.lookup name with
      | some number =>
          rw [number_of_known anonymous known]
          exact valid
      | none =>
          have isOwn : ∀ asked number,
              (state.number name).2.numbers.lookup asked = some number →
                asked = name ∧ number = state.next ∨
                  asked ≠ name ∧ state.numbers.lookup asked = some number := by
            intro asked number found
            by_cases same : asked = name
            · subst same
              rw [lookup_number_self anonymous, number_fst_of_unknown known] at found
              exact .inl ⟨rfl, (Option.some.inj found).symm⟩
            · rw [lookup_number_of_ne same] at found
              exact .inr ⟨same, found⟩
          constructor
          · intro asked number found
            rcases isOwn asked number found with ⟨rfl, _⟩ | ⟨_, old⟩
            · exact anonymous
            · exact valid.named asked number old
          · intro asked number found
            rw [next_of_unknown known]
            rcases isOwn asked number found with ⟨_, rfl⟩ | ⟨_, old⟩
            · exact Nat.lt_succ_self _
            · exact Nat.lt_succ_of_lt (valid.below asked number old)
          · intro asked asked' number found found'
            rcases isOwn asked number found with ⟨rfl, rfl⟩ | ⟨_, old⟩
            · rcases isOwn asked' _ found' with ⟨rfl, _⟩ | ⟨_, old'⟩
              · rfl
              · exact absurd (valid.below asked' _ old') (Nat.lt_irrefl _)
            · rcases isOwn asked' number found' with ⟨_, rfl⟩ | ⟨_, old'⟩
              · exact absurd (valid.below asked _ old) (Nat.lt_irrefl _)
              · exact valid.distinct asked asked' number old old'

/-! ## Names in a row -/

theorem numberAll_cons (state : Numbering) (name : String) (rest : List String) :
    state.numberAll (name :: rest) =
      ((state.number name).1 :: ((state.number name).2.numberAll rest).1,
        ((state.number name).2.numberAll rest).2) := rfl

/-- Telling anonymous names apart does not change the numbers. -/
theorem numberAll_distinguishFrom (state : Numbering) (count : Nat) (names : List String) :
    state.numberAll (distinguishFrom count names) = state.numberAll names := by
  induction names generalizing state count with
  | nil => rfl
  | cons name rest ih =>
      rw [distinguishFrom]
      cases anonymous : isAnonymous name with
      | true =>
          rw [if_pos rfl, numberAll_cons, numberAll_cons, number_of_anonymous anonymous,
            number_of_anonymous (Pattern.isAnonymous_candidate count), ih]
      | false =>
          rw [if_neg Bool.false_ne_true, numberAll_cons, numberAll_cons, ih]

/-- Renaming one-to-one does not change the numbers. -/
theorem numberAll_map {names : List String} {respell : String → String} (apart : ToldApart names)
    (apart' : ToldApart (names.map respell))
    (injective : Set.InjOn respell {name | name ∈ names}) (valid : Valid state)
    (valid' : Valid state') (next : state.next = state'.next)
    (same : ∀ name ∈ names,
      state.numbers.lookup name = state'.numbers.lookup (respell name)) :
    (state.numberAll names).1 = (state'.numberAll (names.map respell)).1 := by
  induction names generalizing state state' with
  | nil => rfl
  | cons name rest ih =>
      rcases List.pairwise_cons.mp apart with ⟨once, apartRest⟩
      rcases List.pairwise_cons.mp apart' with ⟨once', apartRest'⟩
      have injectiveRest : Set.InjOn respell {name | name ∈ rest} :=
        injective.mono fun _ member => .tail _ member
      have here := same name (.head _)
      rw [List.map_cons, numberAll_cons, numberAll_cons]
      cases known : state.numbers.lookup name with
      | some number =>
          rw [valid.number_eq known, valid'.number_eq (here ▸ known)]
          exact congrArg (number :: ·) (ih apartRest apartRest' injectiveRest valid valid' next
            fun other member => same other (.tail _ member))
      | none =>
          have unknown' : state'.numbers.lookup (respell name) = none := here ▸ known
          rw [number_fst_of_unknown known, number_fst_of_unknown unknown', next]
          refine congrArg (_ :: ·) (ih apartRest apartRest' injectiveRest (valid.number name)
            (valid'.number _) ?_ fun other member => ?_)
          · rw [next_of_unknown known, next_of_unknown unknown', next]
          · by_cases again : other = name
            · subst again
              have named : isAnonymous other = false :=
                Bool.eq_false_iff.mpr fun anonymous => once other member anonymous rfl
              have named' : isAnonymous (respell other) = false :=
                Bool.eq_false_iff.mpr fun anonymous =>
                  once' _ (List.mem_map_of_mem member) anonymous rfl
              rw [lookup_number_self named, lookup_number_self named', number_fst_of_unknown known,
                number_fst_of_unknown unknown', next]
            · have again' : respell other ≠ respell name := fun respelled =>
                again (injective (.tail _ member) (.head _) respelled)
              rw [lookup_number_of_ne again, lookup_number_of_ne again']
              exact same other (.tail _ member)

/-- A name gets a number that no other name has or will get. -/
theorem Valid.number_fst_ne (valid : Valid state) (differs : other ≠ name) {number : Nat}
    (source : (state.number name).2.numbers.lookup other = some number ∨
      (state.number name).2.next ≤ number) : number ≠ (state.number name).1 := by
  rw [lookup_number_of_ne differs] at source
  cases known : state.numbers.lookup name with
  | some own =>
      rw [valid.number_eq known] at source ⊢
      rintro rfl
      rcases source with old | later
      · exact differs (valid.distinct other name number old known)
      · exact Nat.not_le_of_lt (valid.below name number known) later
  | none =>
      rw [next_of_unknown known] at source
      rw [number_fst_of_unknown known]
      rintro rfl
      rcases source with old | later
      · exact Nat.lt_irrefl _ (valid.below other _ old)
      · exact Nat.not_succ_le_self _ later

/-- The numbers of a row tell its names apart. -/
theorem exists_injOn_numbers {names : List String} (apart : ToldApart names)
    (valid : Valid state) :
    ∃ numberOf : String → Nat, (state.numberAll names).1 = names.map numberOf ∧
      Set.InjOn numberOf {name | name ∈ names} ∧
      ∀ name ∈ names, state.numbers.lookup name = some (numberOf name) ∨
        state.numbers.lookup name = none ∧ state.next ≤ numberOf name := by
  induction names generalizing state with
  | nil => exact ⟨fun _ => 0, rfl, nofun, nofun⟩
  | cons name rest ih =>
      rcases List.pairwise_cons.mp apart with ⟨once, apartRest⟩
      rcases ih apartRest (valid.number name) with ⟨numberOf, numbers, injective, source⟩
      have unchanged : ∀ other ∈ rest,
          Function.update numberOf name (state.number name).1 other = numberOf other := by
        intro other member
        by_cases again : other = name
        · subst again
          have named : isAnonymous other = false :=
            Bool.eq_false_iff.mpr fun anonymous => once other member anonymous rfl
          have own := source other member
          rw [lookup_number_self named] at own
          rw [Function.update_self]
          exact Option.some.inj (own.resolve_right fun unknown => nomatch unknown.1)
        · exact Function.update_of_ne again _ _
      have differs : ∀ other ∈ rest, other ≠ name → numberOf other ≠ (state.number name).1 :=
        fun other member another =>
          valid.number_fst_ne another ((source other member).imp_right And.right)
      refine ⟨Function.update numberOf name (state.number name).1, ?_, ?_, ?_⟩
      · rw [numberAll_cons, List.map_cons, Function.update_self, numbers,
          List.map_congr_left unchanged]
      · intro first firstMember second secondMember same
        by_cases isName : first = name <;> by_cases isName' : second = name
        · rw [isName, isName']
        · have later := (List.mem_cons.mp secondMember).resolve_left isName'
          rw [isName, Function.update_self, Function.update_of_ne isName'] at same
          exact absurd same.symm (differs second later isName')
        · have later := (List.mem_cons.mp firstMember).resolve_left isName
          rw [isName', Function.update_self, Function.update_of_ne isName] at same
          exact absurd same (differs first later isName)
        · rw [Function.update_of_ne isName, Function.update_of_ne isName'] at same
          exact injective ((List.mem_cons.mp firstMember).resolve_left isName)
            ((List.mem_cons.mp secondMember).resolve_left isName') same
      · intro other member
        by_cases isName : other = name
        · subst isName
          rw [Function.update_self]
          cases known : state.numbers.lookup other with
          | some number => exact .inl (by rw [valid.number_eq known])
          | none => exact .inr ⟨rfl, Nat.le_of_eq (number_fst_of_unknown known).symm⟩
        · have later := source other ((List.mem_cons.mp member).resolve_left isName)
          rw [lookup_number_of_ne isName] at later
          rw [Function.update_of_ne isName]
          exact later.imp_right fun ⟨unknown, after⟩ =>
            ⟨unknown, Nat.le_trans (next_le_number state name) after⟩

/-- Rows that are told apart by the same numbers are turned into each other by a bijection. -/
theorem exists_bijOn_of_map_eq {names names' : List String} {numberOf numberOf' : String → Nat}
    (injective : Set.InjOn numberOf {name | name ∈ names})
    (injective' : Set.InjOn numberOf' {name | name ∈ names'})
    (same : names.map numberOf = names'.map numberOf') :
    ∃ respell, Set.BijOn respell {name | name ∈ names} {name | name ∈ names'} ∧
      names.map respell = names' := by
  let back := Function.invFunOn numberOf' {name | name ∈ names'}
  have backOf : ∀ name ∈ names', back (numberOf' name) = name :=
    fun name member => injective'.leftInvOn_invFunOn member
  have turned : names.map (fun name => back (numberOf name)) = names' := by
    calc
      names.map (fun name => back (numberOf name)) = (names.map numberOf).map back := by
        rw [List.map_map, Function.comp_def]
      _ = names'.map (fun name => back (numberOf' name)) := by
        rw [same, List.map_map, Function.comp_def]
      _ = names' := (List.map_congr_left backOf).trans (List.map_id names')
  have ahead : ∀ name ∈ names, numberOf' (back (numberOf name)) = numberOf name := by
    intro name member
    have numbered : numberOf name ∈ names'.map numberOf' := same ▸ List.mem_map_of_mem member
    rcases List.mem_map.mp numbered with ⟨name', member', isNumber⟩
    rw [← isNumber, backOf name' member']
  refine ⟨_, ⟨?_, ?_, ?_⟩, turned⟩
  · intro name member
    change back (numberOf name) ∈ names'
    rw [← turned]
    exact List.mem_map_of_mem member
  · intro first firstMember second secondMember respelled
    apply injective firstMember secondMember
    rw [← ahead first firstMember, ← ahead second secondMember]
    exact congrArg numberOf' respelled
  · intro name' member'
    rw [← turned] at member'
    rcases List.mem_map.mp member' with ⟨name, member, isName⟩
    exact ⟨name, member, isName⟩

/-- Two rows without repeated anonymous names have the same numbers exactly if a bijection turns one
into the other. -/
theorem numberAll_eq_iff {names names' : List String} (apart : ToldApart names)
    (apart' : ToldApart names') :
    (numberAll ⟨[], 0⟩ names).1 = (numberAll ⟨[], 0⟩ names').1 ↔
      ∃ respell, Set.BijOn respell {name | name ∈ names} {name | name ∈ names'} ∧
        names.map respell = names' := by
  constructor
  · intro same
    rcases exists_injOn_numbers apart valid_empty with ⟨numberOf, numbers, injective, _⟩
    rcases exists_injOn_numbers apart' valid_empty with ⟨numberOf', numbers', injective', _⟩
    rw [numbers, numbers'] at same
    exact exists_bijOn_of_map_eq injective injective' same
  · rintro ⟨respell, bijective, rfl⟩
    exact numberAll_map apart apart' bijective.injOn valid_empty valid_empty rfl fun _ _ => rfl

end Numbering

end ClauseFlow.Shape

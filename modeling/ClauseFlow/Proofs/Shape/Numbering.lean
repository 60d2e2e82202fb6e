import ClauseFlow.Clause.Shape
import ClauseFlow.Proofs.Pattern.Parts

/-!
# Numbered variables

A shape replaces each variable by the number of its first appearance. Two rows of names with the
same numbers bind alike: values for the one row can be bound if and only if they can be bound for
the other one, and then names with the same number have the same value.
-/

namespace ClauseFlow.Shape

namespace Numbering

/-! ## Numbers of names -/

/-- The number of an appearance of a name, and the numbering after it. -/
def number (state : Numbering) (name : String) : Nat × Numbering :=
  if isAnonymous name then (state.next, { state with next := state.next + 1 })
  else
    match state.numbers.lookup name with
    | some number => (number, state)
    | none => (state.next, ⟨(name, state.next) :: state.numbers, state.next + 1⟩)

/-- The numbers of several names in a row. -/
def numberAll (state : Numbering) : List String → List Nat × Numbering
  | [] => ([], state)
  | name :: rest =>
      let (first, next) := state.number name
      let (others, last) := numberAll next rest
      (first :: others, last)

theorem numberAll_append (state : Numbering) (names names' : List String) :
    state.numberAll (names ++ names') =
      ((state.numberAll names).1 ++ ((state.numberAll names).2.numberAll names').1,
        ((state.numberAll names).2.numberAll names').2) := by
  induction names generalizing state with
  | nil => rfl
  | cons name rest ih =>
      simp only [List.cons_append, numberAll]
      rw [ih]

theorem numberAll_length (state : Numbering) (names : List String) :
    (state.numberAll names).1.length = names.length := by
  induction names generalizing state with
  | nil => rfl
  | cons name rest ih => exact congrArg Nat.succ (ih (state.number name).2)

theorem length_eq_of_numberAll {state state' : Numbering} {names names' : List String}
    (sameNumbers : (state.numberAll names).1 = (state'.numberAll names').1) :
    names.length = names'.length := by
  rw [← numberAll_length state, sameNumbers, numberAll_length]

variable {state : Numbering} {name : String}

theorem number_of_anonymous (anonymous : isAnonymous name = true) :
    state.number name = (state.next, { state with next := state.next + 1 }) :=
  if_pos anonymous

theorem number_of_known (named : isAnonymous name = false) {number : Nat}
    (known : state.numbers.lookup name = some number) : state.number name = (number, state) := by
  simp [Numbering.number, named, known]

theorem number_of_unknown (named : isAnonymous name = false)
    (unknown : state.numbers.lookup name = none) :
    state.number name = (state.next, ⟨(name, state.next) :: state.numbers, state.next + 1⟩) := by
  simp [Numbering.number, named, unknown]

/-- A name that does not get the next number has its number already. -/
theorem known_of_ne_next (old : (state.number name).1 ≠ state.next) :
    isAnonymous name = false ∧ state.numbers.lookup name = some (state.number name).1 ∧
      (state.number name).2 = state := by
  cases anonymous : isAnonymous name with
  | true =>
      rw [number_of_anonymous anonymous] at old
      exact absurd rfl old
  | false =>
      cases known : state.numbers.lookup name with
      | some number =>
          rw [number_of_known anonymous known]
          exact ⟨rfl, rfl, rfl⟩
      | none =>
          rw [number_of_unknown anonymous known] at old
          exact absurd rfl old

end Numbering

theorem variableOf_apply (name : String) (state : Numbering) :
    variableOf name state =
      (.node "var" [.integer (state.number name).1], (state.number name).2) := by
  rw [variableOf]
  cases anonymous : isAnonymous name with
  | true =>
      rw [Numbering.number_of_anonymous anonymous]
      rfl
  | false =>
      cases known : state.numbers.lookup name with
      | some number =>
          rw [Numbering.number_of_known anonymous known]
          simp [known]
      | none =>
          rw [Numbering.number_of_unknown anonymous known]
          simp [known]

/-! ## Numbers and bindings -/

/-- Whether a numbering and bindings know the same names. -/
structure Covers (state : Numbering) (bindings : Bindings) : Prop where
  below : ∀ name number, state.numbers.lookup name = some number → number < state.next
  known : ∀ name, state.numbers.lookup name = none ↔ bindings.lookup name = none

/-- Whether names with the same number in two numberings are bound to the same value. -/
structure Corresponds (state state' : Numbering) (bindings bindings' : Bindings) : Prop where
  covers : Covers state bindings
  covers' : Covers state' bindings'
  next : state.next = state'.next
  same : ∀ name name' number, state.numbers.lookup name = some number →
    state'.numbers.lookup name' = some number → bindings.lookup name = bindings'.lookup name'

theorem corresponds_empty : Corresponds ⟨[], 0⟩ ⟨[], 0⟩ [] [] where
  covers := ⟨by simp, by simp⟩
  covers' := ⟨by simp, by simp⟩
  next := rfl
  same := by simp

variable {state state' : Numbering} {bindings bindings' : Bindings} {name name' : String}

/-- Whether a numbering and bindings have been extended by one new number, and by at most one name
that has this number and this value. -/
structure Extends (state after : Numbering) (bindings extended : Bindings) (value : Value) :
    Prop where
  next : after.next = state.next + 1
  change : ∀ name,
    after.numbers.lookup name = state.numbers.lookup name ∧
        extended.lookup name = bindings.lookup name ∨
      after.numbers.lookup name = some state.next ∧ extended.lookup name = some value

/-- A name that gets the next number can be bound. -/
theorem Covers.bind_new (covers : Covers state bindings)
    (isNew : (state.number name).1 = state.next) (value : Value) :
    ∃ extended, bindings.bind name value = some extended ∧
      Extends state (state.number name).2 bindings extended value := by
  cases anonymous : isAnonymous name with
  | true =>
      rw [Numbering.number_of_anonymous anonymous]
      exact ⟨bindings, Bindings.bind_of_anonymous anonymous _ _, rfl, fun asked => .inl ⟨rfl, rfl⟩⟩
  | false =>
      cases known : state.numbers.lookup name with
      | some number =>
          rw [Numbering.number_of_known anonymous known] at isNew
          exact absurd isNew (Nat.ne_of_lt (covers.below name number known))
      | none =>
          have unbound := (covers.known name).mp known
          have bound := Bindings.bind_of_unbound anonymous unbound value
          rw [Numbering.number_of_unknown anonymous known]
          refine ⟨_, bound, rfl, fun asked => ?_⟩
          by_cases same : asked = name
          · subst same
            refine .inr ⟨List.lookup_cons_self, ?_⟩
            rw [Bindings.lookup_bind_self anonymous bound, unbound]
            rfl
          · refine .inl ⟨?_, Bindings.lookup_bind_of_ne bound same⟩
            rw [List.lookup_cons, beq_eq_false_iff_ne.mpr same]

theorem Covers.extend (covers : Covers state bindings) {after : Numbering} {extended : Bindings}
    {value : Value} (grown : Extends state after bindings extended value) :
    Covers after extended := by
  constructor
  · intro name number known
    rw [grown.next]
    rcases grown.change name with ⟨same, _⟩ | ⟨isNext, _⟩
    · exact Nat.lt_succ_of_lt (covers.below name number (same ▸ known))
    · rw [isNext] at known
      cases known
      exact Nat.lt_succ_self _
  · intro name
    rcases grown.change name with ⟨same, same'⟩ | ⟨isNext, isValue⟩
    · rw [same, same']
      exact covers.known name
    · rw [isNext, isValue]
      exact ⟨nofun, nofun⟩

theorem Corresponds.extend (corresponds : Corresponds state state' bindings bindings')
    {after after' : Numbering} {extended extended' : Bindings} {value : Value}
    (grown : Extends state after bindings extended value)
    (grown' : Extends state' after' bindings' extended' value) :
    Corresponds after after' extended extended' where
  covers := corresponds.covers.extend grown
  covers' := corresponds.covers'.extend grown'
  next := by rw [grown.next, grown'.next, corresponds.next]
  same := by
    intro name name' number known known'
    rcases grown.change name with ⟨same, sameValue⟩ | ⟨isNext, isValue⟩
    · rcases grown'.change name' with ⟨same', sameValue'⟩ | ⟨isNext', _⟩
      · rw [sameValue, sameValue']
        exact corresponds.same name name' number (same ▸ known) (same' ▸ known')
      · have early := corresponds.covers.below name number (same ▸ known)
        rw [isNext', ← corresponds.next] at known'
        cases known'
        exact absurd early (Nat.lt_irrefl _)
    · rcases grown'.change name' with ⟨same', _⟩ | ⟨_, isValue'⟩
      · have early := corresponds.covers'.below name' number (same' ▸ known')
        rw [isNext, corresponds.next] at known
        cases known
        exact absurd early (Nat.lt_irrefl _)
      · rw [isValue, isValue']

/-- Whether two attempts to bind have the same success, with corresponding bindings. -/
inductive Agree (state state' : Numbering) : Option Bindings → Option Bindings → Prop where
  | none : Agree state state' none none
  | some {bindings bindings' : Bindings} : Corresponds state state' bindings bindings' →
      Agree state state' (some bindings) (some bindings')

/-- Names with the same number can be bound to the same values. -/
theorem Corresponds.bind (corresponds : Corresponds state state' bindings bindings')
    (sameNumber : (state.number name).1 = (state'.number name').1) (value : Value) :
    Agree (state.number name).2 (state'.number name').2 (bindings.bind name value)
      (bindings'.bind name' value) := by
  by_cases isNew : (state.number name).1 = state.next
  · have isNew' : (state'.number name').1 = state'.next := by
      rw [← sameNumber, isNew, corresponds.next]
    rcases corresponds.covers.bind_new isNew value with ⟨extended, bound, grown⟩
    rcases corresponds.covers'.bind_new isNew' value with ⟨extended', bound', grown'⟩
    rw [bound, bound']
    exact .some (corresponds.extend grown grown')
  · have isOld' : (state'.number name').1 ≠ state'.next := by
      rw [← sameNumber, ← corresponds.next]
      exact isNew
    rcases Numbering.known_of_ne_next isNew with ⟨named, known, unchanged⟩
    rcases Numbering.known_of_ne_next isOld' with ⟨named', known', unchanged'⟩
    have sameValue := corresponds.same name name' _ known (sameNumber ▸ known')
    rw [unchanged, unchanged']
    cases bound : bindings.lookup name with
    | none =>
        rw [(corresponds.covers.known name).mpr bound] at known
        cases known
    | some first =>
        rw [Bindings.bind_of_bound named bound, Bindings.bind_of_bound named' (sameValue ▸ bound)]
        split
        · exact .some corresponds
        · exact .none

/-- Rows of names with the same numbers can be bound to the same values. -/
theorem Corresponds.bindAll {names names' : List String}
    (corresponds : Corresponds state state' bindings bindings')
    (sameNumbers : (state.numberAll names).1 = (state'.numberAll names').1)
    {values : List Value} (sameLength : values.length = names.length) :
    Agree (state.numberAll names).2 (state'.numberAll names').2
      (bindings.bindAll (names.zip values)) (bindings'.bindAll (names'.zip values)) := by
  induction names generalizing names' state state' bindings bindings' values with
  | nil =>
      cases names' with
      | nil => exact .some corresponds
      | cons name' rest' => cases sameNumbers
  | cons name rest ih =>
      cases names' with
      | nil => cases sameNumbers
      | cons name' rest' =>
          cases values with
          | nil => cases sameLength
          | cons value others =>
              rcases List.cons.inj sameNumbers with ⟨sameFirst, sameRest⟩
              have bound := corresponds.bind sameFirst value
              simp only [List.zip_cons_cons, Bindings.bindAll]
              generalize bindings.bind name value = extended? at bound
              generalize bindings'.bind name' value = extended?' at bound
              cases bound with
              | none => exact .none
              | some next => exact ih next sameRest (Nat.succ.inj sameLength)

end ClauseFlow.Shape

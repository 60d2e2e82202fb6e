import ClauseFlow.Eval.Expr
import ClauseFlow.Proofs.Pattern.Parts
import ClauseFlow.Proofs.Run.Safety

/-!
# Closures in values

What holds of all closures in some values holds of all closures in what is made of them: patterns
take values apart, and builtins put values together, but neither makes closures. So a condition on
closures that evaluation keeps is kept throughout a run.
-/

namespace ClauseFlow

namespace Value

/-- A condition on the parameters of a closure, its body, and the environment it was made in. -/
abbrev ClosureTest := List String → Expr → Environment → Prop

/-- Whether every closure in a value, the frames of closures included, satisfies a condition. Keys
are left out: a closure is no key. -/
inductive AllClosures (test : ClosureTest) : Value → Prop where
  | nil : AllClosures test .nil
  | boolean (value : Bool) : AllClosures test (.boolean value)
  | integer (value : Int) : AllClosures test (.integer value)
  | decimal (value : Binary64) : AllClosures test (.decimal value)
  | undefined (mark : Mark) : AllClosures test (.undefined mark)
  | text (value : String) : AllClosures test (.text value)
  | atom (name : String) : AllClosures test (.atom name)
  | recordType (name : String) : AllClosures test (.recordType name)
  | function (name : String) (home : Nat) : AllClosures test (.function name home)
  | result (tag : ResultTag) {inner : Value} :
      AllClosures test inner → AllClosures test (.result tag inner)
  | tuple {elements : List Value} :
      (∀ element ∈ elements, AllClosures test element) → AllClosures test (.tuple elements)
  | list {elements : List Value} :
      (∀ element ∈ elements, AllClosures test element) → AllClosures test (.list elements)
  | map {entries : Entries} :
      (∀ entry ∈ entries, AllClosures test entry.2) → AllClosures test (.map entries)
  | record (tag : String) {entries : Entries} :
      (∀ entry ∈ entries, AllClosures test entry.2) → AllClosures test (.record tag entries)
  | closure (level : Nat) (origin : Origin) {params : List String} {body : Expr}
      {frames : List Frame} :
      test params body ⟨frames, level⟩ →
      (∀ frame ∈ frames, ∀ binding ∈ frame, AllClosures test binding.2) →
      AllClosures test (.closure params body frames level origin)

variable {test : ClosureTest}

/-! ## First-order values -/

mutual

/-- Whether a value has no closure and no function in it. -/
def isFirstOrder : Value → Bool
  | .closure .. | .function .. => false
  | .result _ inner => isFirstOrder inner
  | .tuple elements | .list elements => allFirstOrder elements
  | .map entries | .record _ entries => entriesFirstOrder entries
  | .nil | .boolean _ | .integer _ | .decimal _ | .undefined _ | .text _ | .atom _
  | .recordType _ => true

def allFirstOrder : List Value → Bool
  | [] => true
  | value :: rest => isFirstOrder value && allFirstOrder rest

def entriesFirstOrder : List (Value × Value) → Bool
  | [] => true
  | (key, value) :: rest => isFirstOrder key && isFirstOrder value && entriesFirstOrder rest

end

mutual

/-- A first-order value has no closure that could fail a condition. -/
theorem allClosures_of_isFirstOrder : ∀ {value : Value}, value.isFirstOrder = true →
    AllClosures test value
  | .nil, _ => .nil
  | .boolean value, _ => .boolean value
  | .integer value, _ => .integer value
  | .decimal value, _ => .decimal value
  | .undefined mark, _ => .undefined mark
  | .text value, _ => .text value
  | .atom name, _ => .atom name
  | .recordType name, _ => .recordType name
  | .result tag _, plain => .result tag (allClosures_of_isFirstOrder plain)
  | .tuple _, plain => .tuple (forall_of_allFirstOrder plain)
  | .list _, plain => .list (forall_of_allFirstOrder plain)
  | .map _, plain => .map (forall_of_entriesFirstOrder plain)
  | .record tag _, plain => .record tag (forall_of_entriesFirstOrder plain)
  | .closure .., plain | .function .., plain => by simp [isFirstOrder] at plain

theorem forall_of_allFirstOrder : ∀ {values : List Value}, allFirstOrder values = true →
    ∀ value ∈ values, AllClosures test value
  | [], _ => nofun
  | value :: rest, plain => by
      simp only [allFirstOrder, Bool.and_eq_true] at plain
      exact List.forall_mem_cons.mpr
        ⟨allClosures_of_isFirstOrder plain.1, forall_of_allFirstOrder plain.2⟩

theorem forall_of_entriesFirstOrder : ∀ {entries : Entries}, entriesFirstOrder entries = true →
    ∀ entry ∈ entries, AllClosures test entry.2
  | [], _ => nofun
  | (key, value) :: rest, plain => by
      simp only [entriesFirstOrder, Bool.and_eq_true] at plain
      exact List.forall_mem_cons.mpr
        ⟨allClosures_of_isFirstOrder plain.1.2, forall_of_entriesFirstOrder plain.2⟩

end

/-! ## Entries -/

theorem AllClosures.entriesOf {value : Value} (holds : AllClosures test value) {entries : Entries}
    (found : Pattern.entriesOf? value = some entries) :
    ∀ entry ∈ entries, AllClosures test entry.2 := by
  cases holds with
  | map each =>
      cases found
      exact each
  | record tag each =>
      cases found
      exact each
  | _ => cases found

theorem allClosures_find {entries : Entries} (each : ∀ entry ∈ entries, AllClosures test entry.2)
    {key value : Value} (found : find? key entries = some value) : AllClosures test value := by
  induction entries with
  | nil => cases found
  | cons entry rest ih =>
      rcases List.forall_mem_cons.mp each with ⟨first, others⟩
      simp only [find?] at found
      split at found
      · cases found
        exact first
      · exact ih others found

theorem allClosures_insert {entries : Entries} (each : ∀ entry ∈ entries, AllClosures test entry.2)
    (key : Value) {value : Value} (holds : AllClosures test value) :
    ∀ entry ∈ insert key value entries, AllClosures test entry.2 := by
  induction entries with
  | nil => exact List.forall_mem_singleton.mpr holds
  | cons entry rest ih =>
      rcases List.forall_mem_cons.mp each with ⟨first, others⟩
      simp only [insert]
      split
      · exact List.forall_mem_cons.mpr ⟨holds, others⟩
      · exact List.forall_mem_cons.mpr ⟨first, ih others⟩

theorem allClosures_insertAll {entries added : Entries}
    (each : ∀ entry ∈ entries, AllClosures test entry.2)
    (eachAdded : ∀ entry ∈ added, AllClosures test entry.2) :
    ∀ entry ∈ insertAll entries added, AllClosures test entry.2 := by
  induction added generalizing entries with
  | nil => exact each
  | cons entry rest ih =>
      rcases List.forall_mem_cons.mp eachAdded with ⟨first, others⟩
      exact ih (allClosures_insert each entry.1 first) others

end Value

/-! ## Taking values apart -/

namespace Pattern

variable {test : Value.ClosureTest}

mutual

/-- The parts of a value have no other closures than the value. -/
theorem allClosures_parts : ∀ {pattern : Pattern} {value : Value} {values : List Value},
    value.AllClosures test → parts pattern value = some values →
      ∀ part ∈ values, part.AllClosures test
  | .wildcard _, _, _, _, taken => by cases taken; nofun
  | .binding _ _, _, _, holds, taken => by
      cases taken
      exact List.forall_mem_singleton.mpr holds
  | .literal constant _, value, _, _, taken => by
      simp only [parts] at taken
      split at taken
      · cases taken; nofun
      · cases taken
  | .tuple patterns _, value, _, holds, taken => by
      cases holds with
      | tuple each => exact allClosures_partsOfAll each taken
      | _ => cases taken
  | .list patterns none _, value, _, holds, taken => by
      cases holds with
      | list each => exact allClosures_partsOfAll each taken
      | _ => cases taken
  | .list patterns (some tail) _, value, _, holds, taken => by
      cases holds with
      | list each =>
          simp only [parts] at taken
          split at taken
          · cases taken
          · rcases Option.bind_eq_some_iff.mp taken with ⟨first, takenFirst, taken⟩
            rcases Option.bind_eq_some_iff.mp taken with ⟨rest, takenRest, taken⟩
            cases taken
            have eachRest : ∀ element ∈ List.drop patterns.length _,
                Value.AllClosures test element :=
              fun element member => each element (List.mem_of_mem_drop member)
            exact List.forall_mem_append.mpr
              ⟨allClosures_partsOfAll (fun element member => each element (List.mem_of_mem_take member))
                takenFirst, allClosures_parts (.list eachRest) takenRest⟩
      | _ => cases taken
  | .map patterns _, value, _, holds, taken => by
      simp only [parts] at taken
      rcases Option.bind_eq_some_iff.mp taken with ⟨entries, found, taken⟩
      exact allClosures_partsOfEntries (holds.entriesOf found) taken
  | .record tag patterns _, value, _, holds, taken => by
      cases holds with
      | record tag' each =>
          simp only [parts] at taken
          split at taken
          · exact allClosures_partsOfEntries each taken
          · cases taken
      | _ => cases taken
  | .result tag inner _, value, _, holds, taken => by
      cases holds with
      | result tag' payload =>
          simp only [parts] at taken
          split at taken
          · exact allClosures_parts payload taken
          · cases taken
      | _ => cases taken
  | .named inner name _, value, _, holds, taken => by
      simp only [parts] at taken
      rcases Option.bind_eq_some_iff.mp taken with ⟨first, takenFirst, taken⟩
      cases taken
      exact List.forall_mem_append.mpr
        ⟨allClosures_parts holds takenFirst, List.forall_mem_singleton.mpr holds⟩

theorem allClosures_partsOfAll : ∀ {patterns : List Pattern} {elements values : List Value},
    (∀ element ∈ elements, element.AllClosures test) →
      partsOfAll patterns elements = some values → ∀ part ∈ values, part.AllClosures test
  | [], elements, _, _, taken => by
      cases elements with
      | nil => cases taken; nofun
      | cons => cases taken
  | pattern :: rest, elements, _, each, taken => by
      cases elements with
      | nil => cases taken
      | cons element others =>
          rcases List.forall_mem_cons.mp each with ⟨first, eachOther⟩
          simp only [partsOfAll] at taken
          rcases Option.bind_eq_some_iff.mp taken with ⟨firstParts, takenFirst, taken⟩
          rcases Option.bind_eq_some_iff.mp taken with ⟨later, takenLater, taken⟩
          cases taken
          exact List.forall_mem_append.mpr
            ⟨allClosures_parts first takenFirst, allClosures_partsOfAll eachOther takenLater⟩

theorem allClosures_partsOfEntries : ∀ {patterns : List (String × Pattern)}
    {entries : Value.Entries} {values : List Value},
    (∀ entry ∈ entries, entry.2.AllClosures test) →
      partsOfEntries patterns entries = some values → ∀ part ∈ values, part.AllClosures test
  | [], _, _, _, taken => by cases taken; nofun
  | (key, pattern) :: rest, _, _, each, taken => by
      simp only [partsOfEntries] at taken
      rcases Option.bind_eq_some_iff.mp taken with ⟨value, found, taken⟩
      rcases Option.bind_eq_some_iff.mp taken with ⟨firstParts, takenFirst, taken⟩
      rcases Option.bind_eq_some_iff.mp taken with ⟨later, takenLater, taken⟩
      cases taken
      exact List.forall_mem_append.mpr
        ⟨allClosures_parts (Value.allClosures_find each found) takenFirst,
          allClosures_partsOfEntries each takenLater⟩

end

/-- Binding adds no closures that the bound values do not have. -/
theorem allClosures_bindAll {bindings extended : Bindings} {pairs : List (String × Value)}
    (bound : bindings.bindAll pairs = some extended)
    (each : ∀ binding ∈ bindings, binding.2.AllClosures test)
    (eachPair : ∀ pair ∈ pairs, pair.2.AllClosures test) :
    ∀ binding ∈ extended, binding.2.AllClosures test := by
  induction pairs generalizing bindings with
  | nil =>
      cases bound
      exact each
  | cons pair rest ih =>
      rcases List.forall_mem_cons.mp eachPair with ⟨first, others⟩
      rcases Option.bind_eq_some_iff.mp bound with ⟨next, boundHere, boundLater⟩
      refine ih boundLater ?_ others
      simp only [Bindings.bind] at boundHere
      split at boundHere
      · cases boundHere
        exact each
      · split at boundHere
        · split at boundHere
          · cases boundHere
            exact each
          · cases boundHere
        · cases boundHere
          exact List.forall_mem_append.mpr ⟨each, List.forall_mem_singleton.mpr first⟩

/-- The bindings of parameters have no other closures than the arguments. -/
theorem allClosures_fitParams {params : List Pattern} {arguments : List Value}
    {bindings : Bindings} (fits : fitParams params arguments = some bindings)
    (each : ∀ argument ∈ arguments, argument.AllClosures test) :
    ∀ binding ∈ bindings, binding.2.AllClosures test := by
  rw [fitParams_eq_bindAll] at fits
  rcases Option.bind_eq_some_iff.mp fits with ⟨values, taken, bound⟩
  refine allClosures_bindAll bound nofun fun pair member => ?_
  exact allClosures_partsOfAll each taken pair.2 (List.of_mem_zip member).2

end Pattern

/-! ## Builtins -/

namespace Builtin

open Run (Safe)
open Value (AllClosures)

variable {test : Value.ClosureTest} {allowed : RuntimeError → Prop}
  (permits : ∀ error : RuntimeError, ¬error.IsAboutName → allowed error)

include permits

theorem refuse_safe {α : Type} {good : α → Prop} (builtin : Builtin) (value : Value) :
    Safe allowed good (refuse builtin value : Run α) :=
  Safe.raise (permits _ id)

theorem number_safe (builtin : Builtin) (value : Value) :
    Safe allowed (fun _ => True) (builtin.number value) := by
  rw [number]
  split
  · exact Safe.pure trivial
  · exact refuse_safe permits _ _

theorem ordered_safe (builtin : Builtin) (accepts : Ordering → Bool) (first second : Value) :
    Safe allowed (fun _ => True) (builtin.ordered accepts first second) := by
  rw [ordered]
  split
  · exact Safe.pure trivial
  · exact refuse_safe permits _ _

theorem integer_safe (builtin : Builtin) (value : Value) :
    Safe allowed (fun _ => True) (builtin.integer value) := by
  rw [integer.eq_def]
  split
  · exact Safe.pure trivial
  · exact refuse_safe permits _ _

theorem dividend_safe (builtin : Builtin) (first second : Value) :
    Safe allowed (fun _ => True) (builtin.dividend first second) := by
  rw [dividend]
  apply (integer_safe permits builtin first).bind
  intro left _
  apply (integer_safe permits builtin second).bind
  intro right _
  apply Safe.ite
  · intro _
    exact Safe.raise (permits _ id)
  · intro _
    exact Safe.pure trivial

theorem entries_safe (builtin : Builtin) {value : Value} (holds : AllClosures test value) :
    Safe allowed (fun found => ∀ entry ∈ found, AllClosures test entry.2)
      (builtin.entries value) := by
  cases holds with
  | map each => exact Safe.pure each
  | record _ each => exact Safe.pure each
  | _ => exact refuse_safe permits _ _

omit permits in
theorem key_safe (value : Value) : Safe allowed (fun _ => True) (key value) := by
  apply Safe.ite
  · intro _
    exact Safe.pure trivial
  · intro _
    exact Safe.fault _

omit permits in
theorem shown_safe (value : Value) : Safe allowed (AllClosures test) (shown value) := by
  rw [shown]
  split
  · exact Safe.pure (.text _)
  · exact Safe.fault _

omit permits in
theorem allClosures_withEntries {entries : Value.Entries}
    (each : ∀ entry ∈ entries, AllClosures test entry.2) (value : Value) :
    AllClosures test (withEntries value entries) := by
  rw [withEntries.eq_def]
  split
  · exact .record _ each
  · exact .map each

/-- Handling an error is as safe as the handler. -/
theorem handle_safe {invoke : Invoke}
    (safe : ∀ callee arguments, AllClosures test callee →
      (∀ argument ∈ arguments, AllClosures test argument) →
      Safe allowed (AllClosures test) (invoke none callee arguments))
    {result handler : Value} (holds : AllClosures test result)
    (holdsHandler : AllClosures test handler) :
    Safe allowed (AllClosures test) (handle invoke result handler) := by
  rw [handle.eq_def]
  apply Safe.ite
  · intro _
    exact refuse_safe permits _ _
  · intro _
    split
    · exact Safe.pure holds
    · cases holds with
      | result tag payload =>
          exact safe handler _ holdsHandler (List.forall_mem_singleton.mpr payload)
    · apply Safe.ite
      · intro _
        exact Safe.pure holds
      · intro _
        exact Safe.raise (permits _ id)

omit permits in
theorem toValue_safe (home : Nat) (number : Value.Number) :
    Safe allowed (AllClosures test) (number.toValue home) := by
  rw [Value.Number.toValue.eq_def]
  split
  · exact Safe.pure (.integer _)
  · exact (Run.safe_mark home).bind fun mark _ => Safe.pure (.undefined mark)
  · exact Safe.pure (.decimal _)

/-- A builtin is as safe as the calls it makes, and makes no closures. -/
theorem call_safe (home : Nat) {invoke : Invoke}
    (safe : ∀ callee arguments, AllClosures test callee →
      (∀ argument ∈ arguments, AllClosures test argument) →
      Safe allowed (AllClosures test) (invoke none callee arguments))
    (builtin : Builtin) {arguments : List Value}
    (each : ∀ argument ∈ arguments, AllClosures test argument) :
    Safe allowed (AllClosures test) (builtin.call home invoke arguments) := by
  rw [call.eq_def]
  split
  -- length
  · split
    · exact Safe.pure (.integer _)
    · exact refuse_safe permits _ _
  -- hd
  · cases each _ (.head _) with
    | list elements => exact Safe.pure (elements _ (.head _))
  · exact refuse_safe permits _ _
  -- tl
  · cases each _ (.head _) with
    | list elements =>
        exact Safe.pure (.list fun element member => elements element (.tail _ member))
  · exact refuse_safe permits _ _
  -- elem
  · cases each _ (.head _) with
    | tuple elements =>
        split
        · rename_i found selected
          split at selected
          · exact Safe.pure (elements _ (List.mem_of_getElem? selected))
          · cases selected
        · exact refuse_safe permits _ _
  · exact refuse_safe permits _ _
  · exact refuse_safe permits _ _
  -- abs
  · exact (number_safe permits _ _).bind fun number _ => toValue_safe home _
  -- min, max
  · apply (ordered_safe permits _ _ _ _).bind
    intro first _
    split
    · exact Safe.pure (each _ (.head _))
    · exact Safe.pure (each _ (.tail _ (.head _)))
  · apply (ordered_safe permits _ _ _ _).bind
    intro first _
    split
    · exact Safe.pure (each _ (.head _))
    · exact Safe.pure (each _ (.tail _ (.head _)))
  -- div, rem
  · exact (dividend_safe permits _ _ _).bind fun pair _ => Safe.pure (.integer _)
  · exact (dividend_safe permits _ _ _).bind fun pair _ => Safe.pure (.integer _)
  -- round
  · apply (number_safe permits _ _).bind
    intro number _
    exact (Run.safe_ofExcept _).bind fun whole _ => Safe.pure (.integer _)
  -- to_string, inspect
  · exact Safe.pure (.text _)
  · exact Safe.pure (.text _)
  · exact shown_safe _
  · exact shown_safe _
  -- map_get
  · apply Safe.ite
    · intro _
      exact Safe.bind (Safe.raise (permits _ id)) fun _ => False.elim
    · intro _
      apply (entries_safe permits _ (each _ (.head _))).bind
      intro entries eachEntry
      apply (key_safe _).bind
      intro asked _
      split
      · exact Safe.pure (Value.allClosures_find eachEntry ‹_›)
      · exact Safe.pure (each _ (.tail _ (.tail _ (.head _))))
      · exact Safe.raise (permits _ id)
  -- put
  · apply (entries_safe permits _ (each _ (.head _))).bind
    intro entries eachEntry
    apply (key_safe _).bind
    intro changed _
    exact Safe.pure (allClosures_withEntries
      (Value.allClosures_insert eachEntry changed (each _ (.tail _ (.tail _ (.head _))))) _)
  -- merge
  · apply (entries_safe permits _ (each _ (.head _))).bind
    intro entries eachEntry
    apply (entries_safe permits _ (each _ (.tail _ (.head _)))).bind
    intro added eachAdded
    exact Safe.pure (allClosures_withEntries (Value.allClosures_insertAll eachEntry eachAdded) _)
  -- handle_error
  · exact handle_safe permits safe (each _ (.head _)) (each _ (.tail _ (.head _)))
  -- from_maybe
  · exact Safe.pure (.result _ (each _ (.tail _ (.head _))))
  · exact Safe.pure (.result _ (each _ (.head _)))
  -- assert_type
  · split
    · apply Safe.ite
      · intro _
        exact Safe.pure (.result _ (each _ (.tail _ (.head _))))
      · intro _
        exact Safe.pure (.result _ (each _ (.tail _ (.tail _ (.head _)))))
    · exact Safe.pure (.result _ (each _ (.tail _ (.tail _ (.head _)))))
  -- error
  · exact Safe.pure (.result _ (each _ (.head _)))
  · apply Safe.ite
    · intro _
      exact Safe.raise (permits _ id)
    · intro _
      exact Safe.pure (.result _ (.tuple each))
  -- predicates
  · split
    · exact Safe.pure (.boolean _)
    · exact Safe.raise (permits _ id)
  · exact Safe.raise (permits _ id)

end Builtin
end ClauseFlow

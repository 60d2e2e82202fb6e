import ClauseFlow.Eval.Builtin
import ClauseFlow.Proofs.Run.Resemblance

/-!
# Builtins on values that resemble each other

A builtin answers values that resemble each other with values that do, as long as the calls that it
makes do so: it takes values apart, compares and shows them, but looks no name up and makes no
closure.
-/

namespace ClauseFlow

open Run (Corresponds Concurs)
open Value (Resembles AllResemble PairsResemble)

variable {ledger : Ledger}

/-- A number turns into the same value in both runs. -/
theorem Value.Number.toValue_corresponds (home : Nat) (number : Value.Number) :
    Corresponds Resembles ledger (number.toValue home) (number.toValue home) := by
  cases number with
  | integer value => exact .pure (.integer value)
  | decimal value =>
      simp only [Value.Number.toValue]
      split
      · cases ‹_›
      · apply (Corresponds.mark home).bind
        rintro grown _ mark _ rfl
        exact .pure (.undefined mark)
      · exact .pure (.decimal _)

namespace Builtin

variable {builtin : Builtin} {value value' first first' second second' third third' : Value}

/-! ## Checked arguments -/

theorem refuse_corresponds {α β : Type} {related : Ledger → α → β → Prop}
    (resembles : Resembles ledger value value') :
    Corresponds related ledger (refuse builtin value : Run α) (refuse builtin value' : Run β) :=
  .raise rfl (.cons resembles .nil)

theorem number_corresponds (resembles : Resembles ledger value value') :
    Concurs ledger (builtin.number value) (builtin.number value') := by
  simp only [number, resembles.number?_eq]
  split
  · exact .pure rfl
  · exact refuse_corresponds resembles

theorem ordered_corresponds (accepts : Ordering → Bool)
    (resembles : Resembles ledger first first')
    (resemblesSecond : Resembles ledger second second') :
    Concurs ledger (builtin.ordered accepts first second)
      (builtin.ordered accepts first' second') := by
  simp only [ordered, resembles.number?_eq, resemblesSecond.number?_eq]
  split
  · exact .pure rfl
  · exact refuse_corresponds (.tuple (.cons resembles (.cons resemblesSecond .nil)))

theorem integer_corresponds (resembles : Resembles ledger value value') :
    Concurs ledger (builtin.integer value) (builtin.integer value') := by
  have known := resembles
  cases resembles with
  | integer value => exact .pure rfl
  | _ => exact refuse_corresponds known

theorem dividend_corresponds (resembles : Resembles ledger first first')
    (resemblesSecond : Resembles ledger second second') :
    Concurs ledger (builtin.dividend first second) (builtin.dividend first' second') := by
  apply (integer_corresponds resembles).bind
  rintro grown grows left _ rfl
  apply (integer_corresponds (resemblesSecond.mono grows)).bind
  rintro grown' _ right _ rfl
  exact .ite (fun _ => .raise rfl .nil) fun _ => .pure rfl

theorem entries_corresponds (resembles : Resembles ledger value value') :
    Corresponds PairsResemble ledger (builtin.entries value) (builtin.entries value') := by
  have known := resembles
  cases resembles with
  | map each => exact .pure each
  | record tag each => exact .pure each
  | _ => exact refuse_corresponds known

/-- A key is one value in both runs. -/
theorem key_corresponds (resembles : Resembles ledger value value') :
    Corresponds (fun ledger key key' => key = key' ∧ Resembles ledger key key') ledger (key value)
      (key value') := by
  simp only [key, ← resembles.isKey_eq]
  split
  · exact .pure ⟨resembles.eq_of_isKey ‹_›, resembles⟩
  · exact .fault _

theorem shown_corresponds (resembles : Resembles ledger value value') :
    Corresponds Resembles ledger (shown value) (shown value') := by
  simp only [shown, resembles.print?_eq]
  split
  · exact .pure (.text _)
  · exact .fault _

theorem withEntries_resembles (resembles : Resembles ledger value value')
    {entries entries' : Value.Entries} (each : PairsResemble ledger entries entries') :
    Resembles ledger (withEntries value entries) (withEntries value' entries') := by
  cases resembles with
  | record tag => exact .record tag each
  | _ => exact .map each

theorem size?_eq (resembles : Resembles ledger value value') : size? value = size? value' := by
  cases resembles with
  | tuple each => simp only [size?, each.length_eq]
  | list each => simp only [size?, each.length_eq]
  | map each => simp only [size?, each.length_eq]
  | _ => rfl

theorem tagName?_eq (resembles : Resembles ledger value value') :
    tagName? value = tagName? value' := by
  cases resembles <;> rfl

theorem predicate?_eq (builtin : Builtin) (resembles : Resembles ledger value value') :
    builtin.predicate? value = builtin.predicate? value' := by
  cases resembles with
  | result tag => cases tag <;> cases builtin <;> rfl
  | _ => cases builtin <;> rfl

/-! ## Calls -/

/-- How calls back are made: on values that resemble each other they correspond, now and later. -/
def InvokesAlike (ledger : Ledger) (invoke : Invoke) : Prop :=
  ∀ grown, ledger ≤ grown → ∀ callee callee' arguments arguments', Resembles grown callee callee' →
    AllResemble grown arguments arguments' →
      Corresponds Resembles grown (invoke none callee arguments) (invoke none callee' arguments')

variable {invoke : Invoke} {home : Nat}

theorem handle_corresponds (alike : InvokesAlike ledger invoke)
    (resembles : Resembles ledger first first')
    (resemblesHandler : Resembles ledger second second') :
    Corresponds Resembles ledger (handle invoke first second) (handle invoke first' second') := by
  have known := resembles
  have refused : Corresponds Resembles ledger
      (if first.isOkAtom then return first else Run.raise (.noResultToHandle first))
      (if first'.isOkAtom then return first' else Run.raise (.noResultToHandle first')) := by
    rw [← known.isOkAtom_eq]
    exact .ite (fun _ => .pure known) fun _ => .raise rfl (.cons known .nil)
  simp only [handle, ← resemblesHandler.isCallable_eq]
  apply Corresponds.ite
  · intro _
    exact refuse_corresponds resemblesHandler
  · intro _
    cases resembles with
    | result tag inside =>
        cases tag with
        | ok => exact .pure known
        | error => exact alike _ le_rfl _ _ _ _ resemblesHandler (.cons inside .nil)
    | _ => exact refused

/-- Builtins with one argument. -/
theorem call_one (builtin : Builtin) (resembles : Resembles ledger value value') :
    Corresponds Resembles ledger (builtin.call home invoke [value])
      (builtin.call home invoke [value']) := by
  have known := resembles
  cases builtin with
  | length =>
      simp only [call, size?_eq resembles]
      split
      · exact .pure (.integer _)
      · exact refuse_corresponds resembles
  | head =>
      cases resembles with
      | list each =>
          cases each with
          | nil => exact refuse_corresponds known
          | cons here _ => exact .pure here
      | _ => exact refuse_corresponds known
  | tail =>
      cases resembles with
      | list each =>
          cases each with
          | nil => exact refuse_corresponds known
          | cons _ others => exact .pure (.list others)
      | _ => exact refuse_corresponds known
  | abs =>
      apply (number_corresponds resembles).bind
      rintro grown _ number _ rfl
      exact Value.Number.toValue_corresponds home _
  | round =>
      apply (number_corresponds resembles).bind
      rintro grown _ number _ rfl
      apply (Corresponds.ofExcept _).bind
      rintro grown' _ rounded _ rfl
      exact .pure (.integer rounded)
  | toText =>
      cases resembles with
      | text value => exact .pure (.text value)
      | atom name => exact .pure (.text name)
      | _ =>
          simp only [call]
          exact shown_corresponds known
  | inspect => exact shown_corresponds resembles
  | error => exact .pure (.result _ resembles)
  | _ =>
      simp only [call, predicate?_eq _ resembles]
      split
      · exact .pure (.boolean _)
      · exact .raise rfl .nil

theorem element_corresponds (resembles : Resembles ledger first first')
    (resemblesSecond : Resembles ledger second second') :
    Corresponds Resembles ledger (element.call home invoke [first, second])
      (element.call home invoke [first', second']) := by
  have known := resembles
  have knownSecond := resemblesSecond
  cases resembles with
  | @tuple elements elements' each =>
      cases resemblesSecond with
      | integer index =>
          simp only [call]
          have selected : Option.Rel (Resembles ledger)
              (if 0 ≤ index then elements[index.toNat]? else none)
              (if 0 ≤ index then elements'[index.toNat]? else none) := by
            split
            · exact AllResemble.getElem? each _
            · exact .none
          generalize (if 0 ≤ index then elements[index.toNat]? else none) = found,
            (if 0 ≤ index then elements'[index.toNat]? else none) = found' at selected ⊢
          cases selected with
          | none => exact refuse_corresponds knownSecond
          | some here => exact .pure here
      | _ => exact refuse_corresponds knownSecond
  | _ => exact refuse_corresponds known

theorem mapGet_corresponds (resembles : Resembles ledger first first')
    (resemblesSecond : Resembles ledger second second') {default default' : List Value}
    (each : AllResemble ledger default default') :
    Corresponds Resembles ledger (mapGet.call home invoke (first :: second :: default))
      (mapGet.call home invoke (first' :: second' :: default')) := by
  simp only [call, List.length_cons, each.length_eq]
  apply Corresponds.ite
  · intro _
    exact (Corresponds.raise rfl .nil : Corresponds (fun _ _ _ => False) _ _ _).bind
      fun _ _ _ _ never => never.elim
  · intro _
    apply (entries_corresponds resembles).bind
    intro grown grows entries entries' eachEntry
    apply (key_corresponds (resemblesSecond.mono grows)).bind
    rintro grown' growsOn asked _ ⟨rfl, asks⟩
    have found := (eachEntry.mono growsOn).find? asked
    have later : ledger ≤ grown' := le_trans grows growsOn
    generalize Value.find? asked entries = found?, Value.find? asked entries' = found?' at found ⊢
    cases found with
    | some here => exact .pure here
    | none =>
        cases each with
        | nil => exact .raise rfl (.cons asks (.cons (resembles.mono later) .nil))
        | cons given _ => exact .pure (given.mono later)

theorem error_corresponds (resembles : Resembles ledger first first')
    (resemblesSecond : Resembles ledger second second') {details details' : List Value}
    (each : AllResemble ledger details details') :
    Corresponds Resembles ledger (error.call home invoke (first :: second :: details))
      (error.call home invoke (first' :: second' :: details')) := by
  simp only [call, List.length_cons, each.length_eq]
  exact .ite (fun _ => .raise rfl .nil) fun _ =>
    .pure (.result _ (.tuple (.cons resembles (.cons resemblesSecond each))))

/-- Builtins with two arguments. -/
theorem call_two (alike : InvokesAlike ledger invoke) (builtin : Builtin)
    (resembles : Resembles ledger first first')
    (resemblesSecond : Resembles ledger second second') :
    Corresponds Resembles ledger (builtin.call home invoke [first, second])
      (builtin.call home invoke [first', second']) := by
  have known := resembles
  cases builtin with
  | element => exact element_corresponds resembles resemblesSecond
  | min =>
      apply (ordered_corresponds _ resembles resemblesSecond).bind
      rintro grown grows holds _ rfl
      cases holds
      · exact .pure (resemblesSecond.mono grows)
      · exact .pure (resembles.mono grows)
  | max =>
      apply (ordered_corresponds _ resembles resemblesSecond).bind
      rintro grown grows holds _ rfl
      cases holds
      · exact .pure (resemblesSecond.mono grows)
      · exact .pure (resembles.mono grows)
  | div =>
      apply (dividend_corresponds resembles resemblesSecond).bind
      rintro grown _ pair _ rfl
      exact .pure (.integer _)
  | rem =>
      apply (dividend_corresponds resembles resemblesSecond).bind
      rintro grown _ pair _ rfl
      exact .pure (.integer _)
  | mapGet => exact mapGet_corresponds resembles resemblesSecond .nil
  | merge =>
      apply (entries_corresponds resembles).bind
      intro grown grows entries entries' each
      apply (entries_corresponds (resemblesSecond.mono grows)).bind
      intro grown' growsOn added added' eachAdded
      have kept := (resembles.mono grows).mono growsOn
      exact .pure (withEntries_resembles kept ((each.mono growsOn).insertAll eachAdded))
  | handleError => exact handle_corresponds alike resembles resemblesSecond
  | fromMaybe =>
      cases resembles with
      | nil => exact .pure (.result _ resemblesSecond)
      | _ => exact .pure (.result _ known)
  | error => exact error_corresponds resembles resemblesSecond .nil
  | _ =>
      simp only [call]
      exact .raise rfl .nil

theorem assertType_corresponds (resembles : Resembles ledger first first')
    (resemblesSecond : Resembles ledger second second')
    (resemblesThird : Resembles ledger third third') :
    Corresponds Resembles ledger (assertType.call home invoke [first, second, third])
      (assertType.call home invoke [first', second', third']) := by
  have known := resemblesSecond
  have refused : Resembles ledger (.result .error third) (.result .error third') :=
    .result _ resemblesThird
  cases resemblesSecond with
  | record tag each =>
      simp only [call, tagName?_eq resembles]
      exact .ite (fun _ => .pure (.result _ known)) fun _ => .pure refused
  | _ => exact .pure refused

/-- Builtins with three arguments. -/
theorem call_three (builtin : Builtin) (resembles : Resembles ledger first first')
    (resemblesSecond : Resembles ledger second second')
    (resemblesThird : Resembles ledger third third') :
    Corresponds Resembles ledger (builtin.call home invoke [first, second, third])
      (builtin.call home invoke [first', second', third']) := by
  cases builtin with
  | mapGet => exact mapGet_corresponds resembles resemblesSecond (.cons resemblesThird .nil)
  | put =>
      apply (entries_corresponds resembles).bind
      intro grown grows entries entries' each
      apply (key_corresponds (resemblesSecond.mono grows)).bind
      rintro grown' growsOn changed _ ⟨rfl, _⟩
      have kept := (resembles.mono grows).mono growsOn
      have item := (resemblesThird.mono grows).mono growsOn
      exact .pure (withEntries_resembles kept ((each.mono growsOn).insert changed item))
  | assertType => exact assertType_corresponds resembles resemblesSecond resemblesThird
  | error => exact error_corresponds resembles resemblesSecond (.cons resemblesThird .nil)
  | _ =>
      simp only [call]
      exact .raise rfl .nil

/-- A builtin answers arguments that resemble each other with values that do. -/
theorem call_corresponds (alike : InvokesAlike ledger invoke) (home : Nat) (builtin : Builtin)
    {arguments arguments' : List Value} (each : AllResemble ledger arguments arguments') :
    Corresponds Resembles ledger (builtin.call home invoke arguments)
      (builtin.call home invoke arguments') := by
  have sameLength := each.length_eq
  match each with
  | .nil => cases builtin <;> exact .raise rfl .nil
  | .cons first .nil => exact call_one builtin first
  | .cons first (.cons second .nil) => exact call_two alike builtin first second
  | .cons first (.cons second (.cons third .nil)) => exact call_three builtin first second third
  | .cons first (.cons second (.cons third (.cons fourth others))) =>
      cases builtin with
      | mapGet => exact mapGet_corresponds first second (.cons third (.cons fourth others))
      | error => exact error_corresponds first second (.cons third (.cons fourth others))
      | _ =>
          simp only [call, sameLength]
          exact .raise rfl .nil

end Builtin
end ClauseFlow

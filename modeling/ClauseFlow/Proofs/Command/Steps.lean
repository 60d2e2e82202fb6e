import ClauseFlow.Proofs.Command.Targets
import ClauseFlow.Proofs.Text.LineFeeds

/-!
# Steps of commands

How the steps of a command go on from one another, and which of them leave the files as they are
whatever they end in.
-/

namespace ClauseFlow.Command

namespace Step

variable {α β : Type} {surroundings : Surroundings} {ledger : Ledger}

/-- A step that ends early ends all that goes on from it. -/
theorem bind_apply (step : Step α) (next : α → Step β) :
    (step >>= next) surroundings ledger =
      match step surroundings ledger with
      | (.ok answer, after) => next answer surroundings after
      | (.error ending, after) => (.error ending, after) := by
  change (ExceptT.bind (step surroundings) fun answer => next answer surroundings) ledger = _
  simp only [ExceptT.bind, ExceptT.mk, bind, StateT.bind]
  cases step surroundings ledger with
  | mk outcome after => cases outcome <;> rfl

theorem bind_of_ok {step : Step α} {answer : α} {after : Ledger}
    (ends : step surroundings ledger = (.ok answer, after)) (next : α → Step β) :
    (step >>= next) surroundings ledger = next answer surroundings after := by
  rw [bind_apply, ends]

theorem bind_of_error {step : Step α} {ending : Ending} {after : Ledger}
    (ends : step surroundings ledger = (.error ending, after)) (next : α → Step β) :
    (step >>= next) surroundings ledger = (.error ending, after) := by
  rw [bind_apply, ends]

/-- What was written so far is known to a step. -/
theorem get_bind (next : Ledger → Step β) :
    ((get : Step Ledger) >>= next) surroundings ledger = next ledger surroundings ledger :=
  rfl

/-- Where a command is performed is known to its steps. -/
theorem read_bind (next : Surroundings → Step β) :
    ((read : Step Surroundings) >>= next) surroundings ledger =
      next surroundings surroundings ledger :=
  rfl

/-! ## Steps that leave the files as they are -/

/-- Whether a step leaves the files as they are, whatever it ends in. -/
def LeavesFiles (step : Step α) : Prop :=
  ∀ surroundings ledger, (step surroundings ledger).2.tree = ledger.tree

namespace LeavesFiles

theorem pure (answer : α) : LeavesFiles (Pure.pure answer : Step α) :=
  fun _ _ => rfl

theorem stop (status : Nat) : LeavesFiles (Step.stop status : Step α) :=
  fun _ _ => rfl

theorem read : LeavesFiles (MonadReader.read : Step Surroundings) :=
  fun _ _ => rfl

theorem write (text : String) : LeavesFiles (Step.write text) :=
  fun _ _ => rfl

theorem bind {step : Step α} {next : α → Step β} (leaves : LeavesFiles step)
    (leavesNext : ∀ answer, LeavesFiles (next answer)) : LeavesFiles (step >>= next) := by
  intro surroundings ledger
  have here := leaves surroundings ledger
  rw [bind_apply]
  cases ends : step surroundings ledger with
  | mk outcome after =>
      rw [ends] at here
      cases outcome with
      | ok answer => exact (leavesNext answer surroundings after).trans here
      | error ending => exact here

theorem ite {accepted : Prop} [Decidable accepted] {step other : Step α}
    (leaves : LeavesFiles step) (leavesOther : LeavesFiles other) :
    LeavesFiles (if accepted then step else other) := by
  split
  · exact leaves
  · exact leavesOther

end LeavesFiles
end Step

open Step

variable (surroundings : Surroundings) (ledger : Ledger)

/-! ## What the steps answer -/

theorem target_apply (argument : String) :
    target argument surroundings ledger =
      match ledger.tree.locate? surroundings.start argument with
      | some place => (.ok ⟨Route.ofString argument, place⟩, ledger)
      | none => (.error (.status 2), ledger) := by
  rw [target, get_bind, read_bind]
  cases ledger.tree.locate? surroundings.start argument <;> rfl

theorem moduleFiles_apply (found : Target) :
    moduleFiles found surroundings ledger = (.ok (modulesOf ledger.tree found), ledger) := by
  rw [moduleFiles, get_bind, modulesOf]
  split <;> rfl

theorem textOf_apply (place : Path) :
    textOf place surroundings ledger =
      match ledger.tree.text? place with
      | some text => (.ok (Text.asRead text), ledger)
      | none => (.error (.abort .directory), ledger) := by
  rw [textOf, get_bind]
  cases ledger.tree.text? place <;> rfl

theorem settingsFor_apply (found : Target) :
    settingsFor found surroundings ledger =
      match Settings.governing ledger.tree found.place with
      | .ok settings => (.ok settings, ledger)
      | .error fault => (.error (.abort (.settings fault)), ledger) := by
  rw [settingsFor, get_bind]
  cases Settings.governing ledger.tree found.place <;> rfl

theorem standardForm_apply (module : Module) :
    standardForm module surroundings ledger =
      if module.hasNotation then (.ok module.print, ledger)
      else (.error (.abort .unwritable), ledger) := by
  rw [standardForm]
  split <;> rfl

/-- Diagnostics are reported to the last one, and no file is touched. -/
theorem report_ends (color : Bool) (further : List (String × String))
    (found : List Diagnostic) :
    ∃ after, report color further found surroundings ledger = (.ok (), after) ∧
      after.tree = ledger.tree := by
  let complains (diagnostic : Diagnostic) : Step Unit :=
    complain (diagnostic.render color (sourceOf? ledger.tree surroundings.start further))
  have ends (diagnostics : List Diagnostic) (current : Ledger) :
      ∃ after, diagnostics.forM complains surroundings current = (.ok (), after) ∧
        after.tree = current.tree := by
    induction diagnostics generalizing current with
    | nil => exact ⟨current, rfl, rfl⟩
    | cons diagnostic rest ih => exact ih _
  exact ends found ledger

/-- What a reader finds is handed on, or diagnostics are reported; other failures abort. -/
theorem readOrReport_ends {α : Type} (color : Bool) (further : List (String × String))
    (outcome : Except Rejection α) :
    ∃ after, after.tree = ledger.tree ∧
      readOrReport color further outcome surroundings ledger =
        match outcome with
        | .ok value => (.ok (some value), after)
        | .error (.diagnostics _) => (.ok none, after)
        | .error (.fault fault) => (.error (.abort (.unreadable fault)), after) := by
  match outcome with
  | .ok value => exact ⟨ledger, rfl, rfl⟩
  | .error (.diagnostics found) =>
      rcases report_ends surroundings ledger color further found with ⟨after, ends, same⟩
      exact ⟨after, same, bind_of_ok ends _⟩
  | .error (.fault fault) => exact ⟨ledger, rfl, rfl⟩

theorem leavesFiles_readOrReport {α : Type} (color : Bool) (further : List (String × String))
    (outcome : Except Rejection α) : LeavesFiles (readOrReport color further outcome) := by
  intro surroundings ledger
  rcases readOrReport_ends surroundings ledger color further outcome with ⟨after, same, ends⟩
  rw [ends]
  match outcome with
  | .ok _ | .error (.diagnostics _) | .error (.fault _) => exact same

theorem leavesFiles_target (argument : String) : LeavesFiles (target argument) := by
  intro surroundings ledger
  rw [target_apply]
  split <;> rfl

theorem leavesFiles_standardForm (module : Module) : LeavesFiles (standardForm module) := by
  intro surroundings ledger
  rw [standardForm_apply]
  split <;> rfl

/-- Formatting the input leaves all files as they are. -/
theorem leavesFiles_performFormatInput (path : String) (onlyTell : Bool) :
    LeavesFiles (performFormatInput path onlyTell) := by
  refine .bind ?_ fun _ => .bind .read fun surroundings => .bind (leavesFiles_readOrReport _ _ _) ?_
  · exact .bind (leavesFiles_target path) fun _ => .pure _
  · intro module?
    cases module? with
    | none => exact .stop 1
    | some module =>
        refine .bind (leavesFiles_standardForm module) fun form => .ite ?_ (.write form)
        exact .ite (.pure _) (.stop 1)

end ClauseFlow.Command

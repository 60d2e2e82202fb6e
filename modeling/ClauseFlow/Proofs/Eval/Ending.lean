import ClauseFlow.Proofs.Eval.Depth

/-!
# How runs end

A family of runs, one for each depth, ends in the outcome that no greater depth changes. Families
that only ever go deeper end in exactly one outcome; it is `tooDeep` if and only if the family is
too deep at every depth, which is to say that it does not end at all.
-/

namespace ClauseFlow.Run

variable {α : Type} {runs : Nat → Run α} {stamp : Nat} {outcome outcome' : Outcome α}

/-- The outcome of a family of runs: the one from some depth on. -/
def EndsIn (runs : Nat → Run α) (stamp : Nat) (outcome : Outcome α) : Prop :=
  ∃ depth, ∀ more, runs (depth + more) stamp = outcome

/-- Whether a family of runs only ever goes deeper. -/
def Deepening (runs : Nat → Run α) : Prop :=
  ∀ depth, (runs depth).DeepensTo (runs (depth + 1))

theorem EndsIn.unique (ends : EndsIn runs stamp outcome) (ends' : EndsIn runs stamp outcome') :
    outcome = outcome' := by
  rcases ends with ⟨depth, stable⟩
  rcases ends' with ⟨depth', stable'⟩
  rw [← stable depth', ← stable' depth, Nat.add_comm]

/-- Skipping the first depths does not change the outcome. -/
theorem endsIn_add_iff (skipped : Nat) :
    EndsIn (fun depth => runs (depth + skipped)) stamp outcome ↔ EndsIn runs stamp outcome := by
  constructor
  · rintro ⟨depth, stable⟩
    refine ⟨depth + skipped, fun more => ?_⟩
    rw [Nat.add_right_comm depth skipped more]
    exact stable more
  · rintro ⟨depth, stable⟩
    refine ⟨depth, fun more => ?_⟩
    change runs (depth + more + skipped) stamp = outcome
    rw [Nat.add_assoc]
    exact stable (more + skipped)

namespace Deepening

theorem apply_eq (deepening : Deepening runs) {depth : Nat}
    (ends : runs depth stamp ≠ .error .tooDeep) (more : Nat) :
    runs (depth + more) stamp = runs depth stamp := by
  induction more with
  | zero => rfl
  | succ more ih =>
      have endsHere : runs (depth + more) stamp ≠ .error .tooDeep := by
        rw [ih]
        exact ends
      exact ((deepening (depth + more)).apply_eq endsHere).trans ih

/-- What comes out at one depth without being too deep is the outcome. -/
theorem endsIn (deepening : Deepening runs) {depth : Nat} (here : runs depth stamp = outcome)
    (ends : outcome ≠ .error .tooDeep) : EndsIn runs stamp outcome := by
  refine ⟨depth, fun more => ?_⟩
  rw [deepening.apply_eq (here ▸ ends), here]

/-- A family that goes ever deeper has an outcome. -/
theorem exists_endsIn (deepening : Deepening runs) (stamp : Nat) :
    ∃ outcome, EndsIn runs stamp outcome := by
  by_cases ends : ∃ depth, runs depth stamp ≠ .error .tooDeep
  · rcases ends with ⟨depth, ends⟩
    exact ⟨_, deepening.endsIn rfl ends⟩
  · refine ⟨.error .tooDeep, 0, fun more => ?_⟩
    exact Classical.not_not.mp fun early => ends ⟨_, early⟩

/-- Finitely many families that go ever deeper all have their outcomes from some depth on. -/
theorem exists_settled {ι : Type} {families : ι → Nat → Run α}
    (deepening : ∀ index, Deepening (families index)) (indices : List ι) (stamp : Nat) :
    ∃ depth, ∀ index ∈ indices, ∀ more,
      EndsIn (families index) stamp (families index (depth + more) stamp) := by
  induction indices with
  | nil => exact ⟨0, nofun⟩
  | cons index rest ih =>
      rcases (deepening index).exists_endsIn stamp with ⟨outcome, depth, stable⟩
      rcases ih with ⟨depthRest, settled⟩
      refine ⟨depth + depthRest, fun other member more => ?_⟩
      rcases List.mem_cons.mp member with rfl | later
      · rw [Nat.add_assoc, stable]
        exact ⟨depth, stable⟩
      · rw [Nat.add_comm depth, Nat.add_assoc]
        exact settled other later _

end Deepening
end ClauseFlow.Run

namespace ClauseFlow.Eval

/-- Calls of a declared function, by depth. -/
abbrev dispatches (setting : Setting) (name : String) (arguments : List Value) :
    Nat → Run Value :=
  fun depth => dispatchWithin setting depth name arguments

/-- Evaluations of an expression, by the depth of the calls in it. -/
abbrev evaluations (setting : Setting) (env : Environment) (expr : Expr) : Nat → Run Value :=
  fun depth => evaluate (callsWithin setting depth) setting env expr

theorem dispatches_deepening (setting : Setting) (name : String) (arguments : List Value) :
    Run.Deepening (dispatches setting name arguments) :=
  fun depth => (callsWithin_deepen setting depth).dispatch name arguments

theorem evaluations_deepening (setting : Setting) (env : Environment) (expr : Expr) :
    Run.Deepening (evaluations setting env expr) :=
  fun depth => evaluate_deepens (callsWithin_deepen setting depth) setting env expr

end ClauseFlow.Eval

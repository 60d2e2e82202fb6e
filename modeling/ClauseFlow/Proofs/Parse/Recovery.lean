import ClauseFlow.Proofs.Parse.Legible

/-!
# Recovery from errors

Reading goes on after a declaration with an error, but the error stays recorded: a text that is read
without an error is read as if there were no recovery.
-/

namespace ClauseFlow.Parse

variable {α β : Type}

theorem bind_eq_ok {step : Parse α} {rest : α → Parse β} {cursor next : Cursor} {result : β} :
    (step >>= rest) cursor = .ok result next ↔
      ∃ value middle, step cursor = .ok value middle ∧ rest value middle = .ok result next := by
  cases outcome : step cursor with
  | ok value middle => simp [Bind.bind, EStateM.bind, outcome]
  | error stop middle => simp [Bind.bind, EStateM.bind, outcome]

theorem bind_eq_of_ok {step : Parse α} {rest : α → Parse β} {cursor next : Cursor} {value : α}
    (outcome : step cursor = .ok value next) : (step >>= rest) cursor = rest value next := by
  simp only [Bind.bind, EStateM.bind, outcome]

/-- All declarations up to the end, if none of them has an error. -/
def strictDeclarations (depth : Nat) : (fuel : Nat) → Parse (List Declaration)
  | 0 => throw .tooDeep
  | fuel + 1 => do
      if ← at? .endOfText then
        return []
      else
        let found? ← declaration depth
        skipNewlines
        let rest ← strictDeclarations depth fuel
        return found?.toList ++ rest

theorem recoveringDeclaration_of_ok {depth : Nat} {cursor next : Cursor}
    {found? : Option Declaration} (outcome : declaration depth cursor = .ok found? next) :
    recoveringDeclaration depth cursor = .ok found? next := by
  rw [recoveringDeclaration, outcome]

/-- Declarations without errors are read alike with recovery. -/
theorem declarations_of_strict {depth fuel : Nat} {cursor next : Cursor}
    {found : List Declaration}
    (outcome : strictDeclarations depth fuel cursor = .ok found next) :
    declarations depth fuel cursor = .ok found next := by
  induction fuel generalizing cursor found next with
  | zero => cases outcome
  | succ fuel ih =>
      rw [strictDeclarations] at outcome
      rw [declarations]
      rcases bind_eq_ok.mp outcome with ⟨finished, middle, looked, outcome⟩
      refine bind_eq_ok.mpr ⟨finished, middle, looked, ?_⟩
      split at outcome
      · rename_i isEnd
        rw [if_pos isEnd]
        exact outcome
      · rename_i noEnd
        rw [if_neg noEnd]
        rcases bind_eq_ok.mp outcome with ⟨found?, middle, declared, outcome⟩
        rcases bind_eq_ok.mp outcome with ⟨_, middle', skipped, outcome⟩
        rcases bind_eq_ok.mp outcome with ⟨rest, last, others, outcome⟩
        exact bind_eq_ok.mpr ⟨found?, middle, recoveringDeclaration_of_ok declared,
          bind_eq_ok.mpr ⟨_, middle', skipped, bind_eq_ok.mpr ⟨rest, last, ih others, outcome⟩⟩⟩

/-- A declaration that is read without an error is not recovered from. -/
theorem declaration_of_clean {depth : Nat} {cursor next : Cursor}
    {found? : Option Declaration} (legible : cursor.IsLegible)
    (outcome : recoveringDeclaration depth cursor = .ok found? next) (clean : next.errors = []) :
    declaration depth cursor = .ok found? next := by
  have finds := declaration_finds depth cursor legible
  rw [recoveringDeclaration] at outcome
  cases declared : declaration depth cursor with
  | ok found?' next' =>
      rw [declared] at outcome
      exact outcome
  | error stop next' =>
      rw [declared] at outcome
      cases stop with
      | syntaxError =>
          cases outcome
          exact absurd clean (finds.2 next' declared).2
      | _ => cases outcome

/-- Declarations that are read without an error are read alike without recovery. -/
theorem strictDeclarations_of_clean {depth fuel : Nat} {cursor next : Cursor}
    {found : List Declaration} (legible : cursor.IsLegible)
    (outcome : declarations depth fuel cursor = .ok found next) (clean : next.errors = []) :
    strictDeclarations depth fuel cursor = .ok found next := by
  induction fuel generalizing cursor found next with
  | zero => cases outcome
  | succ fuel ih =>
      rw [declarations] at outcome
      rw [strictDeclarations]
      rcases bind_eq_ok.mp outcome with ⟨finished, middle, looked, outcome⟩
      have legible := ((Finds.at? _ _ legible).1 _ _ looked).1
      refine bind_eq_ok.mpr ⟨finished, middle, looked, ?_⟩
      split at outcome
      · rename_i isEnd
        rw [if_pos isEnd]
        exact outcome
      · rename_i noEnd
        rw [if_neg noEnd]
        rcases bind_eq_ok.mp outcome with ⟨found?, middle, recovered, outcome⟩
        have legible' := ((recoveringDeclaration_finds _ _ legible).1 _ _ recovered).1
        rcases bind_eq_ok.mp outcome with ⟨_, middle', skipped, outcome⟩
        have skips := (Finds.skipNewlines _ legible').1 _ _ skipped
        rcases bind_eq_ok.mp outcome with ⟨rest, last, others, outcome⟩
        cases outcome
        have othersClean := (((declarations_finds _ _ _ skips.1).1 _ _ others).2 clean).1
        have declared := declaration_of_clean legible recovered (skips.2 othersClean).1
        exact bind_eq_ok.mpr ⟨found?, middle, declared, bind_eq_ok.mpr
          ⟨_, middle', skipped, bind_eq_ok.mpr ⟨rest, _, ih skips.1 others clean, rfl⟩⟩⟩

end ClauseFlow.Parse

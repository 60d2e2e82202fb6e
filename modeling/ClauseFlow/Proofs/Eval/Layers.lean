import ClauseFlow.Proofs.Eval.Unwrapping

/-!
# Layers of success

A function without guards sees through any number of layers of success around its first argument:
it returns the same value, or is interrupted in the same way. Only if no declaration fits does the
difference show, in the arguments that the error of the call itself lists.
-/

namespace ClauseFlow

/-- A value inside a number of layers of success. -/
def Value.wrapped (value : Value) : (layers : Nat) → Value
  | 0 => value
  | layers + 1 => .result .ok (value.wrapped layers)

/-- Layers of success do not matter for whether values can be shown. -/
theorem Value.allHaveNotation_wrapped (value : Value) (layers : Nat) (others : List Value) :
    Value.allHaveNotation (value.wrapped layers :: others) =
      Value.allHaveNotation (value :: others) := by
  induction layers with
  | zero => rfl
  | succ layers ih => exact ih

theorem Value.wrapped_ne_error {value : Value} (noResult : value.isResult = false) (layers : Nat)
    (inner : Value) : value.wrapped layers ≠ .result .error inner := by
  cases layers with
  | zero =>
      rintro rfl
      cases noResult
  | succ layers =>
      intro same
      cases same

namespace Eval

variable {setting : Setting} {declarations : List Declaration} {name : String}
variable {value : Value} {others : List Value}

/-- A function whose declarations have no guards hands a success on, if the other arguments fit one
of them. -/
theorem dispatchWithin_unguarded_handsOn (program : setting.program = .ofDeclarations declarations)
    (unguarded : ∀ declaration ∈ declarations,
      declaration.signature = ⟨name, others.length + 1⟩ → declaration.guard? = none)
    (distinct : ∀ declaration ∈ declarations,
      declaration.signature = ⟨name, others.length + 1⟩ → declaration.OthersDistinct)
    {declaration : Declaration} (declared : declaration ∈ declarations)
    (own : declaration.signature = ⟨name, others.length + 1⟩) (answers : declaration.Answers)
    {tailBindings : Bindings}
    (fits : Pattern.fitParams declaration.params.tail others = some tailBindings)
    (value : Value) (depth : Nat) :
    dispatchWithin setting (depth + 1) name (.result .ok value :: others) =
      dispatchWithin setting depth name (value :: others) := by
  funext stamp
  have noGuard : ∀ declaration ∈ declarations,
      declaration.signature = ⟨name, others.length + 1⟩ →
        ∀ order, (declaration.okClause order).guard? = none := by
    intro other declared own order
    rw [Declaration.okClause_guard?, unguarded other declared own]
  have answered : ∃ clause ∈ Clause.ofSignature ⟨name, others.length + 1⟩
      (Clause.kept declarations .okUnwrap),
      select (callsWithin setting depth) setting (.result .ok value :: others) stamp clause ≠
        .ok none := by
    apply exists_kept_okClause (callsWithin_placeBlind setting depth) ?_ declared own answers
    · intro order passedOver
      rcases Declaration.fitParams_okClause order value fits with ⟨bindings, okFits, _⟩
      rw [select_of_unguarded (noGuard declaration declared own order), okFits] at passedOver
      cases passedOver
    · intro other declared own guard guarded
      rw [unguarded other declared own] at guarded
      cases guarded
  have repeats : ∀ declaration ∈ declarations,
      declaration.signature = ⟨name, others.length + 1⟩ →
        (Pattern.fitParams declaration.params.tail others).isSome →
          declaration.OthersRepeat others :=
    fun declaration declared own _ => (distinct declaration declared own).repeat others
  rcases dispatchWithin_handsOn program repeats answered with
    same | ⟨other, declared, own, order, stop, interrupts, _⟩
  · exact same
  · rw [select_of_unguarded (noGuard other declared own order)] at interrupts
    cases interrupts

/-- A call whose other arguments fit no declaration has no clause, whatever its first argument is,
except for an error. -/
theorem dispatchWithin_unfit (program : setting.program = .ofDeclarations declarations)
    (declared : ∃ declaration ∈ declarations,
      declaration.signature = ⟨name, others.length + 1⟩)
    (distinct : ∀ declaration ∈ declarations,
      declaration.signature = ⟨name, others.length + 1⟩ → declaration.OthersDistinct)
    (unfit : ∀ declaration ∈ declarations,
      declaration.signature = ⟨name, others.length + 1⟩ →
        Pattern.fitParams declaration.params.tail others = none)
    {first : Value} (noError : ∀ inner, first ≠ .result .error inner) (depth stamp : Nat) :
    dispatchWithin setting (depth + 1) name (first :: others) stamp =
      (Run.raise (.noClause ⟨name, others.length + 1⟩ (first :: others)) : Run Value) stamp := by
  rw [dispatchWithin_of_no_error program declared noError]
  rw [← List.append_nil (Clause.ofSignature _ (Clause.kept declarations .default)),
    ← List.append_assoc, tryClauses_append]
  · rfl
  · intro clause member
    apply select_of_unfit
    rcases List.mem_append.mp member with unwraps | default
    · rcases Clause.mem_ofSignature.mp unwraps with ⟨kept, own⟩
      rcases Clause.exists_of_mem_kept kept with ⟨declaration, declared, _, order, rfl⟩
      exact Declaration.fitParams_okClause_none order first (unfit declaration declared own)
    · rcases Clause.mem_ofSignature.mp default with ⟨kept, own⟩
      rcases Clause.exists_of_mem_kept kept with ⟨declaration, declared, _, order, rfl⟩
      have sameLength : declaration.params.length = others.length + 1 :=
        congrArg Signature.arity own
      rw [Declaration.clauseOf, Declaration.defaultClause_params]
      exact ((distinct declaration declared own).repeat others).fitParams_none first sameLength
        (unfit declaration declared own)

/-- A function whose declarations all are `pipe` declarations without guards sees through any number
of layers of success: the two calls return the same value, are interrupted in the same way, or both
do not end, which is the outcome `tooDeep`. An error of dispatch for the call itself lists the
wrapped argument. -/
theorem dispatch_wrapped (program : setting.program = .ofDeclarations declarations)
    (declared : ∃ declaration ∈ declarations,
      declaration.signature = ⟨name, others.length + 1⟩)
    (synthesized : ∀ declaration ∈ declarations,
      declaration.signature = ⟨name, others.length + 1⟩ → declaration.synthesized = true)
    (unguarded : ∀ declaration ∈ declarations,
      declaration.signature = ⟨name, others.length + 1⟩ → declaration.guard? = none)
    (distinct : ∀ declaration ∈ declarations,
      declaration.signature = ⟨name, others.length + 1⟩ → declaration.OthersDistinct)
    (noResult : value.isResult = false) (layers stamp : Nat) :
    ∃ outcome outcome',
      Run.EndsIn (dispatches setting name (value :: others)) stamp outcome ∧
        Run.EndsIn (dispatches setting name (value.wrapped layers :: others)) stamp outcome' ∧
        (outcome' = outcome ∨
          outcome = .error (.error (.noClause ⟨name, others.length + 1⟩ (value :: others))) ∧
            outcome' = .error (.error
              (.noClause ⟨name, others.length + 1⟩ (value.wrapped layers :: others)))) := by
  by_cases fitted : ∃ declaration ∈ declarations,
      declaration.signature = ⟨name, others.length + 1⟩ ∧
        ∃ tailBindings, Pattern.fitParams declaration.params.tail others = some tailBindings
  · rcases fitted with ⟨declaration, declared, own, tailBindings, fits⟩
    have answers : declaration.Answers := by
      apply Declaration.answers_of_arity_pos (synthesized declaration declared own)
      rw [own]
      exact Nat.succ_pos _
    obtain ⟨outcome, ends⟩ :=
      (dispatches_deepening setting name (value :: others)).exists_endsIn stamp
    refine ⟨outcome, outcome, ends, ?_, .inl rfl⟩
    induction layers with
    | zero => exact ends
    | succ layers ih =>
        -- Each layer costs one level of depth and changes nothing else.
        apply (Run.endsIn_add_iff 1).mp
        simp only [dispatches, Value.wrapped, dispatchWithin_unguarded_handsOn program unguarded
          distinct declared own answers fits]
        exact ih
  · have unfit : ∀ declaration ∈ declarations,
        declaration.signature = ⟨name, others.length + 1⟩ →
          Pattern.fitParams declaration.params.tail others = none := by
      intro declaration declared own
      cases fits : Pattern.fitParams declaration.params.tail others with
      | none => rfl
      | some tailBindings => exact absurd ⟨declaration, declared, own, tailBindings, fits⟩ fitted
    have raises (layers : Nat) :
        Run.EndsIn (dispatches setting name (value.wrapped layers :: others)) stamp
          ((Run.raise (.noClause ⟨name, others.length + 1⟩ (value.wrapped layers :: others)) :
            Run Value) stamp) := by
      apply (Run.endsIn_add_iff 1).mp
      exact ⟨0, fun more => dispatchWithin_unfit program declared distinct unfit
        (Value.wrapped_ne_error noResult layers) _ stamp⟩
    refine ⟨_, _, raises 0, raises layers, ?_⟩
    rw [Run.raise_apply, Run.raise_apply]
    simp only [RuntimeError.shown, Value.allHaveNotation_wrapped]
    split
    · exact .inr ⟨rfl, rfl⟩
    · exact .inl rfl

/-- `pipe pick(:first, (found, _)) -> found` and `pipe pick(_, (_, [found | _])) -> found`. -/
def picks : List Declaration :=
  let here : Span := .generated
  let unnamed : Pattern := .wildcard here
  let found : Pattern := .binding "found" here
  let body : Expr := .ident ⟨"found", here⟩
  [⟨.plain ⟨"pick", [.literal (.atom "first") here, .tuple [found, unnamed] here], here⟩, body,
      true, none, here⟩,
    ⟨.plain ⟨"pick", [unnamed, .tuple [unnamed, .list [found] (some unnamed) here] here], here⟩,
      body, true, none, here⟩]

theorem dispatch_wrapped_picks :
    ∃ outcome outcome',
      Run.EndsIn (dispatches ⟨.ofDeclarations picks, [], 0⟩ "pick"
          [.integer 5, .tuple [.nil, .list [.integer 7]]]) 0 outcome ∧
        Run.EndsIn (dispatches ⟨.ofDeclarations picks, [], 0⟩ "pick"
          [(Value.integer 5).wrapped 3, .tuple [.nil, .list [.integer 7]]]) 0 outcome' ∧
        (outcome' = outcome ∨
          outcome = .error (.error (.noClause ⟨"pick", 2⟩
              [.integer 5, .tuple [.nil, .list [.integer 7]]])) ∧
            outcome' = .error (.error (.noClause ⟨"pick", 2⟩
              [(Value.integer 5).wrapped 3, .tuple [.nil, .list [.integer 7]]]))) := by
  apply dispatch_wrapped rfl
  · exact ⟨picks[0], by decide +kernel, rfl⟩
  · decide +kernel
  · decide +kernel
  · decide +kernel
  · rfl

end Eval
end ClauseFlow

import ClauseFlow.Proofs.Clause.Ordering
import ClauseFlow.Proofs.Eval.Ending

/-!
# Errors in pipelines

An error that enters a pipeline comes out at its end as it went in, as long as every function on the
way has a `pipe` declaration. The clause that hands errors through is tried first, fits whatever the
other arguments are, and calls nothing: no guard is asked and no body of a declaration is run.
-/

namespace ClauseFlow

namespace Eval

/-! ## What a choice among clauses evaluates -/

/-- A part of a clause that is evaluated: the guard when it is asked, the body when it is run. -/
inductive Step where
  | guard (clause : Clause)
  | body (clause : Clause)

/-- Trying clauses in order, with the steps on the way. -/
def traceClauses (calls : Calls) (setting : Setting) (signature : Signature)
    (arguments : List Value) : List Clause → Nat → List Step × Outcome Value
  | [], stamp => ([], Run.raise (.noClause signature arguments) stamp)
  | clause :: rest, stamp =>
      match Pattern.fitParams clause.params arguments with
      | none => traceClauses calls setting signature arguments rest stamp
      | some bindings =>
          let asked := if clause.guard?.isSome then [Step.guard clause] else []
          match guardHolds calls setting clause bindings stamp with
          | .ok (true, stamp') =>
              (asked ++ [.body clause],
                evaluate calls setting (clauseEnvironment bindings) clause.body stamp')
          | .ok (false, stamp') =>
              let later := traceClauses calls setting signature arguments rest stamp'
              (asked ++ later.1, later.2)
          | .error stop => (asked, .error stop)

/-- Without its steps, a traced choice is the choice itself. -/
theorem traceClauses_snd (calls : Calls) (setting : Setting) (signature : Signature)
    (arguments : List Value) (clauses : List Clause) (stamp : Nat) :
    (traceClauses calls setting signature arguments clauses stamp).2 =
      tryClauses calls setting signature arguments clauses stamp := by
  induction clauses generalizing stamp with
  | nil => rfl
  | cons clause rest ih =>
      simp only [traceClauses, tryClauses]
      cases fitted : Pattern.fitParams clause.params arguments with
      | none => exact ih stamp
      | some bindings =>
          simp only [Run.bind_apply]
          rcases held : guardHolds calls setting clause bindings stamp with stop | ⟨holds, stamp'⟩
          · rfl
          · cases holds with
            | true => rfl
            | false => exact ih stamp'

end Eval

/-! ## The clause that hands errors through -/

namespace Pattern

/-- Wildcards fit any values, one for each. -/
theorem fitAll_wildcards {patterns : List Pattern} {values : List Value}
    (sameLength : values.length = patterns.length) (bindings : Bindings) :
    fitAll (patterns.map fun _ => .wildcard .generated) values bindings = some bindings := by
  induction patterns generalizing values with
  | nil =>
      cases values with
      | nil => rfl
      | cons value rest => cases sameLength
  | cons pattern patterns ih =>
      cases values with
      | nil => cases sameLength
      | cons value rest =>
          simp only [List.map_cons, fitAll, fit]
          exact ih (Nat.succ.inj sameLength)

end Pattern

namespace Declaration

/-- The bindings of the clause that hands an error through. -/
theorem fitParams_errorClause (declaration : Declaration) (order : Nat) (payload : Value)
    {others : List Value} (sameLength : others.length + 1 = declaration.params.length) :
    Pattern.fitParams (declaration.errorClause order).params (.result .error payload :: others) =
      some [(payloadName, payload)] := by
  have restLength : others.length = declaration.params.tail.length := by
    rw [List.length_tail]
    omega
  exact Pattern.fitAll_wildcards restLength _

end Declaration

namespace Eval

/-- A declared function that has a `pipe` declaration answers an error with the error itself. The
only step is the body of the clause that hands errors through, and no calls are made. -/
theorem traceClauses_error {declarations : List Declaration} {setting : Setting}
    (program : setting.program = .ofDeclarations declarations) {signature : Signature}
    (answering : ∃ declaration ∈ declarations,
      declaration.signature = signature ∧ declaration.synthesized = true)
    (payload : Value) {others : List Value} (arity : others.length + 1 = signature.arity) :
    ∃ clause, clause.kind = .errorPassthrough ∧ ∀ (calls : Calls) (stamp : Nat),
      traceClauses calls setting signature (.result .error payload :: others)
          (setting.program.clausesOf signature) stamp =
        ([.body clause], .ok (.result .error payload, stamp)) := by
  rcases answering with ⟨declaration, declared, rfl, written⟩
  have answers : declaration.Answers := by
    apply Declaration.answers_of_arity_pos written
    rw [← arity]
    exact Nat.succ_pos _
  obtain ⟨order, clause, clauseKept, sameShape⟩ :=
    Clause.exists_mem_kept declared .errorPassthrough answers
  have sameSignature : clause.signature = declaration.signature := by
    rw [Clause.signature_eq_of_shapeKey_eq sameShape, Declaration.clauseOf_signature]
  have passing : clause ∈
      Clause.ofSignature declaration.signature (Clause.kept declarations .errorPassthrough) :=
    Clause.mem_ofSignature.mpr ⟨clauseKept, sameSignature⟩
  -- Whichever clause is the first of them, it comes from a declaration of the same function.
  rcases List.exists_cons_of_ne_nil (List.ne_nil_of_mem passing) with ⟨first, rest, split⟩
  have firstMember : first ∈
      Clause.ofSignature declaration.signature (Clause.kept declarations .errorPassthrough) :=
    split ▸ List.mem_cons_self ..
  rcases Clause.mem_ofSignature.mp firstMember with ⟨firstKept, firstSignature⟩
  rcases Clause.exists_of_mem_kept firstKept with ⟨source, _, _, index, rfl⟩
  refine ⟨source.errorClause index, rfl, fun calls stamp => ?_⟩
  have sameLength : others.length + 1 = source.params.length := by
    rw [arity, ← firstSignature]
    rfl
  rw [program, Program.clausesOf_ofDeclarations ⟨declaration, declared, rfl⟩, split]
  simp only [Declaration.clauseOf, List.cons_append, traceClauses,
    source.fitParams_errorClause index payload sameLength]
  rfl

/-- A call with an error as its first argument comes to that error. -/
theorem dispatchWithin_error {declarations : List Declaration} {setting : Setting}
    (program : setting.program = .ofDeclarations declarations) {name : String}
    {others : List Value}
    (answering : ∃ declaration ∈ declarations,
      declaration.signature = ⟨name, others.length + 1⟩ ∧ declaration.synthesized = true)
    (payload : Value) (depth stamp : Nat) :
    dispatchWithin setting (depth + 1) name (.result .error payload :: others) stamp =
      .ok (.result .error payload, stamp) := by
  rcases traceClauses_error program answering payload rfl with ⟨clause, _, trace⟩
  have declares : setting.program.declares ⟨name, others.length + 1⟩ = true := by
    rcases answering with ⟨declaration, declared, same, _⟩
    rw [program]
    exact Program.declares_ofDeclarations ⟨declaration, declared, same⟩
  have chosen := traceClauses_snd (callsWithin setting depth) setting ⟨name, others.length + 1⟩
    (.result .error payload :: others) (setting.program.clausesOf ⟨name, others.length + 1⟩) stamp
  rw [trace] at chosen
  rw [dispatchWithin, dispatchClauses]
  exact (congrFun (if_pos declares) stamp).trans chosen.symm

end Eval

/-! ## Pipelines -/

/-- A step of a pipeline: `|> callee` or `|> callee(arguments)`. -/
structure Stage where
  callee : Identifier
  arguments? : Option (List Expr)
  callSpan : Span
  span : Span

namespace Stage

/-- The arguments written in a stage. -/
def arguments (stage : Stage) : List Expr :=
  stage.arguments?.getD []

/-- The function that a stage calls: what comes in is its first argument. -/
def signature (stage : Stage) : Signature :=
  ⟨stage.callee.name, stage.arguments.length + 1⟩

/-- An expression that goes through a stage. -/
def after (left : Expr) (stage : Stage) : Expr :=
  match stage.arguments? with
  | none => .pipe left stage.callee stage.span
  | some arguments => .pipeCall left stage.callee arguments stage.callSpan stage.span

end Stage

/-- An expression that goes through stages, the first one first. -/
def Expr.pipeline (source : Expr) (stages : List Stage) : Expr :=
  stages.foldl Stage.after source

namespace Eval

variable {setting : Setting} {env : Environment}

/-- Whether an expression comes to a value; runs also carry a stamp along. -/
def Yields (setting : Setting) (env : Environment) (expr : Expr) (stamp : Nat) (value : Value)
    (stamp' : Nat) : Prop :=
  Run.EndsIn (evaluations setting env expr) stamp (.ok (value, stamp'))

/-- Whether several expressions in a row come to values. -/
def YieldsAll (setting : Setting) (env : Environment) (exprs : List Expr) (stamp : Nat)
    (values : List Value) (stamp' : Nat) : Prop :=
  Run.EndsIn (fun depth => evaluateAll (callsWithin setting depth) setting env exprs) stamp
    (.ok (values, stamp'))

/-- Whether the arguments of all stages come to values, one stage after the other. -/
inductive ArgumentsYield (setting : Setting) (env : Environment) :
    List Stage → Nat → Nat → Prop where
  | nil (stamp : Nat) : ArgumentsYield setting env [] stamp stamp
  | cons {stage : Stage} {rest : List Stage} {stamp stamp' stamp'' : Nat} {values : List Value} :
      YieldsAll setting env stage.arguments stamp values stamp' →
      ArgumentsYield setting env rest stamp' stamp'' →
      ArgumentsYield setting env (stage :: rest) stamp stamp''

theorem evaluateAll_length {calls : Calls} {exprs : List Expr} {stamp stamp' : Nat}
    {values : List Value}
    (outcome : evaluateAll calls setting env exprs stamp = .ok (values, stamp')) :
    values.length = exprs.length := by
  induction exprs generalizing stamp values with
  | nil =>
      simp only [evaluateAll, Run.pure_apply] at outcome
      cases outcome
      rfl
  | cons expr rest ih =>
      simp only [evaluateAll, Run.bind_apply] at outcome
      rcases first : evaluate calls setting env expr stamp with stop | ⟨value, next⟩
      · rw [first] at outcome
        cases outcome
      · rw [first] at outcome
        rcases later : evaluateAll calls setting env rest next with stop | ⟨others, last⟩
        · simp only [later] at outcome
          cases outcome
        · simp only [later, Run.pure_apply] at outcome
          cases outcome
          simp only [List.length_cons, ih later]

/-- What goes through a stage is the first argument of a call by name. -/
theorem evaluate_after {calls : Calls} {left : Expr} {stage : Stage} {stamp next last : Nat}
    {value : Value} {values : List Value}
    (leftOutcome : evaluate calls setting env left stamp = .ok (value, next))
    (argumentsOutcome : evaluateAll calls setting env stage.arguments next = .ok (values, last)) :
    ∃ span, evaluate calls setting env (stage.after left) stamp =
      callNamed calls setting env stage.callee.name (value :: values) span last := by
  rw [Stage.after]
  cases written : stage.arguments? with
  | none =>
      simp only [Stage.arguments, written, Option.getD_none, evaluateAll,
        Run.pure_apply] at argumentsOutcome
      cases argumentsOutcome
      refine ⟨stage.callee.span, ?_⟩
      simp only [evaluate]
      rw [Run.bind_of_ok leftOutcome]
  | some arguments =>
      simp only [Stage.arguments, written, Option.getD_some] at argumentsOutcome
      refine ⟨stage.callSpan, ?_⟩
      simp only [evaluate]
      rw [Run.bind_of_ok leftOutcome, Run.bind_of_ok argumentsOutcome]

/-- An error goes through one stage. -/
theorem Yields.error_after {declarations : List Declaration}
    (program : setting.program = .ofDeclarations declarations) {left : Expr} {stage : Stage}
    (unbound : setting.lookup env stage.callee.name = none)
    (answering : ∃ declaration ∈ declarations,
      declaration.signature = stage.signature ∧ declaration.synthesized = true)
    {payload : Value} {stamp next last : Nat} {values : List Value}
    (yields : Yields setting env left stamp (.result .error payload) next)
    (argumentsYield : YieldsAll setting env stage.arguments next values last) :
    Yields setting env (stage.after left) stamp (.result .error payload) last := by
  rcases yields with ⟨depth, stable⟩
  rcases argumentsYield with ⟨depth', stable'⟩
  have sameLength : values.length = stage.arguments.length := evaluateAll_length (stable' 0)
  have answering' : ∃ declaration ∈ declarations,
      declaration.signature = ⟨stage.callee.name, values.length + 1⟩ ∧
        declaration.synthesized = true := by
    rw [sameLength]
    exact answering
  have declares : setting.program.declares ⟨stage.callee.name, values.length + 1⟩ = true := by
    rcases answering' with ⟨declaration, declared, same, _⟩
    rw [program]
    exact Program.declares_ofDeclarations ⟨declaration, declared, same⟩
  -- One depth is enough for what comes in and for the arguments, and one more for the call.
  refine ⟨depth + depth' + 1, fun more => ?_⟩
  have leftOutcome := stable (depth' + 1 + more)
  have argumentsOutcome := stable' (depth + 1 + more)
  rw [show depth + (depth' + 1 + more) = depth + depth' + 1 + more by omega] at leftOutcome
  rw [show depth' + (depth + 1 + more) = depth + depth' + 1 + more by omega] at argumentsOutcome
  rcases evaluate_after leftOutcome argumentsOutcome with ⟨span, called⟩
  refine called.trans ?_
  have global : callNamed (callsWithin setting (depth + depth' + 1 + more)) setting env
      stage.callee.name (.result .error payload :: values) span =
        dispatchWithin setting (depth + depth' + 1 + more) stage.callee.name
          (.result .error payload :: values) := by
    simp only [callNamed, unbound, callGlobal]
    exact if_pos declares
  rw [global, show depth + depth' + 1 + more = depth + depth' + more + 1 by omega]
  exact dispatchWithin_error program answering' payload _ last

/-- An error goes through a pipeline of any length untouched, whatever the other arguments are. Each
of the calls on the way runs the body of one clause that hands errors through and evaluates nothing
else: no guard, no body of a declaration, and no further call. -/
theorem pipeline_error {declarations : List Declaration}
    (program : setting.program = .ofDeclarations declarations) (source : Expr)
    (stages : List Stage)
    (unbound : ∀ stage ∈ stages, setting.lookup env stage.callee.name = none)
    (answering : ∀ stage ∈ stages, ∃ declaration ∈ declarations,
      declaration.signature = stage.signature ∧ declaration.synthesized = true)
    {payload : Value} {stamp next last : Nat}
    (yields : Yields setting env source stamp (.result .error payload) next)
    (argumentsYield : ArgumentsYield setting env stages next last) :
    Yields setting env (source.pipeline stages) stamp (.result .error payload) last ∧
      ∀ stage ∈ stages, ∀ others : List Value, others.length = stage.arguments.length →
        ∃ clause, clause.kind = .errorPassthrough ∧ ∀ (calls : Calls) (stamp : Nat),
          traceClauses calls setting stage.signature (.result .error payload :: others)
              (setting.program.clausesOf stage.signature) stamp =
            ([.body clause], .ok (.result .error payload, stamp)) := by
  constructor
  · induction stages generalizing source next with
    | nil =>
        cases argumentsYield
        exact yields
    | cons stage rest ih =>
        cases argumentsYield with
        | cons here later =>
            exact ih (stage.after source) (fun other member => unbound other (.tail _ member))
              (fun other member => answering other (.tail _ member))
              (yields.error_after program (unbound stage (.head _)) (answering stage (.head _))
                here)
              later
  · intro stage member others sameLength
    refine traceClauses_error program (answering stage member) payload ?_
    rw [sameLength]
    rfl

/-- `def keep(_) -> nil`, `pipe keep(x) when x > 0 -> x`, `pipe add(x, y) -> x + y`. -/
def keepAndAdd : List Declaration :=
  let here : Span := .generated
  let x : Expr := .ident ⟨"x", here⟩
  [⟨.plain ⟨"keep", [.wildcard here], here⟩, .nil here, false, none, here⟩,
    ⟨.guarded ⟨"keep", [.binding "x" here], here⟩ (.binary x .greater (.integer 0 here) here) here,
      x, true, none, here⟩,
    ⟨.plain ⟨"add", [.binding "x" here, .binding "y" here], here⟩,
      .binary x .add (.ident ⟨"y", here⟩) here, true, none, here⟩]

/-- `Error(:lost) |> keep |> add(1)` comes to `Error(:lost)`. -/
theorem pipeline_error_keepAndAdd :
    Yields ⟨.ofDeclarations keepAndAdd, [], 0⟩ ⟨[], 0⟩
      (Expr.pipeline (.result .error (.atom "lost" .generated) .generated)
        [⟨⟨"keep", .generated⟩, none, .generated, .generated⟩,
          ⟨⟨"add", .generated⟩, some [.integer 1 .generated], .generated, .generated⟩])
      0 (.result .error (.atom "lost")) 0 := by
  have yields : Yields ⟨.ofDeclarations keepAndAdd, [], 0⟩ ⟨[], 0⟩
      (.result .error (.atom "lost" .generated) .generated) 0 (.result .error (.atom "lost")) 0 :=
    ⟨0, fun more => rfl⟩
  refine (pipeline_error rfl _ _ ?_ ?_ yields ?_).1
  · intro stage member
    rfl
  · intro stage member
    rcases List.mem_cons.mp member with rfl | later
    · exact ⟨keepAndAdd[1], by decide +kernel, rfl, rfl⟩
    · obtain rfl := List.mem_singleton.mp later
      exact ⟨keepAndAdd[2], by decide +kernel, rfl, rfl⟩
  · exact .cons ⟨0, fun more => rfl⟩ (.cons ⟨0, fun more => rfl⟩ (.nil 0))

end Eval
end ClauseFlow

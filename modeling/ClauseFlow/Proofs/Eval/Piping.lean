import ClauseFlow.Proofs.Eval.Coincidence
import ClauseFlow.Proofs.Parse.Nesting
import ClauseFlow.Proofs.Run.Rendering

/-!
# Pipes are calls

An expression comes to the same if each of its pipes is replaced by the call that it stands for,
those in lambdas too. Closures tell the two apart by nothing that can be seen: where one expression
makes two that are equal, the other one does.
-/

namespace ClauseFlow.Eval

open Value (Resembles)

variable {setting : Setting} {env : Environment} {ledger : Ledger} {expr : Expr}

/-- Whether an environment and the session around it bind names to first-order values only. -/
def BindsFirstOrder (setting : Setting) (env : Environment) : Prop :=
  ∀ frame ∈ env.frames ++ setting.session, ∀ binding ∈ frame, binding.2.isFirstOrder = true

instance : Decidable (BindsFirstOrder setting env) :=
  inferInstanceAs (Decidable (∀ frame ∈ env.frames ++ setting.session, ∀ binding ∈ frame,
    binding.2.isFirstOrder = true))

theorem BindsFirstOrder.selfAlike (plain : BindsFirstOrder setting env) :
    SelfAlike ledger (env.frames ++ setting.session) :=
  fun frame isFrame binding isBinding =>
    .self binding.2 (.inl (plain frame isFrame binding isBinding))

/-- With the closures known that it makes outside of all calls, an expression evaluates as if it
called directly. -/
theorem agreeOn_direct (plain : BindsFirstOrder setting env) (allowed : ledger.allows .direct)
    (outer : env.frames.isEmpty = true → ∀ body ∈ expr.outerBodies,
      ledger.texts (.session setting.home) body .direct) (depth : Nat) :
    AgreeOn (callsWithin setting depth) setting .direct ledger expr env env := by
  have selfAlike : SelfAlike ledger (env.frames ++ setting.session) := plain.selfAlike
  have own : SelfAlike ledger env.frames :=
    fun frame isFrame => selfAlike frame (List.mem_append_left _ isFrame)
  have session : SelfAlike ledger setting.session :=
    fun frame isFrame => selfAlike frame (List.mem_append_right _ isFrame)
  exact ⟨callsWithin_alike session depth, allowed, rfl, rfl, fun reference _ => own.boundIn _,
    fun call _ => own.boundIn _, outer⟩

/-- The outer lambdas of a well nested expression are still told apart when their pipes are phrased
as calls. -/
theorem eq_of_direct_eq (nested : (Node.ofExpr expr).WellNested) :
    ∀ body ∈ expr.outerBodies, ∀ body' ∈ expr.outerBodies,
      body.direct = body'.direct → body = body' := by
  intro body isBody body' isBody' same
  apply nested.eq_of_span_eq isBody isBody'
  rw [← body.span_phrased .direct, ← body'.span_phrased .direct]
  exact congrArg Expr.span same

/-- Evaluating an expression with its pipes replaced by the calls that they stand for looks the
same. -/
theorem rendered_direct (plain : BindsFirstOrder setting env)
    (placed : env.frames = [] → (Node.ofExpr expr).WellNested) (depth stamp : Nat) :
    rendered (evaluate (callsWithin setting depth) setting env expr stamp) =
      rendered (evaluate (callsWithin setting depth) setting env expr.direct stamp) := by
  -- Closures made outside of all calls are all put into the ledger beforehand.
  by_cases atTop : env.frames = []
  · let ledger : Ledger := .ofSession setting.home expr.outerBodies (eq_of_direct_eq (placed atTop))
    have known : ∀ body ∈ expr.outerBodies, ledger.texts (.session setting.home) body .direct :=
      fun body isBody => ⟨rfl, isBody, rfl⟩
    have agree : AgreeOn (callsWithin setting depth) setting .direct ledger expr env env :=
      agreeOn_direct plain trivial (fun _ => known) depth
    exact rendered_eq (evaluate_corresponds expr agree stamp (Ledger.ready_ofSession stamp))
  · let ledger : Ledger := .ofSession setting.home [] (fun _ impossible => nomatch impossible)
    have agree : AgreeOn (callsWithin setting depth) setting .direct ledger expr env env :=
      agreeOn_direct plain trivial (fun isEmpty => absurd (List.isEmpty_iff.mp isEmpty) atTop) depth
    exact rendered_eq (evaluate_corresponds expr agree stamp (Ledger.ready_ofSession stamp))

/-- An expression that has been read looks the same in every environment of first-order values, also
outside of all calls: no two of its lambdas are in one place. -/
theorem rendered_direct_of_read {file text : String} (read : Expr.read file text = .ok expr)
    (plain : BindsFirstOrder setting env) (depth stamp : Nat) :
    rendered (evaluate (callsWithin setting depth) setting env expr stamp) =
      rendered (evaluate (callsWithin setting depth) setting env expr.direct stamp) :=
  rendered_direct plain (fun _ => Node.wellNested_ofExpr read) depth stamp

/-- In every environment of first-order values an expression looks the same if its pipes are
replaced by the calls that they stand for; and it uses the same names and calls the same functions,
each as often. What is evaluated outside of all calls has to be well nested; see
`rendered_direct_of_read` for what has been read. -/
theorem pipes_are_calls (expr : Expr) :
    (∀ (setting : Setting) (env : Environment), BindsFirstOrder setting env →
      (env.frames = [] → (Node.ofExpr expr).WellNested) → ∀ depth stamp : Nat,
        rendered (evaluate (callsWithin setting depth) setting env expr stamp) =
          rendered (evaluate (callsWithin setting depth) setting env expr.direct stamp)) ∧
      ∀ locals : List String, expr.direct.references locals = expr.references locals ∧
        (Expr.signatures (expr.direct.calls locals)).Perm
          (Expr.signatures (expr.calls locals)) :=
  ⟨fun _ _ plain placed depth stamp => rendered_direct plain placed depth stamp,
    fun locals => ⟨Expr.references_direct locals expr, Expr.calls_direct locals expr⟩⟩

/-- A pipe in a lambda, next to a lambda that differs from it in nothing else, and a pipe into a
call. -/
def adjusting : String := "\x7b(fn(x) -> x |> abs) == (fn(x) -> abs(x)), n |> min(5)\x7d"

/-- The two lambdas differ, with the pipe and without it. -/
theorem pipes_are_calls_adjusting :
    let setting : Setting := ⟨.empty, [[("n", .integer 7)]], 0⟩
    ∃ expr, Expr.read "adjusting" adjusting = .ok expr ∧ expr.direct ≠ expr ∧
      BindsFirstOrder setting ⟨[], 1⟩ ∧ (Node.ofExpr expr).WellNested ∧
      rendered (evaluate (callsWithin setting 3) setting ⟨[], 1⟩ expr.direct 0) =
        .shown "{false, 5}" := by
  intro setting
  have found : (Expr.read "adjusting" adjusting).toOption.any (fun expr =>
      decide (expr.direct ≠ expr) &&
        decide (rendered (evaluate (callsWithin setting 3) setting ⟨[], 1⟩ expr 0) =
          .shown "{false, 5}")) = true := by
    decide +kernel
  rcases Parse.exists_of_any_answer found with ⟨expr, read, both⟩
  rw [Bool.and_eq_true, decide_eq_true_eq, decide_eq_true_eq] at both
  have plain : BindsFirstOrder setting ⟨[], 1⟩ := by decide
  have nested : (Node.ofExpr expr).WellNested := Node.wellNested_ofExpr read
  have same := (pipes_are_calls expr).1 setting ⟨[], 1⟩ plain (fun _ => nested) 3 0
  exact ⟨expr, read, both.1, plain, nested, same ▸ both.2⟩

end ClauseFlow.Eval

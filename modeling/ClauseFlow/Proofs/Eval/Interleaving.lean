import ClauseFlow.Eval.Dispatch
import ClauseFlow.Proofs.Clause.Interleaving

/-!
# Interleaved declarations

What a program does depends on the clauses of each function, up to their indices, and not on how the
functions are mixed. So how the declarations of different functions are interleaved is irrelevant.
-/

namespace ClauseFlow

/-- Whether two programs have the same clauses for each function, up to their indices. -/
def Program.Agrees (program program' : Program) : Prop :=
  ∀ signature, (program.clausesOf signature).map Clause.unnumbered =
    (program'.clausesOf signature).map Clause.unnumbered

namespace Program

variable {program program' : Program}

/-- A function is declared if it has clauses. -/
theorem declares_iff (program : Program) (signature : Signature) :
    program.declares signature = true ↔ program.clausesOf signature ≠ [] := by
  simp [Program.declares, clausesOf, Clause.ofSignature]

theorem Agrees.declares (agrees : program.Agrees program') (signature : Signature) :
    program.declares signature = program'.declares signature := by
  rw [Bool.eq_iff_iff, declares_iff, declares_iff, Ne, Ne, ← List.map_eq_nil_iff, agrees signature,
    List.map_eq_nil_iff]

/-- A name is declared if some function of that name is. -/
theorem declaresName_iff (program : Program) (name : String) :
    program.declaresName name = true ↔
      ∃ signature : Signature, signature.name = name ∧ program.declares signature = true := by
  simp only [declaresName, Program.declares, List.any_eq_true, decide_eq_true_eq]
  constructor
  · rintro ⟨clause, member, named⟩
    exact ⟨clause.signature, named, clause, member, rfl⟩
  · rintro ⟨_, named, clause, member, rfl⟩
    exact ⟨clause, member, named⟩

theorem Agrees.knows (agrees : program.Agrees program') (name : String) :
    program.knows name = program'.knows name := by
  have sameName : program.declaresName name = program'.declaresName name := by
    rw [Bool.eq_iff_iff, declaresName_iff, declaresName_iff]
    simp only [agrees.declares]
  rw [Program.knows, Program.knows, sameName]

end Program

namespace Eval

variable {program program' : Program} {session : List Value.Frame} {home : Nat}

/-! ## Evaluation -/

section

variable (agrees : program.Agrees program') (calls : Calls)

include agrees

theorem callGlobal_congr (name : String) (arguments : List Value) (span? : Option Span) :
    callGlobal calls ⟨program, session, home⟩ name arguments span? =
      callGlobal calls ⟨program', session, home⟩ name arguments span? := by
  simp only [callGlobal, agrees.declares]

theorem callNamed_congr (env : Environment) (name : String) (arguments : List Value)
    (span : Span) :
    callNamed calls ⟨program, session, home⟩ env name arguments span =
      callNamed calls ⟨program', session, home⟩ env name arguments span := by
  simp only [callNamed, callGlobal_congr agrees]
  rfl

theorem valueOfName_congr (env : Environment) (identifier : Identifier) :
    valueOfName ⟨program, session, home⟩ env identifier =
      valueOfName ⟨program', session, home⟩ env identifier := by
  simp only [valueOfName, agrees.knows]
  rfl

end

mutual

/-- Evaluation asks a program only which functions it declares. -/
theorem evaluate_congr (agrees : program.Agrees program') (calls : Calls)
    (env : Environment) : ∀ expr : Expr,
    evaluate calls ⟨program, session, home⟩ env expr =
      evaluate calls ⟨program', session, home⟩ env expr
  | .integer .. | .decimal .. | .text .. | .atom .. | .boolean .. | .nil _ | .typeName .. => by
      simp only [evaluate]
  | .lambda .. => by
      simp only [evaluate]
      rfl
  | .ident identifier => by
      simp only [evaluate]
      exact valueOfName_congr agrees env identifier
  | .binary left op right span => by
      simp only [evaluate, evaluate_congr agrees calls env left,
        evaluate_congr agrees calls env right]
  | .unary op operand span => by
      simp only [evaluate, evaluate_congr agrees calls env operand]
  | .call callee arguments span => by
      simp only [evaluate, evaluateAll_congr agrees calls env arguments, callNamed_congr agrees]
  | .delegate callee arguments span => by
      simp only [evaluate, evaluateAll_congr agrees calls env arguments]
  | .field subject name span => by
      simp only [evaluate, evaluate_congr agrees calls env subject]
  | .pipe left callee _ => by
      simp only [evaluate, evaluate_congr agrees calls env left, callNamed_congr agrees]
  | .pipeCall left callee arguments callSpan _ => by
      simp only [evaluate, evaluate_congr agrees calls env left,
        evaluateAll_congr agrees calls env arguments, callNamed_congr agrees]
  | .alternative left right _ => by
      simp only [evaluate, evaluate_congr agrees calls env left,
        evaluate_congr agrees calls env right]
  | .result tag value _ => by
      simp only [evaluate, evaluate_congr agrees calls env value]
  | .tuple elements _ => by
      simp only [evaluate, evaluateAll_congr agrees calls env elements]
  | .list elements none _ => by
      simp only [evaluate, evaluateAll_congr agrees calls env elements]
  | .list elements (some tail) _ => by
      simp only [evaluate, evaluateAll_congr agrees calls env elements,
        evaluate_congr agrees calls env tail]
  | .map entries _ => by
      simp only [evaluate, evaluateEntries_congr agrees calls env entries]
  | .record tag entries _ => by
      simp only [evaluate, evaluateEntries_congr agrees calls env entries]
  | .conditional condition thenBranch elseBranch _ => by
      simp only [evaluate, evaluate_congr agrees calls env condition,
        evaluate_congr agrees calls env thenBranch, evaluate_congr agrees calls env elseBranch]

theorem evaluateAll_congr (agrees : program.Agrees program') (calls : Calls)
    (env : Environment) : ∀ exprs : List Expr,
    evaluateAll calls ⟨program, session, home⟩ env exprs =
      evaluateAll calls ⟨program', session, home⟩ env exprs
  | [] => rfl
  | expr :: rest => by
      simp only [evaluateAll, evaluate_congr agrees calls env expr,
        evaluateAll_congr agrees calls env rest]

theorem evaluateEntries_congr (agrees : program.Agrees program') (calls : Calls)
    (env : Environment) : ∀ entries : List (String × Expr),
    evaluateEntries calls ⟨program, session, home⟩ env entries =
      evaluateEntries calls ⟨program', session, home⟩ env entries
  | [] => rfl
  | (key, expr) :: rest => by
      simp only [evaluateEntries, evaluate_congr agrees calls env expr,
        evaluateEntries_congr agrees calls env rest]

end

/-! ## Calls -/

section

variable (agrees : program.Agrees program') (calls : Calls)

include agrees

theorem guardHolds_congr (clause : Clause) (bindings : Bindings) :
    guardHolds calls ⟨program, session, home⟩ clause bindings =
      guardHolds calls ⟨program', session, home⟩ clause bindings := by
  simp only [guardHolds, evaluate_congr agrees]

theorem tryClauses_congr (signature : Signature) (arguments : List Value)
    (clauses : List Clause) :
    tryClauses calls ⟨program, session, home⟩ signature arguments clauses =
      tryClauses calls ⟨program', session, home⟩ signature arguments clauses := by
  induction clauses with
  | nil => rfl
  | cons clause rest ih =>
      simp only [tryClauses, guardHolds_congr agrees, evaluate_congr agrees, ih]

end

/-- The indices of clauses do not matter to a call. -/
theorem tryClauses_map_unnumbered (calls : Calls) (setting : Setting) (signature : Signature)
    (arguments : List Value) (clauses : List Clause) :
    tryClauses calls setting signature arguments (clauses.map Clause.unnumbered) =
      tryClauses calls setting signature arguments clauses := by
  induction clauses with
  | nil => rfl
  | cons clause rest ih =>
      rw [List.map_cons, tryClauses, tryClauses, ih]
      rfl

section

variable (agrees : program.Agrees program')

include agrees

theorem dispatchClauses_congr (calls : Calls) (name : String) (arguments : List Value) :
    dispatchClauses calls ⟨program, session, home⟩ name arguments =
      dispatchClauses calls ⟨program', session, home⟩ name arguments := by
  simp only [dispatchClauses, agrees.declares]
  rw [tryClauses_congr agrees, ← tryClauses_map_unnumbered _ _ _ _ (program.clausesOf _),
    agrees, tryClauses_map_unnumbered]

theorem enter_congr (calls : Calls) (span? : Option Span) (callee : Value)
    (arguments : List Value) :
    enter calls ⟨program, session, home⟩ span? callee arguments =
      enter calls ⟨program', session, home⟩ span? callee arguments := by
  simp only [enter, evaluate_congr agrees, callGlobal_congr agrees]

/-- Programs that agree go through the same calls, however deep. -/
theorem callsWithin_congr (depth : Nat) :
    callsWithin ⟨program, session, home⟩ depth = callsWithin ⟨program', session, home⟩ depth := by
  induction depth with
  | zero => rfl
  | succ depth ih =>
      have dispatches : dispatchWithin ⟨program, session, home⟩ (depth + 1) =
          dispatchWithin ⟨program', session, home⟩ (depth + 1) := by
        funext name arguments
        rw [dispatchWithin, dispatchWithin]
        exact (dispatchClauses_congr agrees _ name arguments).trans (by rw [← callsWithin, ih]; rfl)
      have invokes : invokeWithin ⟨program, session, home⟩ (depth + 1) =
          invokeWithin ⟨program', session, home⟩ (depth + 1) := by
        funext span? callee arguments
        rw [invokeWithin, invokeWithin]
        exact (enter_congr agrees _ span? callee arguments).trans (by rw [← callsWithin, ih]; rfl)
      rw [callsWithin, callsWithin, dispatches, invokes]

end

/-- Two sequences with the same declarations of each function, in the same order, give each function
the same clauses up to their indices, and every call has the same outcome in both programs, however
deep it goes. -/
theorem interleaving_irrelevant {declarations declarations' : List Declaration}
    (same : ∀ signature : Signature,
      (declarations.filter fun declaration => declaration.signature = signature) =
        declarations'.filter fun declaration => declaration.signature = signature) :
    (∀ signature,
      (Clause.ofSignature signature (Clause.ofDeclarations declarations)).map Clause.unnumbered =
        (Clause.ofSignature signature (Clause.ofDeclarations declarations')).map
          Clause.unnumbered) ∧
      ∀ (session : List Value.Frame) (home : Nat) (name : String) (arguments : List Value)
        (depth : Nat),
        let setting : Setting := ⟨.ofDeclarations declarations, session, home⟩
        let setting' : Setting := ⟨.ofDeclarations declarations', session, home⟩
        callGlobal (callsWithin setting depth) setting name arguments none =
            callGlobal (callsWithin setting' depth) setting' name arguments none ∧
          dispatchWithin setting depth name arguments =
            dispatchWithin setting' depth name arguments := by
  have agrees : (Program.ofDeclarations declarations).Agrees (.ofDeclarations declarations') :=
    fun signature => Clause.map_unnumbered_ofDeclarations_congr (same signature)
  refine ⟨agrees, fun session home name arguments depth => ?_⟩
  intro setting setting'
  have calls : callsWithin setting depth = callsWithin setting' depth :=
    callsWithin_congr agrees depth
  constructor
  · rw [calls]
    exact callGlobal_congr agrees _ name arguments none
  · exact congrFun (congrFun (congrArg Calls.dispatch calls) name) arguments

/-- `def name(0) -> answer`. -/
def answeringZero (name : String) (answer : Bool) : Declaration :=
  let here : Span := .generated
  ⟨.plain ⟨name, [.literal (.integer 0) here], here⟩, .boolean answer here, false, none, here⟩

/-- `def name(n) -> other(n - 1)`. -/
def askingPrevious (name other : String) : Declaration :=
  let here : Span := .generated
  let previous : Expr := .binary (.ident ⟨"n", here⟩) .sub (.integer 1 here) here
  ⟨.plain ⟨name, [.binding "n" here], here⟩, .call ⟨other, here⟩ [previous] here, false, none,
    here⟩

/-- Whether a number is even or odd, function by function. -/
def parity : List Declaration :=
  [answeringZero "even" true, askingPrevious "even" "odd", answeringZero "odd" false,
    askingPrevious "odd" "even"]

/-- Whether a number is even or odd, with the functions mixed. -/
def mixedParity : List Declaration :=
  [answeringZero "odd" false, answeringZero "even" true, askingPrevious "odd" "even",
    askingPrevious "even" "odd"]

theorem interleaving_irrelevant_parity :
    (∀ signature : Signature,
      (parity.filter fun declaration => declaration.signature = signature) =
        mixedParity.filter fun declaration => declaration.signature = signature) ∧
      ∀ (number : Int) (depth : Nat),
        callGlobal (callsWithin ⟨.ofDeclarations parity, [], 0⟩ depth)
            ⟨.ofDeclarations parity, [], 0⟩ "even" [.integer number] none =
          callGlobal (callsWithin ⟨.ofDeclarations mixedParity, [], 0⟩ depth)
            ⟨.ofDeclarations mixedParity, [], 0⟩ "even" [.integer number] none := by
  have same : ∀ signature : Signature,
      (parity.filter fun declaration => declaration.signature = signature) =
        mixedParity.filter fun declaration => declaration.signature = signature := by
    intro signature
    by_cases isEven : signature = ⟨"even", 1⟩
    · subst isEven
      decide +kernel
    · by_cases isOdd : signature = ⟨"odd", 1⟩
      · subst isOdd
        decide +kernel
      · have others : ∀ declaration ∈ parity ++ mixedParity,
            declaration.signature = ⟨"even", 1⟩ ∨ declaration.signature = ⟨"odd", 1⟩ := by
          decide +kernel
        have none : ∀ declaration ∈ parity ++ mixedParity,
            ¬decide (declaration.signature = signature) = true := by
          intro declaration member
          rw [decide_eq_true_eq]
          rintro rfl
          exact (others declaration member).elim isEven isOdd
        rcases List.forall_mem_append.mp none with ⟨noneHere, noneMixed⟩
        rw [List.filter_eq_nil_iff.mpr noneHere, List.filter_eq_nil_iff.mpr noneMixed]
  exact ⟨same, fun number depth => ((interleaving_irrelevant same).2 [] 0 _ _ depth).1⟩

end Eval
end ClauseFlow

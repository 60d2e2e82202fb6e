import ClauseFlow.Proofs.Eval.Depth

/-!
# Expressions that evaluate alike

Two expressions are alike if they differ only in places and in names, names at corresponding places
standing for the same value or the same function. A guard cannot tell alike expressions apart: they
come to the same value, or both are interrupted, by interrupts that a guard treats in the same way.

Expressions with a lambda in them are not compared here, since a closure keeps its text.
-/

namespace ClauseFlow

/-! ## What a guard sees of an interrupt -/

/-- An interrupt with all forgotten that no guard can see: of an error only whether it is one of
dispatch, an unbound name, or another one. -/
def Interrupt.blurred : Interrupt → Interrupt
  | .error (.unboundName ..) => .error (.unboundName "" .generated)
  | .error (.noClause signature arguments) => .error (.noClause signature arguments)
  | .error _ => .error (.divisionByZero .generated)
  | other => other

/-- Whether no guard absorbs an interrupt: it is an error of dispatch or a fault, or the run does
not end. -/
def Interrupt.PassesGuards : Interrupt → Prop
  | .error (.noClause ..) | .fault _ | .tooDeep => True
  | .error _ => False

/-- Of interrupts that no guard absorbs nothing is forgotten. -/
theorem Interrupt.eq_of_blurred_eq {stop stop' : Interrupt} (passes : stop.PassesGuards)
    (same : stop.blurred = stop'.blurred) : stop = stop' := by
  cases stop with
  | error error =>
      cases error with
      | noClause signature arguments =>
          cases stop' with
          | error error' => cases error' <;> cases same; rfl
          | _ => cases same
      | _ => exact passes.elim
  | fault fault =>
      cases stop' with
      | error error' => cases error' <;> cases same
      | fault fault' => cases same; rfl
      | tooDeep => cases same
  | tooDeep =>
      cases stop' with
      | error error' => cases error' <;> cases same
      | fault fault' => cases same
      | tooDeep => rfl

/-- Whether an interrupt says that a name is unbound. -/
def Interrupt.IsUnbound (stop : Interrupt) : Prop :=
  ∃ name span, stop = .error (.unboundName name span)

/-- Interrupts that a guard treats in the same way count as the same. A lenient comparison also
excuses a second run that comes upon an unbound name. -/
def Tolerance.blurred (lenient : Prop) : Tolerance where
  first _ := False
  second stop := lenient ∧ stop.IsUnbound
  both stop stop' := stop.blurred = stop'.blurred
  both_refl _ := rfl

namespace Eval

variable {lenient : Prop}

/-- Whether two runs cannot be told apart by a guard, up to leniency. -/
abbrev Blurs (lenient : Prop) {α : Type} (run run' : Run α) : Prop :=
  Run.Near (Tolerance.blurred lenient) run run'

/-- Errors that show the same values and that a guard treats in the same way. -/
theorem raise_blurs {α : Type} {error error' : RuntimeError}
    (sameShown : error.shown = error'.shown)
    (sameBlur : (Interrupt.error error).blurred = (Interrupt.error error').blurred) :
    Blurs lenient (Run.raise error : Run α) (Run.raise error') := by
  intro stamp
  rw [Run.raise_apply, Run.raise_apply, sameShown]
  refine .inr (.inr ?_)
  change Interrupt.blurred _ = Interrupt.blurred _
  split
  · exact sameBlur
  · rfl

/-! ## Operators do not look at places -/

theorem truth_blurs (op : String) (value : Value) (span span' : Span) :
    Blurs lenient (truth op value span) (truth op value span') := by
  simp only [truth]
  split
  · exact Run.Near.refl _
  · exact raise_blurs rfl rfl

theorem compare_blurs (op : BinaryOp) (left right : Value) (span span' : Span) :
    Blurs lenient (compare op left right span) (compare op left right span') := by
  unfold compare
  split
  · exact Run.Near.refl _
  · split
    · exact Run.Near.refl _
    · exact raise_blurs rfl rfl

theorem arithmetic_blurs (home : Nat) (op : BinaryOp) (left right : Value) (span span' : Span) :
    Blurs lenient (arithmetic home op left right span) (arithmetic home op left right span') := by
  simp only [arithmetic]
  split
  · split
    · exact Run.Near.refl _
    · exact Run.Near.refl _
    · exact Run.Near.refl _
    · exact Run.Near.ite (fun _ => raise_blurs rfl rfl) fun _ => Run.Near.refl _
    · exact Run.Near.ite (fun _ => raise_blurs rfl rfl) fun _ => Run.Near.refl _
  · exact raise_blurs rfl rfl

theorem binary_blurs (home : Nat) (op : BinaryOp) (left right : Value) (span span' : Span) :
    Blurs lenient (binary home op left right span) (binary home op left right span') := by
  simp only [binary]
  split
  · exact Run.Near.refl _
  · exact Run.Near.refl _
  · split
    · exact Run.Near.refl _
    · exact raise_blurs rfl rfl
  all_goals first
    | exact compare_blurs _ left right span span'
    | exact arithmetic_blurs home _ left right span span'

theorem unary_blurs (home : Nat) (op : UnaryOp) (value : Value) (span span' : Span) :
    Blurs lenient (unary home op value span) (unary home op value span') := by
  cases op with
  | not => exact (truth_blurs "not" value span span').bind_same
  | negate =>
      simp only [unary]
      split
      · exact Run.Near.refl _
      · exact raise_blurs rfl rfl

theorem field_blurs (subject : Value) (name : String) (span span' : Span) :
    Blurs lenient (field subject name span) (field subject name span') := by
  simp only [field]
  split
  · split
    · exact Run.Near.refl _
    · exact raise_blurs rfl rfl
  · exact raise_blurs rfl rfl

theorem prepend_blurs (elements : List Value) (tail : Value) (span span' : Span) :
    Blurs lenient (prepend elements tail span) (prepend elements tail span') := by
  simp only [prepend]
  split
  · exact Run.Near.refl _
  · exact raise_blurs rfl rfl

end Eval

/-! ## Alike expressions -/

/-- Which names of one expression correspond to which names of another one: where they are used as
values, and where they are called. -/
structure Link where
  uses : String → String → Prop
  callees : String → String → Prop

mutual

/-- Expressions that differ only in places and in corresponding names. -/
inductive Expr.Alike (link : Link) : Expr → Expr → Prop where
  | integer (value : Nat) (span span' : Span) :
      Alike link (.integer value span) (.integer value span')
  | decimal (value : Binary64) (span span' : Span) :
      Alike link (.decimal value span) (.decimal value span')
  | text (value : String) (span span' : Span) : Alike link (.text value span) (.text value span')
  | atom (name : String) (span span' : Span) : Alike link (.atom name span) (.atom name span')
  | boolean (value : Bool) (span span' : Span) :
      Alike link (.boolean value span) (.boolean value span')
  | nil (span span' : Span) : Alike link (.nil span) (.nil span')
  | ident {name name' : String} (span span' : Span) :
      link.uses name name' → Alike link (.ident ⟨name, span⟩) (.ident ⟨name', span'⟩)
  | typeName (name : String) (span span' : Span) :
      Alike link (.typeName name span) (.typeName name span')
  | binary {left left' right right' : Expr} (op : BinaryOp) (span span' : Span) :
      Alike link left left' → Alike link right right' →
      Alike link (.binary left op right span) (.binary left' op right' span')
  | unary {operand operand' : Expr} (op : UnaryOp) (span span' : Span) :
      Alike link operand operand' → Alike link (.unary op operand span) (.unary op operand' span')
  | call {name name' : String} {arguments arguments' : List Expr}
      (place place' span span' : Span) :
      link.callees name name' → AllAlike link arguments arguments' →
      Alike link (.call ⟨name, place⟩ arguments span) (.call ⟨name', place'⟩ arguments' span')
  | field {subject subject' : Expr} (name : String) (span span' : Span) :
      Alike link subject subject' →
      Alike link (.field subject name span) (.field subject' name span')
  | pipe {left left' : Expr} {name name' : String} (place place' span span' : Span) :
      Alike link left left' → link.callees name name' →
      Alike link (.pipe left ⟨name, place⟩ span) (.pipe left' ⟨name', place'⟩ span')
  | pipeCall {left left' : Expr} {name name' : String} {arguments arguments' : List Expr}
      (place place' callSpan callSpan' span span' : Span) :
      Alike link left left' → link.callees name name' → AllAlike link arguments arguments' →
      Alike link (.pipeCall left ⟨name, place⟩ arguments callSpan span)
        (.pipeCall left' ⟨name', place'⟩ arguments' callSpan' span')
  | alternative {left left' right right' : Expr} (span span' : Span) :
      Alike link left left' → Alike link right right' →
      Alike link (.alternative left right span) (.alternative left' right' span')
  | result {value value' : Expr} (tag : ResultTag) (span span' : Span) :
      Alike link value value' → Alike link (.result tag value span) (.result tag value' span')
  | tuple {elements elements' : List Expr} (span span' : Span) :
      AllAlike link elements elements' →
      Alike link (.tuple elements span) (.tuple elements' span')
  | list {elements elements' : List Expr} (span span' : Span) :
      AllAlike link elements elements' →
      Alike link (.list elements none span) (.list elements' none span')
  | listWithTail {elements elements' : List Expr} {tail tail' : Expr} (span span' : Span) :
      AllAlike link elements elements' → Alike link tail tail' →
      Alike link (.list elements (some tail) span) (.list elements' (some tail') span')
  | map {entries entries' : List (String × Expr)} (span span' : Span) :
      EntriesAlike link entries entries' →
      Alike link (.map entries span) (.map entries' span')
  | record {entries entries' : List (String × Expr)} (tag : String) (span span' : Span) :
      EntriesAlike link entries entries' →
      Alike link (.record tag entries span) (.record tag entries' span')
  | conditional {condition condition' thenBranch thenBranch' elseBranch elseBranch' : Expr}
      (span span' : Span) :
      Alike link condition condition' → Alike link thenBranch thenBranch' →
      Alike link elseBranch elseBranch' →
      Alike link (.conditional condition thenBranch elseBranch span)
        (.conditional condition' thenBranch' elseBranch' span')

inductive Expr.AllAlike (link : Link) : List Expr → List Expr → Prop where
  | nil : AllAlike link [] []
  | cons {expr expr' : Expr} {rest rest' : List Expr} :
      Alike link expr expr' → AllAlike link rest rest' →
      AllAlike link (expr :: rest) (expr' :: rest')

inductive Expr.EntriesAlike (link : Link) :
    List (String × Expr) → List (String × Expr) → Prop where
  | nil : EntriesAlike link [] []
  | cons {expr expr' : Expr} {rest rest' : List (String × Expr)} (key : String) :
      Alike link expr expr' → EntriesAlike link rest rest' →
      EntriesAlike link ((key, expr) :: rest) ((key, expr') :: rest')

end

/-- Whether corresponding names stand for the same thing in two environments. Names that are bound
in neither are the same name. Where leniency allows it, a name used as a value may instead stand for
nothing at all in the second environment. -/
structure Link.Relates (link : Link) (lenient : Prop) (setting : Setting)
    (env env' : Environment) : Prop where
  uses : ∀ name name', link.uses name name' →
    setting.lookup env name = setting.lookup env' name' ∧
        (setting.lookup env name = none → name = name') ∨
      lenient ∧ setting.lookup env' name' = none ∧ setting.program.knows name' = false
  callees : ∀ name name', link.callees name name' →
    setting.lookup env name = setting.lookup env' name' ∧
      (setting.lookup env name = none → name = name')

namespace Eval

/-! ## Evaluating alike expressions -/

/-- Calls that forget the place where a function value is called. -/
def PlaceBlind (lenient : Prop) (calls : Calls) : Prop :=
  ∀ span? span?' callee arguments,
    Blurs lenient (calls.invoke span? callee arguments) (calls.invoke span?' callee arguments)

variable {link : Link} {calls : Calls} {setting : Setting} {env env' : Environment}

/-- A name that stands for nothing is unbound. -/
theorem valueOfName_unbound {identifier : Identifier}
    (unbound : setting.lookup env identifier.name = none)
    (unknown : setting.program.knows identifier.name = false) (stamp : Nat) :
    valueOfName setting env identifier stamp =
      .error (.error (.unboundName identifier.name identifier.span)) := by
  simp only [valueOfName, unbound, unknown, Bool.false_eq_true, if_false]
  exact (Run.raise_apply _ _).trans rfl

theorem valueOfName_blurs (relates : link.Relates lenient setting env env') {name name' : String}
    (linked : link.uses name name') (span span' : Span) :
    Blurs lenient (valueOfName setting env ⟨name, span⟩)
      (valueOfName setting env' ⟨name', span'⟩) := by
  rcases relates.uses name name' linked with ⟨same, unboundSame⟩ | ⟨allowed, unbound, unknown⟩
  · simp only [valueOfName, ← same]
    cases found : setting.lookup env name with
    | some value => exact Run.Near.refl _
    | none =>
        obtain rfl := unboundSame found
        exact Run.Near.ite (fun _ => Run.Near.refl _) fun _ => raise_blurs rfl rfl
  · intro stamp
    have stops : valueOfName setting env' ⟨name', span'⟩ stamp = _ :=
      valueOfName_unbound unbound unknown stamp
    have excused : (Tolerance.blurred lenient).second (.error (.unboundName name' span')) :=
      ⟨allowed, name', span', rfl⟩
    rw [stops]
    exact Tolerance.allows_of_second excused _

theorem callGlobal_blurs (name : String) (arguments : List Value) (span? span?' : Option Span) :
    Blurs lenient (callGlobal calls setting name arguments span?)
      (callGlobal calls setting name arguments span?') := by
  rw [callGlobal]
  apply Run.Near.ite (fun _ => Run.Near.refl _)
  intro _
  split
  · exact Run.Near.refl _
  · exact raise_blurs rfl rfl

theorem callNamed_blurs (blind : PlaceBlind lenient calls)
    (relates : link.Relates lenient setting env env') {name name' : String}
    (linked : link.callees name name') (arguments : List Value) (span span' : Span) :
    Blurs lenient (callNamed calls setting env name arguments span)
      (callNamed calls setting env' name' arguments span') := by
  rcases relates.callees name name' linked with ⟨same, unboundSame⟩
  simp only [callNamed]
  rw [← same]
  cases found : setting.lookup env name with
  | some callee => exact blind (some span) (some span') callee arguments
  | none =>
      obtain rfl := unboundSame found
      exact callGlobal_blurs name arguments (some span) (some span')

mutual

/-- A guard cannot tell alike expressions apart. -/
theorem evaluate_blurs (blind : PlaceBlind lenient calls)
    (relates : link.Relates lenient setting env env') :
    ∀ {expr expr' : Expr}, expr.Alike link expr' →
      Blurs lenient (evaluate calls setting env expr) (evaluate calls setting env' expr')
  | .integer .., _, alike | .decimal .., _, alike | .text .., _, alike | .atom .., _, alike
  | .boolean .., _, alike | .nil _, _, alike | .typeName .., _, alike => by
      cases alike
      simp only [evaluate]
      exact Run.Near.refl _
  | .ident _, _, alike => by
      cases alike with
      | ident span span' linked =>
          simp only [evaluate]
          exact valueOfName_blurs relates linked span span'
  | .binary left op right _, _, alike => by
      cases alike with
      | binary _ span span' leftAlike rightAlike =>
          simp only [evaluate]
          apply Run.Near.bind (evaluate_blurs blind relates leftAlike)
          intro first
          have nearRight := evaluate_blurs blind relates rightAlike
          cases op with
          | and =>
              apply Run.Near.bind (truth_blurs _ _ _ _)
              intro holds
              apply Run.Near.ite (fun _ => nearRight.bind ?_) fun _ => Run.Near.refl _
              intro second
              exact (truth_blurs _ _ _ _).bind_same
          | or =>
              apply Run.Near.bind (truth_blurs _ _ _ _)
              intro holds
              apply Run.Near.ite (fun _ => Run.Near.refl _) fun _ => nearRight.bind ?_
              intro second
              exact (truth_blurs _ _ _ _).bind_same
          | _ => exact nearRight.bind fun second => binary_blurs _ _ _ _ _ _
  | .unary op operand _, _, alike => by
      cases alike with
      | unary _ span span' operandAlike =>
          simp only [evaluate]
          exact (evaluate_blurs blind relates operandAlike).bind fun value => unary_blurs _ _ _ _ _
  | .call _ arguments _, _, alike => by
      cases alike with
      | call place place' span span' linked argumentsAlike =>
          simp only [evaluate]
          apply Run.Near.bind (evaluateAll_blurs blind relates argumentsAlike)
          intro values
          exact callNamed_blurs blind relates linked values _ _
  | .delegate .., _, alike => by cases alike
  | .lambda .., _, alike => by cases alike
  | .field subject _ _, _, alike => by
      cases alike with
      | field _ span span' subjectAlike =>
          simp only [evaluate]
          exact (evaluate_blurs blind relates subjectAlike).bind fun value => field_blurs _ _ _ _
  | .pipe left _ _, _, alike => by
      cases alike with
      | pipe place place' span span' leftAlike linked =>
          simp only [evaluate]
          apply Run.Near.bind (evaluate_blurs blind relates leftAlike)
          intro value
          exact callNamed_blurs blind relates linked [value] _ _
  | .pipeCall left _ arguments _ _, _, alike => by
      cases alike with
      | pipeCall place place' callSpan callSpan' span span' leftAlike linked argumentsAlike =>
          simp only [evaluate]
          apply Run.Near.bind (evaluate_blurs blind relates leftAlike)
          intro value
          apply Run.Near.bind (evaluateAll_blurs blind relates argumentsAlike)
          intro values
          exact callNamed_blurs blind relates linked (value :: values) _ _
  | .alternative left right _, _, alike => by
      cases alike with
      | alternative span span' leftAlike rightAlike =>
          simp only [evaluate]
          apply Run.Near.bind (evaluate_blurs blind relates leftAlike)
          intro value
          split
          · exact Run.Near.refl _
          · exact evaluate_blurs blind relates rightAlike
          · exact Run.Near.ite (fun _ => Run.Near.refl _) fun _ => raise_blurs rfl rfl
  | .result _ value _, _, alike => by
      cases alike with
      | result _ span span' valueAlike =>
          simp only [evaluate]
          exact (evaluate_blurs blind relates valueAlike).bind_same
  | .tuple elements _, _, alike => by
      cases alike with
      | tuple span span' elementsAlike =>
          simp only [evaluate]
          exact (evaluateAll_blurs blind relates elementsAlike).bind_same
  | .list elements none _, _, alike => by
      cases alike with
      | list span span' elementsAlike =>
          simp only [evaluate]
          exact (evaluateAll_blurs blind relates elementsAlike).bind_same
  | .list elements (some tail) _, _, alike => by
      cases alike with
      | listWithTail span span' elementsAlike tailAlike =>
          simp only [evaluate]
          apply Run.Near.bind (evaluateAll_blurs blind relates elementsAlike)
          intro values
          exact (evaluate_blurs blind relates tailAlike).bind fun rest => prepend_blurs _ _ _ _
  | .map entries _, _, alike => by
      cases alike with
      | map span span' entriesAlike =>
          simp only [evaluate]
          exact (evaluateEntries_blurs blind relates entriesAlike).bind_same
  | .record _ entries _, _, alike => by
      cases alike with
      | record _ span span' entriesAlike =>
          simp only [evaluate]
          exact (evaluateEntries_blurs blind relates entriesAlike).bind_same
  | .conditional condition thenBranch elseBranch _, _, alike => by
      cases alike with
      | conditional span span' conditionAlike thenAlike elseAlike =>
          simp only [evaluate]
          apply Run.Near.bind (evaluate_blurs blind relates conditionAlike)
          intro value
          exact Run.Near.ite (fun _ => evaluate_blurs blind relates thenAlike)
            fun _ => evaluate_blurs blind relates elseAlike

theorem evaluateAll_blurs (blind : PlaceBlind lenient calls)
    (relates : link.Relates lenient setting env env') :
    ∀ {exprs exprs' : List Expr}, Expr.AllAlike link exprs exprs' →
      Blurs lenient (evaluateAll calls setting env exprs) (evaluateAll calls setting env' exprs')
  | [], _, alike => by
      cases alike
      simp only [evaluateAll]
      exact Run.Near.refl _
  | expr :: rest, _, alike => by
      cases alike with
      | cons exprAlike restAlike =>
          simp only [evaluateAll]
          apply Run.Near.bind (evaluate_blurs blind relates exprAlike)
          intro value
          exact (evaluateAll_blurs blind relates restAlike).bind_same

theorem evaluateEntries_blurs (blind : PlaceBlind lenient calls)
    (relates : link.Relates lenient setting env env') :
    ∀ {entries entries' : List (String × Expr)}, Expr.EntriesAlike link entries entries' →
      Blurs lenient (evaluateEntries calls setting env entries)
        (evaluateEntries calls setting env' entries')
  | [], _, alike => by
      cases alike
      simp only [evaluateEntries]
      exact Run.Near.refl _
  | (_, expr) :: rest, _, alike => by
      cases alike with
      | cons _ exprAlike restAlike =>
          simp only [evaluateEntries]
          apply Run.Near.bind (evaluate_blurs blind relates exprAlike)
          intro value
          exact (evaluateEntries_blurs blind relates restAlike).bind_same

end

/-- The place of a call shows in error messages only. -/
theorem callsWithin_placeBlind (setting : Setting) (depth : Nat) :
    PlaceBlind lenient (callsWithin setting depth) := by
  intro span? span?' callee arguments
  cases depth with
  | zero => exact Run.Near.refl _
  | succ depth =>
      change Blurs lenient (enter _ setting span? callee arguments)
        (enter _ setting span?' callee arguments)
      simp only [enter]
      split
      · exact Run.Near.refl _
      · exact Run.Near.refl _
      · exact raise_blurs rfl rfl

/-! ## Verdicts -/

/-- A verdict sees of an interrupt only what a blurred one shows. -/
theorem verdict_of_blurred_eq (kind : ClauseKind) {guard guard' : Run Value} {stamp : Nat}
    {stop stop' : Interrupt} (outcome : guard stamp = .error stop)
    (outcome' : guard' stamp = .error stop') (same : stop.blurred = stop'.blurred) :
    verdict kind guard stamp = verdict kind guard' stamp := by
  simp only [verdict]
  rw [outcome, outcome']
  cases stop with
  | error error =>
      cases stop' with
      | error error' => cases error <;> cases error' <;> cases same <;> rfl
      | fault fault' => cases error <;> cases same
      | tooDeep => cases error <;> cases same
  | fault fault =>
      cases stop' with
      | error error' => cases error' <;> cases same
      | fault fault' => cases same; rfl
      | tooDeep => cases same
  | tooDeep =>
      cases stop' with
      | error error' => cases error' <;> cases same
      | fault fault' => cases same
      | tooDeep => rfl

/-- Guards that cannot be told apart get the same verdict. -/
theorem verdict_eq_of_blurs (kind : ClauseKind) {guard guard' : Run Value}
    (blurs : Blurs False guard guard') : verdict kind guard = verdict kind guard' := by
  funext stamp
  have here := blurs stamp
  cases outcome : guard stamp with
  | ok result =>
      cases outcome' : guard' stamp with
      | ok result' =>
          rw [outcome, outcome'] at here
          obtain rfl : result = result' := here
          simp only [verdict, outcome, outcome']
      | error stop' =>
          rw [outcome, outcome'] at here
          exact here.1.elim
  | error stop =>
      cases outcome' : guard' stamp with
      | ok result' =>
          rw [outcome, outcome'] at here
          exact here.elim
      | error stop' =>
          rw [outcome, outcome'] at here
          rcases here with impossible | ⟨impossible, _⟩ | same
          · exact impossible.elim
          · exact impossible.elim
          · exact verdict_of_blurred_eq kind outcome outcome' same

/-- A declaration answers only if its guard comes out as `true`. -/
theorem of_verdict_default {guard : Run Value} {stamp stamp' : Nat}
    (holds : verdict .default guard stamp = .ok (true, stamp')) :
    ∃ next, guard stamp = .ok (.boolean true, next) := by
  rw [verdict] at holds
  split at holds
  · exact ⟨_, by assumption⟩
  all_goals simp at holds

/-- If the guard of a declaration holds, an unwrapping clause goes ahead on one that comes out as
`true` as well or else comes upon an unbound name. -/
theorem verdict_okUnwrap_of_blurs {guard guard' : Run Value} (blurs : Blurs True guard guard')
    {stamp stamp' : Nat} (holds : verdict .default guard stamp = .ok (true, stamp')) :
    verdict .okUnwrap guard' stamp = .ok (true, stamp) := by
  rcases of_verdict_default holds with ⟨next, outcome⟩
  have here := blurs stamp
  rw [outcome] at here
  rw [verdict]
  rcases outcome' : guard' stamp with stop | result
  · rw [outcome'] at here
    rcases here with ⟨_, name, span, rfl⟩
    rfl
  · rw [outcome'] at here
    obtain rfl : (Value.boolean true, next) = result := here
    rfl

/-- A guard that interrupts its call does so itself, with what no guard absorbs. -/
theorem of_verdict_error {kind : ClauseKind} {guard : Run Value} {stamp : Nat} {stop : Interrupt}
    (interrupts : verdict kind guard stamp = .error stop) :
    guard stamp = .error stop ∧ stop.PassesGuards := by
  rw [verdict] at interrupts
  rcases outcome : guard stamp with found | ⟨value, next⟩
  · rw [outcome] at interrupts
    cases found with
    | error error =>
        cases error with
        | noClause signature arguments =>
            cases interrupts
            exact ⟨rfl, trivial⟩
        | _ => cases interrupts
    | _ =>
        cases interrupts
        exact ⟨rfl, trivial⟩
  · rw [outcome] at interrupts
    cases value with
    | boolean holds => cases holds <;> cases interrupts
    | _ => cases interrupts

/-- What no guard absorbs is the same for guards that cannot be told apart. -/
theorem eq_error_of_blurs {guard guard' : Run Value} (blurs : Blurs False guard guard')
    {stamp : Nat} {stop : Interrupt} (passes : stop.PassesGuards)
    (interrupts : guard stamp = .error stop) : guard' stamp = .error stop := by
  have here := blurs stamp
  rw [interrupts] at here
  rcases outcome' : guard' stamp with stop' | result
  · rw [outcome'] at here
    rcases here with impossible | ⟨impossible, _⟩ | same
    · exact impossible.elim
    · exact impossible.elim
    · rw [Interrupt.eq_of_blurred_eq passes same]
  · rw [outcome'] at here
    exact here.elim

end Eval
end ClauseFlow

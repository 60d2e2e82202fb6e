import ClauseFlow.Eval.Dispatch
import ClauseFlow.Proofs.Expr.Names
import ClauseFlow.Proofs.Value.Closures

/-!
# Names that are answered

If the names that an expression uses and calls are answered where it is evaluated, then evaluation
never ends in an error about a name. Closures carry their bodies to other places, but also the
environment in which the names of the body are answered; so it is enough that every clause body of a
program is answered wherever the patterns of its clause fit.
-/

namespace ClauseFlow.Eval

open Run (Safe)
open Value (AllClosures)

/-- Whether names that are used and called stand for something in an environment, or else lead to
allowed errors. -/
structure Answered (allowed : RuntimeError → Prop) (setting : Setting) (env : Environment)
    (references : List Identifier) (calls : List NamedCall) : Prop where
  uses : ∀ reference ∈ references,
    (setting.lookup env reference.name).isSome ∨ setting.program.knows reference.name = true ∨
      allowed (.unboundName reference.name reference.span)
  callees : ∀ call ∈ calls,
    (setting.lookup env call.signature.name).isSome ∨
      setting.program.declares call.signature = true ∨
      (Program.builtin? call.signature).isSome ∨
      allowed (.undefinedFunction call.signature (some call.span))

/-- The condition on closures: made inside a call, where the names that are no parameters are
answered. -/
def answeredOutside (allowed : RuntimeError → Prop) (setting : Setting) : Value.ClosureTest :=
  fun params body env =>
    env.level = 0 ∧ Answered allowed setting env (body.references params) (body.calls params)

/-- Whether the closures in a value answer their names. -/
abbrev Answering (allowed : RuntimeError → Prop) (setting : Setting) : Value → Prop :=
  AllClosures (answeredOutside allowed setting)

/-- Whether an environment is inside a call and binds values whose closures answer their names. -/
structure Furnished (allowed : RuntimeError → Prop) (setting : Setting) (env : Environment) :
    Prop where
  inside : env.level = 0
  values : ∀ frame ∈ env.frames, ∀ binding ∈ frame, Answering allowed setting binding.2

/-- Whether calls are safe and return values whose closures answer their names. -/
structure SafeCalls (allowed : RuntimeError → Prop) (setting : Setting) (calls : Calls) : Prop where
  dispatch : ∀ name arguments, (∀ argument ∈ arguments, Answering allowed setting argument) →
    Safe allowed (Answering allowed setting) (calls.dispatch name arguments)
  invoke : ∀ span? callee arguments, Answering allowed setting callee →
    (∀ argument ∈ arguments, Answering allowed setting argument) →
    Safe allowed (Answering allowed setting) (calls.invoke span? callee arguments)

variable {allowed : RuntimeError → Prop} {setting : Setting} {env : Environment} {calls : Calls}

/-! ## Names -/

theorem Answered.mono {references references' : List Identifier}
    {named named' : List NamedCall} (answered : Answered allowed setting env references named)
    (fewer : references' ⊆ references) (fewerCalls : named' ⊆ named) :
    Answered allowed setting env references' named' :=
  ⟨fun reference member => answered.uses reference (fewer member),
    fun call member => answered.callees call (fewerCalls member)⟩

/-- Inside a call, names stand for what the frames bind them to. -/
theorem lookup_of_inside (inside : env.level = 0) (name : String) :
    setting.lookup env name = env.frames.findSome? fun frame => frame.lookup name := by
  simp [Setting.lookup, inside]

theorem Furnished.lookup (furnished : Furnished allowed setting env) {name : String}
    {value : Value} (found : setting.lookup env name = some value) :
    Answering allowed setting value := by
  rw [lookup_of_inside furnished.inside] at found
  rcases List.exists_of_findSome?_eq_some found with ⟨frame, member, here⟩
  rcases List.lookup_eq_some_iff.mp here with ⟨before, after, rfl, _⟩
  exact furnished.values _ member (name, value) (by simp)

/-- Each parameter of a call is bound. -/
theorem isSome_lookup_params {params : List String} {arguments : List Value}
    (sameLength : params.length = arguments.length) {name : String} (param : name ∈ params) :
    (List.lookup name (params.zip arguments).reverse).isSome := by
  cases here : List.lookup name (params.zip arguments).reverse with
  | some value => rfl
  | none =>
      have unpaired := List.lookup_eq_none_iff.mp here
      rcases List.getElem_of_mem param with ⟨index, bound, rfl⟩
      have paired : (params[index], arguments[index]) ∈ (params.zip arguments).reverse := by
        rw [List.mem_reverse, ← List.getElem_zip]
        exact List.getElem_mem (by rw [List.length_zip]; omega)
      simpa using unpaired _ paired

/-- With parameters bound in front, a name that is none of them stands for the same. -/
theorem isSome_lookup_entered {params : List String} {arguments : List Value}
    (sameLength : params.length = arguments.length) (inside : env.level = 0) {name : String}
    (known : name ∈ params ∨ (setting.lookup env name).isSome) :
    (setting.lookup ⟨(params.zip arguments).reverse :: env.frames, 0⟩ name).isSome := by
  rw [lookup_of_inside rfl, List.findSome?_cons]
  cases here : List.lookup name (params.zip arguments).reverse with
  | some value => rfl
  | none =>
      rcases known with param | outside
      · have bound := isSome_lookup_params sameLength param
        rw [here] at bound
        cases bound
      · rw [lookup_of_inside inside] at outside
        exact outside

/-- The body of a closure that answers its names does so with its parameters bound. -/
theorem Answered.entered {params : List String} {body : Expr} {arguments : List Value}
    (answered : Answered allowed setting env (body.references params) (body.calls params))
    (inside : env.level = 0) (sameLength : params.length = arguments.length) :
    Answered allowed setting ⟨(params.zip arguments).reverse :: env.frames, 0⟩
      (body.references []) (body.calls []) where
  uses reference member := by
    by_cases param : reference.name ∈ params
    · exact .inl (isSome_lookup_entered sameLength inside (.inl param))
    · have outside : reference ∈ body.references params := by
        rw [Expr.references_eq]
        exact Expr.mem_outsideOf.mpr ⟨member, param⟩
      rcases answered.uses reference outside with bound | known
      · exact .inl (isSome_lookup_entered sameLength inside (.inr bound))
      · exact .inr known
  callees call member := by
    by_cases param : call.signature.name ∈ params
    · exact .inl (isSome_lookup_entered sameLength inside (.inl param))
    · have outside : call ∈ body.calls params := by
        rw [Expr.calls_eq]
        exact Expr.mem_callsOutsideOf.mpr ⟨member, param⟩
      rcases answered.callees call outside with bound | known
      · exact .inl (isSome_lookup_entered sameLength inside (.inr bound))
      · exact .inr known

theorem valueOfName_safe (furnished : Furnished allowed setting env) {identifier : Identifier}
    (answered : Answered allowed setting env [identifier] []) :
    Safe allowed (Answering allowed setting) (valueOfName setting env identifier) := by
  rw [valueOfName]
  cases found : setting.lookup env identifier.name with
  | some value => exact Safe.pure (furnished.lookup found)
  | none =>
      apply Safe.ite
      · intro _
        exact Safe.pure (.function _ _)
      · intro unknown
        apply Safe.raise
        rcases answered.uses identifier (.head _) with bound | known | permitted
        · simp [found] at bound
        · exact absurd known unknown
        · exact permitted

section

variable (permits : ∀ error : RuntimeError, ¬error.IsAboutName → allowed error)

include permits

/-- A call of a global function is safe if there is one, or the error that there is none is
allowed. -/
theorem callGlobal_safe (safe : SafeCalls allowed setting calls) {name : String}
    {arguments : List Value} (each : ∀ argument ∈ arguments, Answering allowed setting argument)
    {span? : Option Span}
    (answered : setting.program.declares ⟨name, arguments.length⟩ = true ∨
      (Program.builtin? ⟨name, arguments.length⟩).isSome ∨
      allowed (.undefinedFunction ⟨name, arguments.length⟩ span?)) :
    Safe allowed (Answering allowed setting) (callGlobal calls setting name arguments span?) := by
  rw [callGlobal]
  apply Safe.ite
  · intro _
    exact safe.dispatch name arguments each
  · intro undeclared
    cases found : Program.builtin? ⟨name, arguments.length⟩ with
    | some builtin => exact Builtin.call_safe permits _ (safe.invoke none) builtin each
    | none =>
        apply Safe.raise
        rcases answered with declared | isBuiltin | permitted
        · exact absurd declared undeclared
        · simp [found] at isBuiltin
        · exact permitted

theorem callNamed_safe (safe : SafeCalls allowed setting calls)
    (furnished : Furnished allowed setting env) {name : String} {arguments : List Value}
    (each : ∀ argument ∈ arguments, Answering allowed setting argument) {span : Span}
    (answered : Answered allowed setting env [] [⟨⟨name, arguments.length⟩, span⟩]) :
    Safe allowed (Answering allowed setting)
      (callNamed calls setting env name arguments span) := by
  rw [callNamed]
  cases found : setting.lookup env name with
  | some callee => exact safe.invoke _ callee arguments (furnished.lookup found) each
  | none =>
      apply callGlobal_safe permits safe each
      rcases answered.callees _ (.head _) with bound | known
      · simp [found] at bound
      · exact known

/-! ## Operators -/

theorem truth_safe (op : String) (value : Value) (span : Span) :
    Safe allowed (fun _ => True) (truth op value span) := by
  rw [truth.eq_def]
  split
  · exact Safe.pure trivial
  · exact Safe.raise (permits _ id)

variable {test : Value.ClosureTest}

theorem compare_safe (op : BinaryOp) (left right : Value) (span : Span) :
    Safe allowed (AllClosures test) (compare op left right span) := by
  rw [compare.eq_def]
  split
  · exact Safe.pure (.boolean _)
  · split
    · exact Safe.pure (.boolean _)
    · exact Safe.raise (permits _ id)

theorem arithmetic_safe (home : Nat) (op : BinaryOp) (left right : Value) (span : Span) :
    Safe allowed (AllClosures test) (arithmetic home op left right span) := by
  have answers : ∀ outcome : Except Fault Value.Number, Safe allowed (AllClosures test)
      (Run.ofExcept outcome >>= Value.Number.toValue home) :=
    fun outcome => (Run.safe_ofExcept outcome).bind fun number _ =>
      Builtin.toValue_safe home number
  rw [arithmetic.eq_def]
  split
  · split
    · exact answers _
    · exact answers _
    · exact answers _
    all_goals
      apply Safe.ite
      · intro _
        exact Safe.raise (permits _ id)
      · intro _
        exact answers _
  · exact Safe.raise (permits _ id)

theorem binary_safe (home : Nat) (op : BinaryOp) (left right : Value) (span : Span) :
    Safe allowed (AllClosures test) (binary home op left right span) := by
  rw [binary.eq_def]
  split
  · exact Safe.pure (.boolean _)
  · exact Safe.pure (.boolean _)
  · split
    · exact Safe.pure (.text _)
    · exact Safe.raise (permits _ id)
  all_goals first | exact compare_safe permits _ _ _ _ | exact arithmetic_safe permits _ _ _ _ _

theorem unary_safe (home : Nat) (op : UnaryOp) (value : Value) (span : Span) :
    Safe allowed (AllClosures test) (unary home op value span) := by
  rw [unary.eq_def]
  split
  · exact (truth_safe permits _ _ _).bind fun holds _ => Safe.pure (.boolean _)
  · split
    · exact Builtin.toValue_safe home _
    · exact Safe.raise (permits _ id)

theorem field_safe {subject : Value} (holds : AllClosures test subject) (name : String)
    (span : Span) : Safe allowed (AllClosures test) (field subject name span) := by
  rw [field]
  split
  · rename_i entries isEntries
    split
    · exact Safe.pure (Value.allClosures_find (holds.entriesOf isEntries) ‹_›)
    · exact Safe.raise (permits _ id)
  · exact Safe.raise (permits _ id)

theorem prepend_safe {elements : List Value} {tail : Value}
    (each : ∀ element ∈ elements, AllClosures test element) (holds : AllClosures test tail)
    (span : Span) : Safe allowed (AllClosures test) (prepend elements tail span) := by
  rw [prepend.eq_def]
  split
  · cases holds with
    | list rest => exact Safe.pure (.list (List.forall_mem_append.mpr ⟨each, rest⟩))
  · exact Safe.raise (permits _ id)

end

/-- A new closure answers its names if they are answered where it is made. -/
theorem makeClosure_safe (furnished : Furnished allowed setting env) {params : List String}
    {body : Expr}
    (answered : Answered allowed setting env (body.references params) (body.calls params)) :
    Safe allowed (Answering allowed setting) (makeClosure setting env params body) := by
  have safe : Safe allowed (fun _ => True) (origin setting env) := by
    rw [origin]
    apply Safe.ite
    · intro _
      exact Safe.pure trivial
    · intro _
      exact (Run.safe_mark _).bind fun _ _ => Safe.pure trivial
  exact safe.bind fun place _ =>
    Safe.pure (.closure _ place ⟨furnished.inside, answered⟩ furnished.values)

/-! ## Expressions -/

mutual

/-- An expression whose names are answered is safe to evaluate. -/
theorem evaluate_safe
    (permits : ∀ error : RuntimeError, ¬error.IsAboutName → allowed error)
    (safe : SafeCalls allowed setting calls)
    (furnished : Furnished allowed setting env) : ∀ expr : Expr,
    Answered allowed setting env (expr.references []) (expr.calls []) →
      Safe allowed (Answering allowed setting) (evaluate calls setting env expr)
  | .integer .., _ => Safe.pure (.integer _)
  | .decimal .., _ => Safe.pure (.decimal _)
  | .text .., _ => Safe.pure (.text _)
  | .atom .., _ => Safe.pure (.atom _)
  | .boolean .., _ => Safe.pure (.boolean _)
  | .nil _, _ => Safe.pure .nil
  | .typeName .., _ => Safe.pure (.recordType _)
  | .ident identifier, answered => valueOfName_safe furnished answered
  | .binary left op right span, answered => by
      have safeLeft := evaluate_safe permits safe furnished left
        (answered.mono (List.subset_append_left ..) (List.subset_append_left ..))
      have safeRight := evaluate_safe permits safe furnished right
        (answered.mono (List.subset_append_right ..) (List.subset_append_right ..))
      have connects (name : String) : Safe allowed (Answering allowed setting) (do
          let second ← evaluate calls setting env right
          return .boolean (← truth name second right.span)) := by
        apply safeRight.bind
        intro second _
        exact (truth_safe permits _ _ _).bind fun _ _ => Safe.pure (.boolean _)
      simp only [evaluate]
      apply safeLeft.bind
      intro first _
      split
      · apply (truth_safe permits _ _ _).bind
        intro holds _
        exact Safe.ite (fun _ => connects _) (fun _ => Safe.pure (.boolean _))
      · apply (truth_safe permits _ _ _).bind
        intro holds _
        exact Safe.ite (fun _ => Safe.pure (.boolean _)) (fun _ => connects _)
      · exact safeRight.bind fun second _ => binary_safe permits _ _ _ _ _
  | .unary op operand span, answered => by
      apply (evaluate_safe permits safe furnished operand answered).bind
      intro value _
      exact unary_safe permits _ _ _ _
  | .call callee arguments span, answered => by
      have safeArguments := evaluateAll_safe permits safe furnished arguments
        (answered.mono (List.Subset.refl _) (List.subset_append_right ..))
      apply safeArguments.bind
      rintro values ⟨sameLength, each⟩
      apply callNamed_safe permits safe furnished each
      rw [sameLength]
      exact answered.mono (List.nil_subset _) (List.subset_append_left ..)
  | .delegate callee arguments span, answered => by
      have safeArguments := evaluateAll_safe permits safe furnished arguments
        (answered.mono (List.Subset.refl _) (List.subset_append_right ..))
      exact safeArguments.bind fun values each => safe.dispatch _ _ each.2
  | .field subject name span, answered => by
      apply (evaluate_safe permits safe furnished subject answered).bind
      intro value holds
      exact field_safe permits holds _ _
  | .pipe left callee _, answered => by
      have safeLeft := evaluate_safe permits safe furnished left
        (answered.mono (List.Subset.refl _) (List.subset_append_left ..))
      apply safeLeft.bind
      intro value holds
      exact callNamed_safe permits safe furnished (List.forall_mem_singleton.mpr holds)
        (answered.mono (List.nil_subset _) (List.subset_append_right ..))
  | .pipeCall left callee arguments callSpan _, answered => by
      simp only [Expr.references, Expr.calls] at answered
      have safeLeft := evaluate_safe permits safe furnished left (answered.mono
        (List.subset_append_left ..)
        (List.Subset.trans (List.subset_append_left ..) (List.subset_append_left ..)))
      have safeArguments := evaluateAll_safe permits safe furnished arguments
        (answered.mono (List.subset_append_right ..) (List.subset_append_right ..))
      apply safeLeft.bind
      intro value holds
      apply safeArguments.bind
      rintro values ⟨sameLength, each⟩
      apply callNamed_safe permits safe furnished (List.forall_mem_cons.mpr ⟨holds, each⟩)
      rw [List.length_cons, sameLength]
      exact answered.mono (List.nil_subset _)
        (List.Subset.trans (List.subset_append_right ..) (List.subset_append_left ..))
  | .alternative left right _, answered => by
      have safeLeft := evaluate_safe permits safe furnished left
        (answered.mono (List.subset_append_left ..) (List.subset_append_left ..))
      have safeRight := evaluate_safe permits safe furnished right
        (answered.mono (List.subset_append_right ..) (List.subset_append_right ..))
      simp only [evaluate]
      apply safeLeft.bind
      intro value holds
      split
      · exact Safe.pure holds
      · exact safeRight
      · apply Safe.ite
        · intro _
          exact Safe.pure holds
        · intro _
          exact Safe.raise (permits _ id)
  | .result tag value _, answered =>
      (evaluate_safe permits safe furnished value answered).bind fun _ holds =>
        Safe.pure (.result tag holds)
  | .tuple elements _, answered =>
      (evaluateAll_safe permits safe furnished elements answered).bind fun _ each =>
        Safe.pure (.tuple each.2)
  | .list elements none _, answered => by
      simp only [evaluate]
      exact (evaluateAll_safe permits safe furnished elements answered).bind fun _ each =>
        Safe.pure (.list each.2)
  | .list elements (some tail) _, answered => by
      have safeElements := evaluateAll_safe permits safe furnished elements
        (answered.mono (List.subset_append_left ..) (List.subset_append_left ..))
      have safeTail := evaluate_safe permits safe furnished tail
        (answered.mono (List.subset_append_right ..) (List.subset_append_right ..))
      simp only [evaluate]
      apply safeElements.bind
      rintro values ⟨_, each⟩
      apply safeTail.bind
      intro rest holds
      exact prepend_safe permits each holds _
  | .map entries _, answered =>
      (evaluateEntries_safe permits safe furnished entries answered).bind fun _ each =>
        Safe.pure (.map each)
  | .record tag entries _, answered =>
      (evaluateEntries_safe permits safe furnished entries answered).bind fun _ each =>
        Safe.pure (.record tag each)
  | .lambda params body _, answered => by
      simp only [Expr.references, Expr.calls, List.append_nil] at answered
      exact makeClosure_safe furnished answered
  | .conditional condition thenBranch elseBranch _, answered => by
      simp only [Expr.references, Expr.calls] at answered
      have safeCondition := evaluate_safe permits safe furnished condition (answered.mono
        (List.Subset.trans (List.subset_append_left ..) (List.subset_append_left ..))
        (List.Subset.trans (List.subset_append_left ..) (List.subset_append_left ..)))
      have safeThen := evaluate_safe permits safe furnished thenBranch (answered.mono
        (List.Subset.trans (List.subset_append_right ..) (List.subset_append_left ..))
        (List.Subset.trans (List.subset_append_right ..) (List.subset_append_left ..)))
      have safeElse := evaluate_safe permits safe furnished elseBranch
        (answered.mono (List.subset_append_right ..) (List.subset_append_right ..))
      apply safeCondition.bind
      intro value _
      exact Safe.ite (fun _ => safeThen) (fun _ => safeElse)

theorem evaluateAll_safe
    (permits : ∀ error : RuntimeError, ¬error.IsAboutName → allowed error)
    (safe : SafeCalls allowed setting calls)
    (furnished : Furnished allowed setting env) : ∀ exprs : List Expr,
    Answered allowed setting env (Expr.referencesOfAll [] exprs) (Expr.callsOfAll [] exprs) →
      Safe allowed
        (fun values => values.length = exprs.length ∧
          ∀ value ∈ values, Answering allowed setting value)
        (evaluateAll calls setting env exprs)
  | [], _ => Safe.pure ⟨rfl, nofun⟩
  | expr :: rest, answered => by
      have safeFirst := evaluate_safe permits safe furnished expr
        (answered.mono (List.subset_append_left ..) (List.subset_append_left ..))
      have safeRest := evaluateAll_safe permits safe furnished rest
        (answered.mono (List.subset_append_right ..) (List.subset_append_right ..))
      apply safeFirst.bind
      intro value holds
      apply safeRest.bind
      rintro values ⟨sameLength, each⟩
      exact Safe.pure ⟨congrArg Nat.succ sameLength, List.forall_mem_cons.mpr ⟨holds, each⟩⟩

theorem evaluateEntries_safe
    (permits : ∀ error : RuntimeError, ¬error.IsAboutName → allowed error)
    (safe : SafeCalls allowed setting calls)
    (furnished : Furnished allowed setting env) : ∀ entries : List (String × Expr),
    Answered allowed setting env (Expr.referencesOfEntries [] entries)
        (Expr.callsOfEntries [] entries) →
      Safe allowed (fun values => ∀ entry ∈ values, Answering allowed setting entry.2)
        (evaluateEntries calls setting env entries)
  | [], _ => Safe.pure nofun
  | (key, expr) :: rest, answered => by
      have safeFirst := evaluate_safe permits safe furnished expr
        (answered.mono (List.subset_append_left ..) (List.subset_append_left ..))
      have safeRest := evaluateEntries_safe permits safe furnished rest
        (answered.mono (List.subset_append_right ..) (List.subset_append_right ..))
      apply safeFirst.bind
      intro value holds
      apply safeRest.bind
      intro values each
      exact Safe.pure (List.forall_mem_cons.mpr ⟨holds, each⟩)

end

/-! ## Calls -/

section

variable (permits : ∀ error : RuntimeError, ¬error.IsAboutName → allowed error)

include permits

/-- A guard keeps its errors to itself, except for those of dispatch. -/
theorem verdict_safe (kind : ClauseKind) (guard : Run Value) :
    Safe allowed (fun _ => True) (verdict kind guard) := by
  intro stamp
  rw [verdict]
  cases guard stamp with
  | ok result =>
      rcases result with ⟨value, next⟩
      cases value with
      | boolean holds => cases holds <;> trivial
      | _ => trivial
  | error stop =>
      cases stop with
      | error found =>
          cases found with
          | noClause => exact permits _ id
          | _ => trivial
      | _ => trivial

theorem guardHolds_safe (clause : Clause) (bindings : Bindings) :
    Safe allowed (fun _ => True) (guardHolds calls setting clause bindings) := by
  rw [guardHolds]
  split
  · exact Safe.pure trivial
  · exact verdict_safe permits _ _

/-- Whether the names in the bodies of a program are answered wherever their clauses fit. -/
def BodiesAnswered (allowed : RuntimeError → Prop) (setting : Setting) : Prop :=
  ∀ clause ∈ setting.program.installed, ∀ arguments bindings,
    Pattern.fitParams clause.params arguments = some bindings →
      Answered allowed setting (clauseEnvironment bindings) (clause.body.references [])
        (clause.body.calls [])

theorem tryClauses_safe (safe : SafeCalls allowed setting calls)
    (bodies : BodiesAnswered allowed setting) (signature : Signature) {arguments : List Value}
    (each : ∀ argument ∈ arguments, Answering allowed setting argument) {clauses : List Clause}
    (installed : clauses ⊆ setting.program.installed) :
    Safe allowed (Answering allowed setting)
      (tryClauses calls setting signature arguments clauses) := by
  induction clauses with
  | nil => exact Safe.raise (permits _ id)
  | cons clause rest ih =>
      rcases List.cons_subset.mp installed with ⟨member, others⟩
      rw [tryClauses]
      cases fits : Pattern.fitParams clause.params arguments with
      | none => exact ih others
      | some bindings =>
          apply (guardHolds_safe permits clause bindings).bind
          intro holds _
          apply Safe.ite
          · intro _
            have furnished : Furnished allowed setting (clauseEnvironment bindings) :=
              ⟨rfl, List.forall_mem_singleton.mpr (Pattern.allClosures_fitParams fits each)⟩
            exact evaluate_safe permits safe furnished clause.body
              (bodies clause member arguments bindings fits)
          · intro _
            exact ih others

theorem dispatchClauses_safe (safe : SafeCalls allowed setting calls)
    (bodies : BodiesAnswered allowed setting) (name : String) {arguments : List Value}
    (each : ∀ argument ∈ arguments, Answering allowed setting argument) :
    Safe allowed (Answering allowed setting) (dispatchClauses calls setting name arguments) := by
  rw [dispatchClauses]
  apply Safe.ite
  · intro _
    exact tryClauses_safe permits safe bodies _ each List.filter_sublist.subset
  · intro _
    exact Safe.raise (permits _ id)

theorem enter_safe (safe : SafeCalls allowed setting calls) (span? : Option Span) {callee : Value}
    {arguments : List Value} (holds : Answering allowed setting callee)
    (each : ∀ argument ∈ arguments, Answering allowed setting argument) :
    Safe allowed (Answering allowed setting) (enter calls setting span? callee arguments) := by
  rw [enter.eq_def]
  split
  · rename_i params body frames level origin
    cases holds with
    | closure _ _ answered values =>
        rcases answered with ⟨rfl, answered⟩
        apply Safe.ite
        · intro sameLength
          refine evaluate_safe permits safe ⟨rfl, ?_⟩ body (answered.entered rfl sameLength)
          refine List.forall_mem_cons.mpr ⟨fun binding member => ?_, values⟩
          exact each _ (List.of_mem_zip (List.mem_reverse.mp member)).2
        · intro _
          exact Safe.raise (permits _ id)
  · exact callGlobal_safe permits safe each (.inr (.inr (permits _ id)))
  · exact Safe.raise (permits _ id)

/-- In a program whose bodies answer their names, all calls are safe, however deep. -/
theorem callsWithin_safe (bodies : BodiesAnswered allowed setting) (depth : Nat) :
    SafeCalls allowed setting (callsWithin setting depth) := by
  induction depth with
  | zero => exact ⟨fun _ _ _ _ => trivial, fun _ _ _ _ _ _ => trivial⟩
  | succ depth ih =>
      constructor
      · intro name arguments each
        exact dispatchClauses_safe permits ih bodies name each
      · intro span? callee arguments holds each
        exact enter_safe permits ih span? holds each

/-- In a program whose bodies answer their names, a call with first-order arguments only ends in
errors that are allowed. -/
theorem allowed_of_callGlobal (bodies : BodiesAnswered allowed setting) {name : String}
    {arguments : List Value} (plain : ∀ argument ∈ arguments, argument.isFirstOrder = true)
    {depth stamp : Nat} {error : RuntimeError}
    (ends : callGlobal (callsWithin setting depth) setting name arguments none stamp =
      .error (.error error)) :
    allowed error := by
  have each : ∀ argument ∈ arguments, Answering allowed setting argument :=
    fun argument member => Value.allClosures_of_isFirstOrder (plain argument member)
  have safe : Safe allowed (Answering allowed setting)
      (callGlobal (callsWithin setting depth) setting name arguments none) :=
    callGlobal_safe permits (callsWithin_safe permits bodies depth) each
      (.inr (.inr (permits _ id)))
  have here := safe stamp
  rw [ends] at here
  exact here

end

end ClauseFlow.Eval

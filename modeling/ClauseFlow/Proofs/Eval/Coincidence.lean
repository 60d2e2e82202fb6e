import ClauseFlow.Proofs.Eval.BuiltinResemblance
import ClauseFlow.Proofs.Eval.GuardFailure
import ClauseFlow.Proofs.Eval.Naming
import ClauseFlow.Proofs.Expr.Lambdas

/-!
# What evaluation depends on

Where two environments bind the names that an expression uses and calls to values that resemble each
other, the expression evaluates to values that resemble each other, or is interrupted in the same
way; and so it does if its pipes are phrased as calls. Closures take their text and their
environment with them into later calls; so the calls have to keep the resemblance too, and they do,
by induction on their depth.
-/

namespace ClauseFlow

namespace RuntimeError

theorem isDispatch_eq (error : RuntimeError) :
    error.isDispatch = decide (error.code = "R200") := by
  cases error <;> rfl

theorem isUnbound_eq (error : RuntimeError) : error.isUnbound = decide (error.code = "R101") := by
  cases error <;> rfl

end RuntimeError

namespace Eval

open Run (Corresponds Concurs)
open Value (Resembles AllResemble PairsResemble boundIn)

/-! ## Environments that agree -/

/-- Whether all values in some frames resemble themselves. -/
def SelfAlike (ledger : Ledger) (frames : List Value.Frame) : Prop :=
  ∀ frame ∈ frames, ∀ binding ∈ frame, Resembles ledger binding.2 binding.2

/-- Whether the values of a session resemble themselves, and calls answer values that resemble each
other with values that do, now and later. -/
structure Alike (calls : Calls) (setting : Setting) (ledger : Ledger) : Prop where
  session : SelfAlike ledger setting.session
  dispatch : ∀ grown, ledger ≤ grown → ∀ name arguments arguments',
    AllResemble grown arguments arguments' →
      Corresponds Resembles grown (calls.dispatch name arguments) (calls.dispatch name arguments')
  invoke : ∀ grown, ledger ≤ grown → ∀ span? span?' callee callee' arguments arguments',
    Resembles grown callee callee' → AllResemble grown arguments arguments' →
      Corresponds Resembles grown (calls.invoke span? callee arguments)
        (calls.invoke span?' callee' arguments')

/-- Whether an expression that uses and calls some names, and whose outer lambdas have some bodies,
can be evaluated in two environments alike, in the second one phrased in another way. -/
structure Agree (calls : Calls) (setting : Setting) (phrasing : Phrasing) (ledger : Ledger)
    (references : List Identifier) (named : List NamedCall) (bodies : List Expr)
    (env env' : Environment) : Prop where
  alike : Alike calls setting ledger
  allowed : ledger.allows phrasing
  level : env.level = env'.level
  isEmpty : env.frames.isEmpty = env'.frames.isEmpty
  uses : ∀ reference ∈ references, Option.Rel (Resembles ledger)
    (boundIn env.frames reference.name) (boundIn env'.frames reference.name)
  callees : ∀ call ∈ named, Option.Rel (Resembles ledger)
    (boundIn env.frames call.signature.name) (boundIn env'.frames call.signature.name)
  /-- The closures that are made outside of all calls are known already. -/
  outer : env.frames.isEmpty = true → ∀ body ∈ bodies,
    ledger.texts (.session setting.home) body phrasing

/-- Whether an expression can be evaluated in two environments alike. -/
abbrev AgreeOn (calls : Calls) (setting : Setting) (phrasing : Phrasing) (ledger : Ledger)
    (expr : Expr) : Environment → Environment → Prop :=
  Agree calls setting phrasing ledger (expr.references []) (expr.calls []) expr.outerBodies

variable {setting : Setting} {env env' : Environment} {calls : Calls} {ledger grown : Ledger}
  {phrasing : Phrasing}

theorem SelfAlike.boundIn {frames : List Value.Frame} (selfAlike : SelfAlike ledger frames)
    (name : String) :
    Option.Rel (Resembles ledger) (boundIn frames name) (boundIn frames name) := by
  apply Value.optionRel_self
  intro value found
  rcases List.exists_of_findSome?_eq_some found with ⟨frame, isFrame, here⟩
  rcases List.lookup_eq_some_iff.mp here with ⟨before, after, rfl, _⟩
  exact selfAlike _ isFrame (name, value) (by simp)

theorem Alike.mono (alike : Alike calls setting ledger) (grows : ledger ≤ grown) :
    Alike calls setting grown where
  session frame isFrame binding isBinding :=
    (alike.session frame isFrame binding isBinding).mono grows
  dispatch later growsOn := alike.dispatch later (le_trans grows growsOn)
  invoke later growsOn := alike.invoke later (le_trans grows growsOn)

namespace Agree

variable {references references' : List Identifier} {named named' : List NamedCall}
  {bodies bodies' : List Expr}

/-- Environments that agree go on to do so. -/
theorem mono (agree : Agree calls setting phrasing ledger references named bodies env env')
    (grows : ledger ≤ grown) :
    Agree calls setting phrasing grown references named bodies env env' where
  alike := agree.alike.mono grows
  allowed := Ledger.allows_of_le grows agree.allowed
  level := agree.level
  isEmpty := agree.isEmpty
  uses reference member := Value.optionRel_imp (agree.uses reference member)
    fun _ _ _ resembles => resembles.mono grows
  callees call member := Value.optionRel_imp (agree.callees call member)
    fun _ _ _ resembles => resembles.mono grows
  outer isEmpty body member := Ledger.texts_of_le grows (agree.outer isEmpty body member)

theorem fewer (agree : Agree calls setting phrasing ledger references named bodies env env')
    (fewerReferences : references' ⊆ references) (fewerCalls : named' ⊆ named)
    (fewerBodies : bodies' ⊆ bodies) :
    Agree calls setting phrasing ledger references' named' bodies' env env' where
  alike := agree.alike
  allowed := agree.allowed
  level := agree.level
  isEmpty := agree.isEmpty
  uses reference member := agree.uses reference (fewerReferences member)
  callees call member := agree.callees call (fewerCalls member)
  outer isEmpty body member := agree.outer isEmpty body (fewerBodies member)

theorem left (agree : Agree calls setting phrasing ledger (references ++ references')
    (named ++ named') (bodies ++ bodies') env env') :
    Agree calls setting phrasing ledger references named bodies env env' :=
  agree.fewer (List.subset_append_left ..) (List.subset_append_left ..)
    (List.subset_append_left ..)

theorem right (agree : Agree calls setting phrasing ledger (references ++ references')
    (named ++ named') (bodies ++ bodies') env env') :
    Agree calls setting phrasing ledger references' named' bodies' env env' :=
  agree.fewer (List.subset_append_right ..) (List.subset_append_right ..)
    (List.subset_append_right ..)

/-- Environments at the same place see the same of the session. -/
theorem lookup (agree : Agree calls setting phrasing ledger references named bodies env env')
    {name : String}
    (bound : Option.Rel (Resembles ledger) (boundIn env.frames name) (boundIn env'.frames name)) :
    Option.Rel (Resembles ledger) (setting.lookup env name) (setting.lookup env' name) := by
  simp only [boundIn] at bound
  rw [Setting.lookup, Setting.lookup, List.findSome?_append, List.findSome?_append, agree.level]
  generalize env.frames.findSome? _ = own, env'.frames.findSome? _ = own' at bound ⊢
  cases bound with
  | some resembles => exact .some resembles
  | none =>
      apply SelfAlike.boundIn
      intro frame isFrame
      exact agree.alike.session frame (List.mem_of_mem_take (List.mem_reverse.mp isFrame))

end Agree

theorem boundIn_cons (frame : Value.Frame) (frames : List Value.Frame) (name : String) :
    boundIn (frame :: frames) name = (frame.lookup name).or (boundIn frames name) := by
  rw [boundIn, List.findSome?_cons]
  cases frame.lookup name <;> rfl

theorem zip_resembles {arguments arguments' : List Value}
    (each : AllResemble ledger arguments arguments') (params : List String) :
    PairsResemble ledger (params.zip arguments) (params.zip arguments') := by
  induction each generalizing params with
  | nil =>
      rw [List.zip_nil_right]
      exact .nil
  | cons here _ ih =>
      cases params with
      | nil => exact .nil
      | cons param rest => exact .cons (.intro param here) (ih rest)

/-- Arguments bound to parameters in front of frames: outside the parameters the frames count. -/
theorem boundIn_entered {params : List String} {arguments arguments' : List Value}
    (each : AllResemble ledger arguments arguments') (sameLength : params.length = arguments.length)
    {frames frames' : List Value.Frame} {name : String}
    (outside : name ∉ params →
      Option.Rel (Resembles ledger) (boundIn frames name) (boundIn frames' name)) :
    Option.Rel (Resembles ledger) (boundIn ((params.zip arguments).reverse :: frames) name)
      (boundIn ((params.zip arguments').reverse :: frames') name) := by
  have found := Value.PairsResemble.lookup (List.rel_reverse (zip_resembles each params)) name
  rw [boundIn_cons, boundIn_cons]
  by_cases param : name ∈ params
  · have bound := isSome_lookup_params sameLength param
    generalize (params.zip arguments).reverse.lookup name = here,
      (params.zip arguments').reverse.lookup name = here' at found bound ⊢
    cases found with
    | none => cases bound
    | some resembles => exact .some resembles
  · generalize (params.zip arguments).reverse.lookup name = here,
      (params.zip arguments').reverse.lookup name = here' at found ⊢
    cases found with
    | none => exact outside param
    | some resembles => exact .some resembles

/-- The body of a closure sees alike what resembling closures see under the names it uses. -/
theorem agreeOn_entered {params : List String} {body : Expr} {arguments arguments' : List Value}
    {frames frames' : List Value.Frame} (alike : Alike calls setting ledger)
    (allowed : ledger.allows phrasing)
    (uses : ∀ reference ∈ body.references params, Option.Rel (Resembles ledger)
      (boundIn frames reference.name) (boundIn frames' reference.name))
    (callees : ∀ call ∈ body.calls params, Option.Rel (Resembles ledger)
      (boundIn frames call.signature.name) (boundIn frames' call.signature.name))
    (each : AllResemble ledger arguments arguments') (sameLength : params.length = arguments.length)
    (level : Nat) :
    AgreeOn calls setting phrasing ledger body ⟨(params.zip arguments).reverse :: frames, level⟩
      ⟨(params.zip arguments').reverse :: frames', level⟩ where
  alike := alike
  allowed := allowed
  level := rfl
  isEmpty := rfl
  uses reference member := by
    apply boundIn_entered each sameLength
    intro outside
    apply uses
    rw [Expr.references_eq]
    exact Expr.mem_outsideOf.mpr ⟨member, outside⟩
  callees call member := by
    apply boundIn_entered each sameLength
    intro outside
    apply callees
    rw [Expr.calls_eq]
    exact Expr.mem_callsOutsideOf.mpr ⟨member, outside⟩
  outer isEmpty := nomatch isEmpty

/-! ## Names -/

theorem valueOfName_corresponds {identifier : Identifier}
    (agree : Agree calls setting phrasing ledger [identifier] [] [] env env') :
    Corresponds Resembles ledger (valueOfName setting env identifier)
      (valueOfName setting env' identifier) := by
  have found := agree.lookup (agree.uses identifier (.head _))
  rw [valueOfName, valueOfName]
  generalize setting.lookup env identifier.name = value?,
    setting.lookup env' identifier.name = value?' at found ⊢
  cases found with
  | none => exact .ite (fun _ => .pure (.function _ _)) fun _ => .raise rfl .nil
  | some resembles => exact .pure resembles

theorem callGlobal_corresponds (alike : Alike calls setting ledger) (name : String)
    {arguments arguments' : List Value} (each : AllResemble ledger arguments arguments')
    (span? span?' : Option Span) :
    Corresponds Resembles ledger (callGlobal calls setting name arguments span?)
      (callGlobal calls setting name arguments' span?') := by
  simp only [callGlobal, each.length_eq]
  apply Corresponds.ite
  · intro _
    exact alike.dispatch ledger le_rfl name _ _ each
  · intro _
    split
    · exact Builtin.call_corresponds (fun grown grows => alike.invoke grown grows none none)
        setting.home _ each
    · exact .raise rfl .nil

theorem callNamed_corresponds {name : String} {arguments arguments' : List Value}
    (each : AllResemble ledger arguments arguments') {span span' callSpan : Span}
    (agree : Agree calls setting phrasing ledger [] [⟨⟨name, arguments.length⟩, callSpan⟩] [] env
      env') :
    Corresponds Resembles ledger (callNamed calls setting env name arguments span)
      (callNamed calls setting env' name arguments' span') := by
  have found := agree.lookup (agree.callees _ (.head _))
  rw [callNamed, callNamed]
  generalize setting.lookup env name = callee?, setting.lookup env' name = callee?' at found ⊢
  cases found with
  | none => exact callGlobal_corresponds agree.alike name each _ _
  | some resembles => exact agree.alike.invoke ledger le_rfl _ _ _ _ _ _ resembles each

/-- New closures from environments that agree outside their parameters. -/
theorem makeClosure_corresponds {params : List String} {body : Expr}
    (agree : Agree calls setting phrasing ledger (body.references params) (body.calls params) [body]
      env env') :
    Corresponds Resembles ledger (makeClosure setting env params body)
      (makeClosure setting env' params (body.phrased phrasing)) := by
  have makes {grown : Ledger} (grows : ledger ≤ grown) {origin : Origin}
      (known : grown.texts origin body phrasing) :
      Resembles grown (.closure params body env.frames env.level origin)
        (.closure params (body.phrased phrasing) env'.frames env'.level origin) := by
    have later := agree.mono grows
    rw [agree.level]
    exact .closure params env'.level known later.isEmpty later.uses later.callees
  intro stamp ready
  -- Outside of all calls a closure has no mark of its own, and its body has to be known before.
  cases isEmpty : env.frames.isEmpty with
  | true =>
      have isEmpty' : env'.frames.isEmpty = true := agree.isEmpty ▸ isEmpty
      simp only [makeClosure, origin, isEmpty, isEmpty', if_true, pure_bind]
      exact .ok le_rfl ready (makes le_rfl (agree.outer isEmpty body (.head _)))
  | false =>
      have isEmpty' : env'.frames.isEmpty = false := agree.isEmpty ▸ isEmpty
      rcases ready.exists_record setting.home body agree.allowed with
        ⟨grown, grows, readyNext, known⟩
      simp only [makeClosure, origin, isEmpty, isEmpty', Bool.false_eq_true, if_false]
      exact .ok grows readyNext (makes grows known)

/-! ## Operators -/

variable {value value' left left' right right' : Value}

theorem truth_corresponds (op : String) (resembles : Resembles ledger value value') (span : Span) :
    Concurs ledger (truth op value span) (truth op value' span) := by
  have known := resembles
  cases resembles with
  | boolean holds => exact .pure rfl
  | _ => exact .raise rfl (.cons known .nil)

theorem compare_corresponds (op : BinaryOp) (resembles : Resembles ledger left left')
    (resemblesRight : Resembles ledger right right') (span : Span) :
    Corresponds Resembles ledger (compare op left right span) (compare op left' right' span) := by
  rw [compare.eq_def op left']
  split
  · cases resembles
    cases resemblesRight
    exact .pure (.boolean _)
  · rename_i notTexts
    rw [compare.eq_def]
    split
    · cases resembles
      cases resemblesRight
      exact (notTexts _ _ rfl rfl).elim
    · rw [resembles.number?_eq, resemblesRight.number?_eq]
      split
      · exact .pure (.boolean _)
      · exact .raise rfl (.cons resembles (.cons resemblesRight .nil))

theorem arithmetic_corresponds (home : Nat) (op : BinaryOp)
    (resembles : Resembles ledger left left')
    (resemblesRight : Resembles ledger right right') (span : Span) :
    Corresponds Resembles ledger (arithmetic home op left right span)
      (arithmetic home op left' right' span) := by
  have answers (step : Except Fault Value.Number) : Corresponds Resembles ledger
      (Run.ofExcept step >>= Value.Number.toValue home)
      (Run.ofExcept step >>= Value.Number.toValue home) := by
    apply (Corresponds.ofExcept step).bind
    rintro grown _ number _ rfl
    exact Value.Number.toValue_corresponds home number
  rw [arithmetic.eq_def, arithmetic.eq_def, resembles.number?_eq, resemblesRight.number?_eq]
  split
  · cases op with
    | add | sub | mul => exact answers _
    | _ => exact .ite (fun _ => .raise rfl .nil) fun _ => answers _
  · exact .raise rfl (.cons resembles (.cons resemblesRight .nil))

theorem concat_corresponds (home : Nat) (resembles : Resembles ledger left left')
    (resemblesRight : Resembles ledger right right') (span : Span) :
    Corresponds Resembles ledger (binary home .concat left right span)
      (binary home .concat left' right' span) := by
  have refused : Corresponds Resembles ledger
      (Run.raise (.noTexts left right span) : Run Value)
      (Run.raise (.noTexts left' right' span) : Run Value) :=
    .raise rfl (.cons resembles (.cons resemblesRight .nil))
  cases resembles with
  | text first =>
      cases resemblesRight with
      | text second => exact .pure (.text _)
      | _ => exact refused
  | _ => exact refused

theorem binary_corresponds (home : Nat) (op : BinaryOp) (resembles : Resembles ledger left left')
    (resemblesRight : Resembles ledger right right') (span : Span) :
    Corresponds Resembles ledger (binary home op left right span)
      (binary home op left' right' span) := by
  cases op with
  | concat => exact concat_corresponds home resembles resemblesRight span
  | equal | notEqual =>
      simp only [binary, resembles.equal_eq false resemblesRight]
      exact .pure (.boolean _)
  | less | greater | lessEqual | greaterEqual =>
      exact compare_corresponds _ resembles resemblesRight span
  | _ =>
      simp only [binary]
      exact arithmetic_corresponds home _ resembles resemblesRight span

theorem unary_corresponds (home : Nat) (op : UnaryOp) (resembles : Resembles ledger value value')
    (span : Span) :
    Corresponds Resembles ledger (unary home op value span) (unary home op value' span) := by
  cases op with
  | not =>
      apply (truth_corresponds "not" resembles span).bind
      rintro grown _ holds _ rfl
      exact .pure (.boolean _)
  | negate =>
      simp only [unary, resembles.number?_eq]
      split
      · exact Value.Number.toValue_corresponds home _
      · exact .raise rfl (.cons resembles .nil)

theorem field_corresponds (resembles : Resembles ledger value value') (name : String)
    (span : Span) :
    Corresponds Resembles ledger (field value name span) (field value' name span) := by
  have found := resembles.entriesOf?
  rw [field, field]
  generalize Pattern.entriesOf? value = entries?, Pattern.entriesOf? value' = entries?' at found ⊢
  cases found with
  | none => exact .raise rfl (.cons resembles .nil)
  | @some entries entries' each =>
      have here : Option.Rel (Resembles ledger) (Value.field? name entries)
          (Value.field? name entries') :=
        each.find? (.text name)
      simp only
      generalize Value.field? name entries = field?, Value.field? name entries' = field?' at here ⊢
      cases here with
      | none => exact .raise rfl (.cons resembles .nil)
      | some inside => exact .pure inside

theorem prepend_corresponds {elements elements' : List Value}
    (each : AllResemble ledger elements elements') (resembles : Resembles ledger value value')
    (span : Span) :
    Corresponds Resembles ledger (prepend elements value span) (prepend elements' value' span) := by
  have known := resembles
  cases resembles with
  | list rest => exact .pure (.list (List.rel_append each rest))
  | _ => exact .raise rfl (.cons known .nil)

/-- The right side of `<|>` takes the place of an error. -/
theorem alternative_corresponds {other other' : Run Value}
    (corresponds : Corresponds Resembles ledger other other') (span : Span) :
    Resembles ledger value value' → Corresponds Resembles ledger
      (match value with
        | .result .ok _ => return value
        | .result .error _ => other
        | value => if value.isOkAtom then return value else Run.raise (.noResult value span))
      (match value' with
        | .result .ok _ => return value'
        | .result .error _ => other'
        | value' =>
            if value'.isOkAtom then return value' else Run.raise (.noResult value' span)) := by
  intro resembles
  have known := resembles
  have refused : Corresponds Resembles ledger
      (if value.isOkAtom then return value else Run.raise (.noResult value span))
      (if value'.isOkAtom then return value' else Run.raise (.noResult value' span)) := by
    rw [← known.isOkAtom_eq]
    exact .ite (fun _ => .pure known) fun _ => .raise rfl (.cons known .nil)
  cases resembles with
  | result tag inside =>
      cases tag with
      | ok => exact .pure known
      | error => exact corresponds
  | _ => exact refused

/-! ## Expressions -/

mutual

/-- An expression evaluates alike where its names are bound alike, however its pipes are phrased. -/
theorem evaluate_corresponds : ∀ (expr : Expr) {ledger : Ledger},
    AgreeOn calls setting phrasing ledger expr env env' →
      Corresponds Resembles ledger (evaluate calls setting env expr)
        (evaluate calls setting env' (expr.phrased phrasing))
  | .integer .., _, _ => .pure (.integer _)
  | .decimal .., _, _ => .pure (.decimal _)
  | .text .., _, _ => .pure (.text _)
  | .atom .., _, _ => .pure (.atom _)
  | .boolean .., _, _ => .pure (.boolean _)
  | .nil _, _, _ => .pure .nil
  | .typeName .., _, _ => .pure (.recordType _)
  | .ident identifier, _, agree => valueOfName_corresponds agree
  | .binary left op right span, ledger, agree => by
      have connects (name : String) {grown : Ledger} (grows : ledger ≤ grown) :
          Corresponds Resembles grown
            (do
              let second ← evaluate calls setting env right
              return .boolean (← truth name second right.span))
            (do
              let second ← evaluate calls setting env' (right.phrased phrasing)
              return .boolean (← truth name second right.span)) := by
        apply (evaluate_corresponds right (agree.right.mono grows)).bind
        intro grown' growsOn second second' resembles
        apply (truth_corresponds name resembles right.span).bind
        rintro _ _ holds _ rfl
        exact .pure (.boolean _)
      simp only [Expr.phrased, evaluate, Expr.span_phrased]
      apply (evaluate_corresponds left agree.left).bind
      intro grown grows first first' resembles
      split
      · apply (truth_corresponds _ resembles left.span).bind
        rintro grown' growsOn holds _ rfl
        exact .ite (fun _ => connects _ (le_trans grows growsOn)) fun _ => .pure (.boolean _)
      · apply (truth_corresponds _ resembles left.span).bind
        rintro grown' growsOn holds _ rfl
        exact .ite (fun _ => .pure (.boolean _)) fun _ => connects _ (le_trans grows growsOn)
      · apply (evaluate_corresponds right (agree.right.mono grows)).bind
        intro grown' growsOn second second' resemblesSecond
        exact binary_corresponds _ _ (resembles.mono growsOn) resemblesSecond span
  | .unary op operand span, _, agree => by
      simp only [Expr.phrased, evaluate]
      apply (evaluate_corresponds operand agree).bind
      intro grown _ value value' resembles
      exact unary_corresponds _ _ resembles span
  | .call callee arguments span, _, agree => by
      have onArguments := evaluateAll_corresponds arguments
        (agree.fewer (List.Subset.refl _) (List.subset_append_right ..) (List.Subset.refl _))
      simp only [Expr.phrased, evaluate]
      apply onArguments.bind
      rintro grown grows values values' ⟨sameLength, each⟩
      apply callNamed_corresponds each
      rw [sameLength]
      exact (agree.fewer (List.nil_subset _) (List.subset_append_left ..) (List.nil_subset _)).mono
        grows
  | .delegate callee arguments span, _, agree => by
      have onArguments := evaluateAll_corresponds arguments
        (agree.fewer (List.Subset.refl _) (List.subset_append_right ..) (List.Subset.refl _))
      simp only [Expr.phrased, evaluate]
      apply onArguments.bind
      rintro grown grows values values' ⟨_, each⟩
      exact agree.alike.dispatch grown grows _ _ _ each
  | .field subject name span, _, agree => by
      simp only [Expr.phrased, evaluate]
      apply (evaluate_corresponds subject agree).bind
      intro grown _ value value' resembles
      exact field_corresponds resembles name span
  | .pipe left callee span, ledger, agree => by
      have onLeft := evaluate_corresponds left
        (agree.fewer (List.Subset.refl _) (List.subset_append_left ..) (List.Subset.refl _))
      -- In both phrasings the left side comes first, then the callee is looked up.
      have calls {grown : Ledger} (grows : ledger ≤ grown) {value value' : Value}
          (resembles : Resembles grown value value') (span' : Span) :
          Corresponds Resembles grown
            (callNamed calls setting env callee.name [value] callee.span)
            (callNamed calls setting env' callee.name [value'] span') :=
        callNamed_corresponds (.cons resembles .nil) ((agree.fewer (List.nil_subset _)
          (List.subset_append_right ..) (List.nil_subset _)).mono grows)
      cases phrasing with
      | asWritten =>
          simp only [Expr.phrased, Phrasing.pipe, evaluate]
          exact onLeft.bind fun grown grows _ _ resembles => calls grows resembles _
      | direct =>
          simp only [Expr.phrased, Phrasing.pipe, evaluate, evaluateAll, bind_assoc, pure_bind]
          exact onLeft.bind fun grown grows _ _ resembles => calls grows resembles _
  | .pipeCall left callee arguments callSpan span, ledger, agree => by
      simp only [AgreeOn, Expr.references, Expr.calls, Expr.outerBodies] at agree
      have onLeft := evaluate_corresponds left (agree.fewer (List.subset_append_left ..)
        (List.Subset.trans (List.subset_append_left ..) (List.subset_append_left ..))
        (List.subset_append_left ..))
      have calls {grown : Ledger} (grows : ledger ≤ grown) {value value' : Value}
          (resembles : Resembles grown value value') (span' : Span) :
          Corresponds Resembles grown
            (do
              let values ← evaluateAll calls setting env arguments
              callNamed calls setting env callee.name (value :: values) callSpan)
            (do
              let values ← evaluateAll calls setting env' (Expr.phrasedAll phrasing arguments)
              callNamed calls setting env' callee.name (value' :: values) span') := by
        have onArguments := evaluateAll_corresponds arguments ((agree.fewer
          (List.subset_append_right ..) (List.subset_append_right ..)
          (List.subset_append_right ..)).mono grows)
        apply onArguments.bind
        rintro grown' growsOn values values' ⟨sameLength, each⟩
        apply callNamed_corresponds (.cons (resembles.mono growsOn) each)
        rw [List.length_cons, sameLength]
        exact (agree.fewer (List.nil_subset _)
          (List.Subset.trans (List.subset_append_right ..) (List.subset_append_left ..))
          (List.nil_subset _)).mono (le_trans grows growsOn)
      cases phrasing with
      | asWritten =>
          simp only [Expr.phrased, Phrasing.pipeCall, evaluate]
          exact onLeft.bind fun grown grows _ _ resembles => calls grows resembles _
      | direct =>
          simp only [Expr.phrased, Phrasing.pipeCall, evaluate, evaluateAll, bind_assoc, pure_bind]
          exact onLeft.bind fun grown grows _ _ resembles => calls grows resembles _
  | .alternative left right _, _, agree => by
      simp only [Expr.phrased, evaluate, Expr.span_phrased]
      apply (evaluate_corresponds left agree.left).bind
      intro grown grows value value' resembles
      exact alternative_corresponds (evaluate_corresponds right (agree.right.mono grows)) _
        resembles
  | .result tag value _, _, agree => by
      simp only [Expr.phrased, evaluate]
      apply (evaluate_corresponds value agree).bind
      intro grown _ inner inner' resembles
      exact .pure (.result tag resembles)
  | .tuple elements _, _, agree => by
      simp only [Expr.phrased, evaluate]
      apply (evaluateAll_corresponds elements agree).bind
      intro grown _ values values' each
      exact .pure (.tuple each.2)
  | .list elements none _, _, agree => by
      simp only [Expr.phrased, evaluate]
      apply (evaluateAll_corresponds elements agree).bind
      intro grown _ values values' each
      exact .pure (.list each.2)
  | .list elements (some tail) _, _, agree => by
      simp only [Expr.phrased, evaluate, Expr.span_phrased]
      apply (evaluateAll_corresponds elements agree.left).bind
      rintro grown grows values values' ⟨_, each⟩
      apply (evaluate_corresponds tail (agree.right.mono grows)).bind
      intro grown' growsOn rest rest' resembles
      exact prepend_corresponds (each.mono growsOn) resembles _
  | .map entries _, _, agree => by
      simp only [Expr.phrased, evaluate]
      apply (evaluateEntries_corresponds entries agree).bind
      intro grown _ values values' each
      exact .pure (.map each)
  | .record tag entries _, _, agree => by
      simp only [Expr.phrased, evaluate]
      apply (evaluateEntries_corresponds entries agree).bind
      intro grown _ values values' each
      exact .pure (.record tag each)
  | .lambda params body _, _, agree => by
      simp only [AgreeOn, Expr.references, Expr.calls, Expr.outerBodies, List.append_nil] at agree
      simp only [Expr.phrased, evaluate]
      exact makeClosure_corresponds agree
  | .conditional condition thenBranch elseBranch _, _, agree => by
      simp only [Expr.phrased, evaluate]
      apply (evaluate_corresponds condition agree.left.left).bind
      intro grown grows value value' resembles
      rw [resembles.isTruthy_eq]
      exact .ite (fun _ => evaluate_corresponds thenBranch (agree.left.right.mono grows))
        fun _ => evaluate_corresponds elseBranch (agree.right.mono grows)

theorem evaluateAll_corresponds : ∀ (exprs : List Expr) {ledger : Ledger},
    Agree calls setting phrasing ledger (Expr.referencesOfAll [] exprs) (Expr.callsOfAll [] exprs)
        (Expr.outerBodiesOfAll exprs) env env' →
      Corresponds
        (fun ledger values values' =>
          values.length = exprs.length ∧ AllResemble ledger values values')
        ledger (evaluateAll calls setting env exprs)
        (evaluateAll calls setting env' (Expr.phrasedAll phrasing exprs))
  | [], _, _ => .pure ⟨rfl, .nil⟩
  | expr :: rest, _, agree => by
      simp only [Expr.phrasedAll, evaluateAll]
      apply (evaluate_corresponds expr agree.left).bind
      intro grown grows value value' resembles
      apply (evaluateAll_corresponds rest (agree.right.mono grows)).bind
      rintro grown' growsOn values values' ⟨sameLength, each⟩
      exact .pure ⟨congrArg Nat.succ sameLength, .cons (resembles.mono growsOn) each⟩

theorem evaluateEntries_corresponds : ∀ (entries : List (String × Expr)) {ledger : Ledger},
    Agree calls setting phrasing ledger (Expr.referencesOfEntries [] entries)
        (Expr.callsOfEntries [] entries) (Expr.outerBodiesOfEntries entries) env env' →
      Corresponds PairsResemble ledger (evaluateEntries calls setting env entries)
        (evaluateEntries calls setting env' (Expr.phrasedEntries phrasing entries))
  | [], _, _ => .pure .nil
  | (key, expr) :: rest, _, agree => by
      simp only [Expr.phrasedEntries, evaluateEntries]
      apply (evaluate_corresponds expr agree.left).bind
      intro grown grows value value' resembles
      apply (evaluateEntries_corresponds rest (agree.right.mono grows)).bind
      intro grown' growsOn values values' each
      exact .pure (.cons (.intro _ (resembles.mono growsOn)) each)

end

/-! ## Dispatch -/

theorem verdict_of_dispatch {kind : ClauseKind} {guard : Run Value} {error : RuntimeError}
    {stamp : Nat} (fails : guard stamp = .error (.error error))
    (dispatched : error.isDispatch = true) :
    verdict kind guard stamp = .error (.error error) := by
  rw [verdict, fails]
  cases error with
  | noClause => rfl
  | _ => cases dispatched

/-- Guards that correspond get the same verdict. What they have made is forgotten, as their stamps
are used again. -/
theorem verdict_corresponds (kind : ClauseKind) {guard guard' : Run Value}
    (corresponds : Corresponds Resembles ledger guard guard') :
    Concurs ledger (verdict kind guard) (verdict kind guard') := by
  intro stamp ready
  have outcomes := corresponds stamp ready
  generalize gives : guard stamp = outcome, gives' : guard' stamp = outcome' at outcomes
  cases outcomes with
  | ok _ _ resembles =>
      rw [verdict, verdict, gives, gives']
      cases resembles with
      | boolean holds => cases holds <;> exact .ok le_rfl ready rfl
      | _ => exact .ok le_rfl ready rfl
  | error looksLike =>
      cases looksLike with
      | fault found =>
          rw [verdict, verdict, gives, gives']
          exact .error (.fault found)
      | tooDeep =>
          rw [verdict, verdict, gives, gives']
          exact .error .tooDeep
      | @error error error' same =>
          have sameDispatch : error.isDispatch = error'.isDispatch := by
            rw [error.isDispatch_eq, same, error'.isDispatch_eq]
          have sameUnbound : error.isUnbound = error'.isUnbound := by
            rw [error.isUnbound_eq, same, error'.isUnbound_eq]
          cases dispatched : error.isDispatch with
          | true =>
              rw [verdict_of_dispatch gives dispatched,
                verdict_of_dispatch gives' (sameDispatch ▸ dispatched)]
              exact .error (.error same)
          | false =>
              rw [verdict_of_error gives dispatched,
                verdict_of_error gives' (sameDispatch ▸ dispatched), sameUnbound]
              exact .ok le_rfl ready rfl

/-! ## Calls -/

/-- What patterns bind in a clause, bound to values that resemble each other. -/
theorem agreeOn_clauseEnvironment {bindings bindings' : Bindings}
    (alike : Alike calls setting ledger) (each : PairsResemble ledger bindings bindings')
    (expr : Expr) :
    AgreeOn calls setting .asWritten ledger expr (clauseEnvironment bindings)
      (clauseEnvironment bindings') := by
  have found (name : String) : Option.Rel (Resembles ledger) (boundIn [bindings] name)
      (boundIn [bindings'] name) := by
    rw [boundIn_cons, boundIn_cons]
    have here := each.lookup name
    generalize List.lookup name bindings = value?, List.lookup name bindings' = value?' at here ⊢
    cases here with
    | none => exact .none
    | some resembles => exact .some resembles
  exact ⟨alike, ledger.asWritten, rfl, rfl, fun reference _ => found reference.name,
    fun call _ => found call.signature.name, nofun⟩

/-- A guard or a body evaluates alike with bindings to values that resemble each other. -/
theorem evaluate_clause_corresponds {bindings bindings' : Bindings}
    (alike : Alike calls setting ledger) (each : PairsResemble ledger bindings bindings')
    (expr : Expr) :
    Corresponds Resembles ledger (evaluate calls setting (clauseEnvironment bindings) expr)
      (evaluate calls setting (clauseEnvironment bindings') expr) := by
  have corresponds := evaluate_corresponds expr (agreeOn_clauseEnvironment alike each expr)
  rwa [expr.phrased_asWritten] at corresponds

theorem guardHolds_corresponds (alike : Alike calls setting ledger) (clause : Clause)
    {bindings bindings' : Bindings} (each : PairsResemble ledger bindings bindings') :
    Concurs ledger (guardHolds calls setting clause bindings)
      (guardHolds calls setting clause bindings') := by
  rw [guardHolds, guardHolds]
  cases clause.guard? with
  | none => exact .pure rfl
  | some guard => exact verdict_corresponds _ (evaluate_clause_corresponds alike each guard)

theorem tryClauses_corresponds (signature : Signature) {arguments arguments' : List Value}
    (clauses : List Clause) {ledger : Ledger} (alike : Alike calls setting ledger)
    (each : AllResemble ledger arguments arguments') :
    Corresponds Resembles ledger (tryClauses calls setting signature arguments clauses)
      (tryClauses calls setting signature arguments' clauses) := by
  induction clauses generalizing ledger with
  | nil => exact .raise rfl each
  | cons clause rest ih =>
      have fits := Pattern.fitParams_resemble clause.params each
      rw [tryClauses, tryClauses]
      generalize Pattern.fitParams clause.params arguments = bindings?,
        Pattern.fitParams clause.params arguments' = bindings?' at fits ⊢
      cases fits with
      | none => exact ih alike each
      | some eachBinding =>
          apply (guardHolds_corresponds alike clause eachBinding).bind
          rintro grown grows holds _ rfl
          apply Corresponds.ite
          · intro _
            exact evaluate_clause_corresponds (alike.mono grows) (eachBinding.mono grows) _
          · intro _
            exact ih (alike.mono grows) (each.mono grows)

theorem dispatchClauses_corresponds (alike : Alike calls setting ledger) (name : String)
    {arguments arguments' : List Value} (each : AllResemble ledger arguments arguments') :
    Corresponds Resembles ledger (dispatchClauses calls setting name arguments)
      (dispatchClauses calls setting name arguments') := by
  simp only [dispatchClauses, each.length_eq]
  apply Corresponds.ite
  · intro _
    exact tryClauses_corresponds _ _ alike each
  · intro _
    exact .raise rfl .nil

theorem enter_corresponds (alike : Alike calls setting ledger) (span? span?' : Option Span)
    {callee callee' : Value} (resembles : Resembles ledger callee callee')
    {arguments arguments' : List Value} (each : AllResemble ledger arguments arguments') :
    Corresponds Resembles ledger (enter calls setting span? callee arguments)
      (enter calls setting span?' callee' arguments') := by
  have known := resembles
  cases resembles with
  | closure params level recorded isEmpty uses callees =>
      simp only [enter, ← each.length_eq]
      apply Corresponds.ite
      · intro sameLength
        exact evaluate_corresponds _ (agreeOn_entered alike (ledger.allowed recorded) uses callees
          each sameLength level)
      · intro _
        exact .raise rfl .nil
  | function name home => exact callGlobal_corresponds alike name each none none
  | _ => exact .raise rfl (.cons known .nil)

/-- Calls of any depth answer values that resemble each other with values that do. -/
theorem callsWithin_alike (session : SelfAlike ledger setting.session) (depth : Nat) :
    Alike (callsWithin setting depth) setting ledger := by
  induction depth with
  | zero => exact ⟨session, fun _ _ _ _ _ _ _ _ => .error .tooDeep,
      fun _ _ _ _ _ _ _ _ _ _ _ _ => .error .tooDeep⟩
  | succ depth ih =>
      refine ⟨session, ?_, ?_⟩
      · intro grown grows name arguments arguments' each
        exact dispatchClauses_corresponds (ih.mono grows) name each
      · intro grown grows span? span?' callee callee' arguments arguments' resembles each
        exact enter_corresponds (ih.mono grows) span? span?' resembles each

/-- A guard or a body evaluates alike wherever the names that it uses are bound to the same. -/
theorem evaluate_coincides {expr : Expr} {bindings bindings' : Bindings}
    (uses : ∀ reference ∈ expr.references [],
      bindings.lookup reference.name = bindings'.lookup reference.name)
    (callees : ∀ call ∈ expr.calls [],
      bindings.lookup call.signature.name = bindings'.lookup call.signature.name)
    (setting : Setting) (depth : Nat) :
    Corresponds Resembles .verbatim
      (evaluate (callsWithin setting depth) setting (clauseEnvironment bindings) expr)
      (evaluate (callsWithin setting depth) setting (clauseEnvironment bindings') expr) := by
  have self (value : Value) : Resembles .verbatim value value :=
    .self value (.inr Ledger.isVerbatim_verbatim)
  have bound {name : String} (same : bindings.lookup name = bindings'.lookup name) :
      Option.Rel (Resembles .verbatim) (boundIn [bindings] name) (boundIn [bindings'] name) := by
    rw [boundIn_cons, boundIn_cons, same]
    exact Value.optionRel_self fun value _ => self value
  have agree : AgreeOn (callsWithin setting depth) setting .asWritten .verbatim expr
      (clauseEnvironment bindings) (clauseEnvironment bindings') :=
    ⟨callsWithin_alike (fun _ _ binding _ => self binding.2) depth, rfl, rfl, rfl,
      fun reference used => bound (uses reference used),
      fun call called => bound (callees call called), nofun⟩
  have corresponds := evaluate_corresponds expr agree
  rwa [expr.phrased_asWritten] at corresponds

end Eval
end ClauseFlow

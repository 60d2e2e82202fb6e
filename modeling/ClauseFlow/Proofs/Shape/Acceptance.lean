import ClauseFlow.Proofs.Clause.Ordering
import ClauseFlow.Proofs.Shape.Twins

/-!
# Clauses that accept the same arguments

A clause accepts arguments if its patterns fit them and its guard holds. Clauses of one shape accept
the same arguments if no `fn` occurs in their guards, and then dropping the later one loses nothing.

With `fn` this fails. A shape numbers the parameters of a lambda as it numbers the names of the
patterns: a parameter keeps its number after the lambda, where the name stands for something else,
and an anonymous parameter gets a number of its own that no use of it shows.
-/

namespace ClauseFlow.Eval

/-- Whether a clause accepts arguments: its patterns fit them and its guard holds, within some depth
of calls. -/
def Accepts (setting : Setting) (arguments : List Value) (stamp : Nat) (clause : Clause) : Prop :=
  ∃ depth bindings,
    select (callsWithin setting depth) setting arguments stamp clause = .ok (some bindings)

variable {setting : Setting} {clause clause' : Clause}

theorem accepts_iff_isSome {arguments : List Value} {stamp : Nat} :
    Accepts setting arguments stamp clause ↔ ∃ depth,
      (select (callsWithin setting depth) setting arguments stamp clause).map Option.isSome =
        .ok true := by
  apply exists_congr
  intro depth
  rcases select (callsWithin setting depth) setting arguments stamp clause with
    stop | (_ | bindings)
  all_goals simp [Except.map]

/-- A clause that another one of its kind goes along with is never reached behind it. -/
theorem tryClauses_drop {calls : Calls} {signature : Signature} {arguments : List Value}
    {stamp : Nat}
    (follows : select calls setting arguments stamp clause = .ok none →
      select calls setting arguments stamp clause' = .ok none)
    (before between after : List Clause) :
    tryClauses calls setting signature arguments
        (before ++ clause :: (between ++ clause' :: after)) stamp =
      tryClauses calls setting signature arguments (before ++ clause :: (between ++ after))
        stamp := by
  have drop (first : List Clause)
      (passedOver : select calls setting arguments stamp clause' = .ok none) :
      tryClauses calls setting signature arguments (first ++ clause' :: after) stamp =
        tryClauses calls setting signature arguments (first ++ after) stamp := by
    induction first with
    | nil => rw [List.nil_append, tryClauses_cons, passedOver, List.nil_append]
    | cons other rest ih => rw [List.cons_append, tryClauses_cons, ih, ← tryClauses_cons]; rfl
  induction before with
  | nil =>
      rw [List.nil_append, List.nil_append, tryClauses_cons, tryClauses_cons]
      rcases selected : select calls setting arguments stamp clause with stop | (_ | bindings)
      · rfl
      · exact drop between (follows selected)
      · rfl
  | cons other rest ih =>
      rw [List.cons_append, tryClauses_cons, ih, ← tryClauses_cons]
      rfl

theorem accepts_iff_of_isPlain (same : clause.shapeKey = clause'.shapeKey)
    (plain : ∀ guard ∈ clause.guard?, guard.isPlain = true)
    (plain' : ∀ guard ∈ clause'.guard?, guard.isPlain = true) (arguments : List Value)
    (stamp : Nat) :
    Accepts setting arguments stamp clause ↔ Accepts setting arguments stamp clause' := by
  rw [accepts_iff_isSome, accepts_iff_isSome]
  apply exists_congr
  intro depth
  rw [select_of_shapeKey_eq (callsWithin_placeBlind setting depth) same plain plain']

/-- Two clauses of one shape accept the same arguments, in every program, and a call that tries both
of them goes as if the later one were not there. Guards are as the grammar writes them, without
`fn`; see `accepts_iff_of_read` for what has been read. -/
theorem accepts_of_shapeKey_eq (same : clause.shapeKey = clause'.shapeKey)
    (written : ∀ guard ∈ clause.guard?.toList ++ clause'.guard?.toList, guard.isWritten = true)
    (lambdaFree : ∀ guard ∈ clause.guard?.toList ++ clause'.guard?.toList,
      guard.lambdaFree = true)
    (setting : Setting) (arguments : List Value) (stamp : Nat) :
    (Accepts setting arguments stamp clause ↔ Accepts setting arguments stamp clause') ∧
      ∀ (depth : Nat) (signature : Signature) (before between after : List Clause),
        tryClauses (callsWithin setting depth) setting signature arguments
            (before ++ clause :: (between ++ clause' :: after)) stamp =
          tryClauses (callsWithin setting depth) setting signature arguments
            (before ++ clause :: (between ++ after)) stamp := by
  have plain : ∀ guard ∈ clause.guard?.toList ++ clause'.guard?.toList,
      guard.isPlain = true := fun guard member =>
    Expr.isPlain_of_isWritten (written guard member) (lambdaFree guard member)
  have first : ∀ guard ∈ clause.guard?, guard.isPlain = true := by
    intro guard member
    exact plain guard (List.mem_append_left _ (Option.mem_toList.mpr member))
  have second : ∀ guard ∈ clause'.guard?, guard.isPlain = true := by
    intro guard member
    exact plain guard (List.mem_append_right _ (Option.mem_toList.mpr member))
  constructor
  · exact accepts_iff_of_isPlain same first second arguments stamp
  · intro depth signature before between after
    apply tryClauses_drop
    exact passedOver_of_shapeKey_eq (callsWithin_placeBlind setting depth) same first second

/-- `def fits(size, {size, items}) when length(items) < size -> answer`, with other names. -/
def measuring (size items answer : String) : Declaration :=
  let here : Span := .generated
  let params : List Pattern :=
    [.binding size here, .tuple [.binding size here, .binding items here] here]
  let guard : Expr :=
    .binary (.call ⟨"length", here⟩ [.ident ⟨items, here⟩] here) .less (.ident ⟨size, here⟩) here
  ⟨.guarded ⟨"fits", params, here⟩ guard here, .atom answer here, false, none, here⟩

theorem accepts_of_shapeKey_eq_measuring :
    let first := (measuring "n" "xs" "early").defaultClause 0
    let second := (measuring "most" "ys" "late").defaultClause 1
    let setting : Setting := ⟨.ofDeclarations [], [], 0⟩
    let arguments : List Value := [.integer 3, .tuple [.integer 3, .list [.nil, .integer 1]]]
    first.shapeKey = second.shapeKey ∧
      (∀ guard ∈ first.guard?.toList ++ second.guard?.toList,
        guard.isWritten = true ∧ guard.lambdaFree = true) ∧
      Accepts setting arguments 0 first ∧ Accepts setting arguments 0 second ∧
      tryClauses (callsWithin setting 1) setting ⟨"fits", 2⟩ arguments [first, second] 0 =
        .ok (.atom "early", 0) := by
  intro first second setting arguments
  have same : first.shapeKey = second.shapeKey := by decide +kernel
  have written : ∀ guard ∈ first.guard?.toList ++ second.guard?.toList,
      guard.isWritten = true ∧ guard.lambdaFree = true := by decide +kernel
  have accepted : Accepts setting arguments 0 first := ⟨0, _, rfl⟩
  have alike := accepts_of_shapeKey_eq same (fun guard member => (written guard member).1)
    (fun guard member => (written guard member).2) setting arguments 0
  refine ⟨same, written, accepted, alike.1.mp accepted, ?_⟩
  exact (alike.2 1 ⟨"fits", 2⟩ [] [] []).trans rfl

/-- `def f(x) when is_function(fn(test) -> test) and test(x) -> answer`. -/
def testing (test answer : String) : Declaration :=
  let here : Span := .generated
  let lambda : Expr := .lambda [test] (.ident ⟨test, here⟩) here
  let guard : Expr :=
    .binary (.call ⟨"is_function", here⟩ [lambda] here) .and
      (.call ⟨test, here⟩ [.ident ⟨"x", here⟩] here) here
  ⟨.guarded ⟨"f", [.binding "x" here], here⟩ guard here, .atom answer here, false, none, here⟩

/-- `def no(_) -> false`, `def yes(_) -> true`, and two declarations of `f` that ask one of them after
a lambda whose parameter has its name. -/
def tests : List Declaration :=
  let here : Span := .generated
  let constant (name : String) (value : Bool) : Declaration :=
    ⟨.plain ⟨name, [.wildcard here], here⟩, .boolean value here, false, none, here⟩
  [constant "no" false, constant "yes" true, testing "no" "first", testing "yes" "second"]

/-- The clauses that ask `no` and `yes` have one shape, since both names keep the number of a
parameter behind the lambda. The second clause accepts what the first one does not, and is dropped:
so a call that it would have answered fails. -/
theorem accepts_differs_of_shapeKey_eq :
    let first := (testing "no" "first").defaultClause 2
    let second := (testing "yes" "second").defaultClause 3
    let setting : Setting := ⟨.ofDeclarations tests, [], 0⟩
    first.shapeKey = second.shapeKey ∧
      ¬Accepts setting [.integer 1] 0 first ∧ Accepts setting [.integer 1] 0 second ∧
      setting.program.clausesOf ⟨"f", 1⟩ = [first] ∧
      dispatchWithin setting 2 "f" [.integer 1] 0 =
        .error (.error (.noClause ⟨"f", 1⟩ [.integer 1])) := by
  intro first second setting
  have clauses : setting.program.clausesOf ⟨"f", 1⟩ = [first] := by decide +kernel
  have declares : setting.program.declares ⟨"f", [Value.integer 1].length⟩ = true := by
    decide +kernel
  refine ⟨by decide +kernel, ?_, ⟨1, _, rfl⟩, clauses, ?_⟩
  · rintro ⟨depth, bindings, selected⟩
    cases depth with
    | zero => cases selected
    | succ depth => cases selected
  · rw [dispatchWithin_of_declares declares 1, List.length_singleton, clauses, tryClauses_cons]
    rcases selected : select (callsWithin setting 1) setting [.integer 1] 0 first with
      stop | (_ | bindings)
    · cases selected
    · have shown : Value.allHaveNotation [Value.integer 1] = true := by decide +kernel
      exact (Run.raise_apply _ _).trans (congrArg Except.error (if_pos shown))
    · cases selected

end ClauseFlow.Eval

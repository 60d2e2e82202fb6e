import ClauseFlow.Proofs.Eval.Selection
import ClauseFlow.Proofs.Shape.Guards

/-!
# Clauses of one shape

Two clauses of one shape answer the same calls: they fit the same arguments, and then their guards
come to the same verdict. This is why finalizing may drop all of them but the first.
-/

namespace ClauseFlow

namespace Shape

/-! ## Taking shapes apart -/

/-- The numbering that a guard sees. -/
def numberingOf (params : List Pattern) : Numbering :=
  (Numbering.numberAll ⟨[], 0⟩ (Pattern.namesOfAll params)).2

/-- The tree of a guard or of its absence, as shapes are compared. -/
def guardTree (guard? : Option Expr) (state : Numbering) : Tree :=
  ((ofGuard guard?).run state).1.unsigned

theorem unsigned_treeOf (params : List Pattern) (guard? : Option Expr) :
    (treeOf params guard?).unsigned =
      .branch [.branch (patternTrees params ⟨[], 0⟩),
        guardTree guard? (numberingOf params), .branch [.word "body"]] := by
  rw [numberingOf, ← ofPatterns_snd]
  rfl

/-- Clauses of one shape have parameters and guards of one shape. -/
theorem trees_eq_of_shapeKey_eq {clause clause' : Clause}
    (same : clause.shapeKey = clause'.shapeKey) :
    patternTrees clause.params ⟨[], 0⟩ = patternTrees clause'.params ⟨[], 0⟩ ∧
      guardTree clause.guard? (numberingOf clause.params) =
        guardTree clause'.guard? (numberingOf clause'.params) := by
  have sameTree : (treeOf clause.params clause.guard?).unsigned =
      (treeOf clause'.params clause'.guard?).unsigned := congrArg Shape.tree same
  rw [unsigned_treeOf, unsigned_treeOf] at sameTree
  simp only [Tree.branch.injEq, List.cons.injEq, and_true] at sameTree
  exact sameTree

/-- Parameters of one shape fit the same arguments, with corresponding bindings. -/
theorem fitParams_agree {params params' : List Pattern}
    (same : patternTrees params ⟨[], 0⟩ = patternTrees params' ⟨[], 0⟩) (arguments : List Value) :
    Agree (numberingOf params) (numberingOf params') (Pattern.fitParams params arguments)
      (Pattern.fitParams params' arguments) := by
  have alike := allAlike_of_trees_eq same
  rw [Pattern.fitParams_eq_bindAll, Pattern.fitParams_eq_bindAll, ← alike.parts]
  cases taken : Pattern.partsOfAll params arguments with
  | none => exact .none
  | some values =>
      exact corresponds_empty.bindAll alike.numbers (Pattern.partsOfAll_length taken)

theorem exprTree_ne_absent (expr : Expr) (state : Numbering) :
    exprTree expr state ≠ .absent := by
  intro same
  have kinds := congrArg Tree.kind same
  rw [kind_exprTree] at kinds
  cases expr <;> simp [Expr.label, Tree.kind] at kinds

/-- Guards with one tree are both absent or both there, and then alike. -/
theorem guards_of_guardTree_eq {guard? guard?' : Option Expr} {state state' : Numbering}
    (plain : ∀ guard ∈ guard?, guard.isPlain = true)
    (plain' : ∀ guard ∈ guard?', guard.isPlain = true)
    (same : guardTree guard? state = guardTree guard?' state') :
    guard? = none ∧ guard?' = none ∨
      ∃ guard guard', guard? = some guard ∧ guard?' = some guard' ∧
        guard.Alike (link state state') guard' := by
  cases guard? with
  | none =>
      cases guard?' with
      | none => exact .inl ⟨rfl, rfl⟩
      | some guard' => exact absurd same.symm (exprTree_ne_absent guard' state')
  | some guard =>
      cases guard?' with
      | none => exact absurd same (exprTree_ne_absent guard state)
      | some guard' =>
          exact .inr ⟨guard, guard', rfl, rfl,
            alike_of_exprTree_eq (plain guard rfl) (plain' guard' rfl) same⟩

/-! ## Names used alike -/

theorem useTree_of_known {name : String} {state : Numbering} {number : Nat}
    (known : state.numbers.lookup name = some number) :
    useTree name state = .branch [.word "var", .integer number] := by
  change (useOf name state).1 = _
  simp [useOf, known, Tree.node]

theorem useTree_of_unknown {name : String} {state : Numbering}
    (unknown : state.numbers.lookup name = none) :
    useTree name state = .branch [.word "name", .word name] := by
  change (useOf name state).1 = _
  simp [useOf, unknown, Tree.node]

/-- Names used alike have the same value, and are the same name if they have none. -/
theorem Corresponds.lookup_eq {state state' : Numbering} {bindings bindings' : Bindings}
    (corresponds : Corresponds state state' bindings bindings') {name name' : String}
    (same : useTree name state = useTree name' state') :
    bindings.lookup name = bindings'.lookup name' ∧
      (bindings.lookup name = none → name = name') := by
  cases known : state.numbers.lookup name with
  | none =>
      cases known' : state'.numbers.lookup name' with
      | none =>
          rw [useTree_of_unknown known, useTree_of_unknown known'] at same
          rw [(corresponds.covers.known name).mp known, (corresponds.covers'.known name').mp known']
          refine ⟨rfl, fun _ => ?_⟩
          simpa using same
      | some number' =>
          rw [useTree_of_unknown known, useTree_of_known known'] at same
          simp at same
  | some number =>
      cases known' : state'.numbers.lookup name' with
      | none =>
          rw [useTree_of_known known, useTree_of_unknown known'] at same
          simp at same
      | some number' =>
          rw [useTree_of_known known, useTree_of_known known'] at same
          obtain rfl : number = number' := Int.ofNat_inj.mp (by simpa using same)
          refine ⟨corresponds.same name name' number known known', fun unbound => ?_⟩
          rw [(corresponds.covers.known name).mpr unbound] at known
          cases known

end Shape

namespace Eval

open Shape (Corresponds Agree)

variable {calls : Calls} {setting : Setting}

/-- A clause sees the names of its patterns and nothing else that is local. -/
theorem lookup_clauseEnvironment (setting : Setting) (bindings : Bindings) (name : String) :
    setting.lookup (clauseEnvironment bindings) name = bindings.lookup name := by
  simp [Setting.lookup, clauseEnvironment]

theorem relates_of_corresponds {state state' : Shape.Numbering} {bindings bindings' : Bindings}
    (corresponds : Corresponds state state' bindings bindings') (setting : Setting) :
    (Shape.link state state').Relates False setting (clauseEnvironment bindings)
      (clauseEnvironment bindings') := by
  constructor
  · intro name name' same
    simp only [lookup_clauseEnvironment]
    exact .inl (corresponds.lookup_eq same)
  · intro name name' same
    simp only [lookup_clauseEnvironment]
    exact corresponds.lookup_eq same

/-- Two clauses of one shape are both passed over, or both answer, or both interrupt the call in the
same way. -/
theorem select_of_shapeKey_eq (blind : PlaceBlind False calls) {clause clause' : Clause}
    (same : clause.shapeKey = clause'.shapeKey)
    (plain : ∀ guard ∈ clause.guard?, guard.isPlain = true)
    (plain' : ∀ guard ∈ clause'.guard?, guard.isPlain = true) (arguments : List Value)
    (stamp : Nat) :
    (select calls setting arguments stamp clause).map Option.isSome =
      (select calls setting arguments stamp clause').map Option.isSome := by
  have sameKind : clause.kind = clause'.kind := congrArg Shape.kind same
  rcases Shape.trees_eq_of_shapeKey_eq same with ⟨sameParams, sameGuard⟩
  have agree := Shape.fitParams_agree sameParams arguments
  simp only [select]
  generalize Pattern.fitParams clause.params arguments = fitted at agree
  generalize Pattern.fitParams clause'.params arguments = fitted' at agree
  cases agree with
  | none => rfl
  | @some bindings bindings' corresponds =>
      have verdicts : guardHolds calls setting clause bindings stamp =
          guardHolds calls setting clause' bindings' stamp := by
        rcases Shape.guards_of_guardTree_eq plain plain' sameGuard with
          ⟨unguarded, unguarded'⟩ | ⟨guard, guard', guarded, guarded', guardsAlike⟩
        · simp only [guardHolds, unguarded, unguarded']
        · have relates := relates_of_corresponds corresponds setting
          simp only [guardHolds, guarded, guarded', sameKind]
          rw [verdict_eq_of_blurs _ (evaluate_blurs blind relates guardsAlike)]
      simp only [verdicts]
      rcases guardHolds calls setting clause' bindings' stamp with stop | ⟨holds, stamp'⟩
      · rfl
      · cases holds <;> rfl

/-- A clause is passed over if another one of its shape is. -/
theorem passedOver_of_shapeKey_eq (blind : PlaceBlind False calls) {clause clause' : Clause}
    (same : clause.shapeKey = clause'.shapeKey)
    (plain : ∀ guard ∈ clause.guard?, guard.isPlain = true)
    (plain' : ∀ guard ∈ clause'.guard?, guard.isPlain = true) {arguments : List Value}
    {stamp : Nat} (passedOver : select calls setting arguments stamp clause = .ok none) :
    select calls setting arguments stamp clause' = .ok none := by
  have twins : (select calls setting arguments stamp clause).map Option.isSome = _ :=
    select_of_shapeKey_eq blind same plain plain' arguments stamp
  rw [passedOver] at twins
  rcases selected : select calls setting arguments stamp clause' with stop | (_ | bindings)
  · rw [selected] at twins
    cases twins
  · rfl
  · rw [selected] at twins
    cases twins

end Eval
end ClauseFlow

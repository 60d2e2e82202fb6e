import ClauseFlow.Proofs.Clause.Ordering

/-!
# The life of a scope

A scope is asked to take declarations and to finalize them, in any order and any number of times.
Until it is first finalized it holds the clauses of the declarations taken so far, numbered in their
order; from then on it refuses every request and stays as it is.
-/

namespace ClauseFlow

/-! ## Clauses in the order of their declarations -/

namespace Declaration

theorem clausesFrom_concat (order : Nat) (declarations : List Declaration)
    (declaration : Declaration) :
    clausesFrom order (declarations ++ [declaration]) =
      clausesFrom order declarations ++ declaration.clauses (order + declarations.length) := by
  induction declarations generalizing order with
  | nil => exact List.append_nil _
  | cons first rest ih =>
      have next : order + 1 + rest.length = order + (rest.length + 1) := by omega
      rw [List.cons_append, clausesFrom, ih, clausesFrom, List.append_assoc, List.length_cons, next]

@[simp] theorem clauseOf_order (declaration : Declaration) (kind : ClauseKind) (order : Nat) :
    (declaration.clauseOf kind order).order = order := by
  cases kind <;> rfl

/-- A declaration stands for at most one clause of each kind. -/
theorem ofKind_clauses (kind : ClauseKind) (declaration : Declaration) (order : Nat) :
    (Clause.ofKind kind (declaration.clauses order)).Sublist
      [declaration.clauseOf kind order] := by
  by_cases answers : declaration.Answers
  · rw [clauses_of_answers answers]
    cases kind <;> exact .refl _
  · rw [clauses_of_not_answers answers]
    cases kind with
    | default => exact .refl _
    | errorPassthrough | okUnwrap => exact List.nil_sublist _

theorem order_of_mem_clauses {declaration : Declaration} {order : Nat} {clause : Clause}
    (member : clause ∈ declaration.clauses order) : clause.order = order := by
  rw [(mem_clauses.mp member).2, clauseOf_order]

theorem le_order_of_mem_clausesFrom {order : Nat} {declarations : List Declaration}
    {clause : Clause} (member : clause ∈ clausesFrom order declarations) :
    order ≤ clause.order := by
  induction declarations generalizing order with
  | nil => cases member
  | cons declaration rest ih =>
      rcases List.mem_append.mp member with here | later
      · exact Nat.le_of_eq (order_of_mem_clauses here).symm
      · exact Nat.le_of_succ_le (ih later)

theorem ofKind_clausesFrom_cons (kind : ClauseKind) (order : Nat) (declaration : Declaration)
    (rest : List Declaration) :
    Clause.ofKind kind (clausesFrom order (declaration :: rest)) =
      Clause.ofKind kind (declaration.clauses order) ++
        Clause.ofKind kind (clausesFrom (order + 1) rest) :=
  List.filter_append _ _

/-- The clauses of one kind are numbered upwards. -/
theorem pairwise_order_ofKind (kind : ClauseKind) (order : Nat)
    (declarations : List Declaration) :
    (Clause.ofKind kind (clausesFrom order declarations)).Pairwise
      fun clause later => clause.order < later.order := by
  induction declarations generalizing order with
  | nil => exact .nil
  | cons declaration rest ih =>
      rw [ofKind_clausesFrom_cons]
      refine List.pairwise_append.mpr ⟨?_, ih _, ?_⟩
      · exact (List.pairwise_singleton _ _).sublist (ofKind_clauses kind declaration order)
      · intro clause here later behind
        rw [order_of_mem_clauses (Clause.mem_ofKind.mp here).1]
        exact le_order_of_mem_clausesFrom (Clause.mem_ofKind.mp behind).1

/-- There is one default clause for each declaration, with its number. -/
theorem map_order_default (order : Nat) (declarations : List Declaration) :
    (Clause.ofKind .default (clausesFrom order declarations)).map (·.order) =
      List.range' order declarations.length := by
  induction declarations generalizing order with
  | nil => rfl
  | cons declaration rest ih =>
      rw [ofKind_default_clausesFrom, List.map_cons, ih]
      rfl

end Declaration

namespace Scope

/-! ## Collecting clauses -/

theorem collected_add (scope : Scope) (clause : Clause) (kind : ClauseKind) :
    (scope.add clause).collected kind = scope.collected kind ++ Clause.ofKind kind [clause] := by
  rw [add]
  cases own : clause.kind
  all_goals
    cases kind
    all_goals simp [collected, Clause.ofKind, own]

theorem finalized?_add (scope : Scope) (clause : Clause) :
    (scope.add clause).finalized? = scope.finalized? := by
  rw [add]
  cases clause.kind <;> rfl

theorem name_add (scope : Scope) (clause : Clause) : (scope.add clause).name = scope.name := by
  rw [add]
  cases clause.kind <;> rfl

theorem collected_foldl_add (scope : Scope) (clauses : List Clause) (kind : ClauseKind) :
    (clauses.foldl add scope).collected kind =
      scope.collected kind ++ Clause.ofKind kind clauses := by
  induction clauses generalizing scope with
  | nil => exact (List.append_nil _).symm
  | cons clause rest ih =>
      rw [List.foldl_cons, ih, collected_add, List.append_assoc]
      exact congrArg _ (List.filter_append [clause] rest).symm

theorem finalized?_foldl_add (scope : Scope) (clauses : List Clause) :
    (clauses.foldl add scope).finalized? = scope.finalized? := by
  induction clauses generalizing scope with
  | nil => rfl
  | cons clause rest ih => rw [List.foldl_cons, ih, finalized?_add]

theorem name_foldl_add (scope : Scope) (clauses : List Clause) :
    (clauses.foldl add scope).name = scope.name := by
  induction clauses generalizing scope with
  | nil => rfl
  | cons clause rest ih => rw [List.foldl_cons, ih, name_add]

/-! ## Requests -/

/-- What a scope can be asked for. -/
inductive Request where
  | declare (declaration : Declaration)
  | finalize

/-- The answer to a request, and the scope that goes with it unless the request is refused. -/
def respond (scope : Scope) : Request → Except ScopeFinalized (List Clause × Scope)
  | .declare declaration => scope.declare declaration
  | .finalize => scope.finalize

/-- The scope after a request; one that is refused leaves it as it is. -/
def after (scope : Scope) (request : Request) : Scope :=
  match scope.respond request with
  | .ok (_, next) => next
  | .error _ => scope

/-- The scope after requests. -/
def afterAll (scope : Scope) (requests : List Request) : Scope :=
  requests.foldl after scope

theorem afterAll_cons (scope : Scope) (request : Request) (rest : List Request) :
    scope.afterAll (request :: rest) = (scope.after request).afterAll rest :=
  rfl

/-- The declarations that are asked for before the scope is first asked to finalize. -/
def Request.declared : List Request → List Declaration
  | [] => []
  | .declare declaration :: rest => declaration :: declared rest
  | .finalize :: _ => []

/-- Whether a scope of a name holds the clauses of just the declarations that it has taken. -/
structure Holds (name : String) (taken : List Declaration) (scope : Scope) : Prop where
  name : scope.name = name
  collected : ∀ kind, scope.collected kind = Clause.ofKind kind (Declaration.clausesFrom 0 taken)
  nextOrder : scope.nextOrder = taken.length

variable {name : String} {taken : List Declaration} {scope : Scope}

theorem holds_empty (name : String) : Holds name [] (empty name) where
  name := rfl
  collected kind := by cases kind <;> rfl
  nextOrder := rfl

/-! ## Scopes that are not finalized -/

theorem isFinalized_of_none (unfinished : scope.finalized? = none) :
    scope.isFinalized = false := by
  rw [isFinalized, unfinished]
  rfl

/-- A declaration is taken under the next number. -/
theorem Holds.declare (holds : Holds name taken scope) (unfinished : scope.finalized? = none)
    (declaration : Declaration) :
    ∃ next, scope.declare declaration = .ok (declaration.clauses taken.length, next) ∧
      Holds name (taken ++ [declaration]) next ∧ next.finalized? = none := by
  let collecting := (declaration.clauses taken.length).foldl add scope
  refine ⟨{ collecting with nextOrder := taken.length + 1 }, ?_, ⟨?_, ?_, ?_⟩, ?_⟩
  · rw [Scope.declare, isFinalized_of_none unfinished, holds.nextOrder]
    rfl
  · exact (name_foldl_add scope _).trans holds.name
  · intro kind
    have collected := collected_foldl_add scope (declaration.clauses taken.length) kind
    rw [holds.collected] at collected
    rw [Declaration.clausesFrom_concat, Nat.zero_add, Clause.ofKind, List.filter_append]
    cases kind <;> exact collected
  · rw [List.length_append]
    rfl
  · exact (finalized?_foldl_add scope _).trans unfinished

/-- Finalizing gives the clauses of the declarations that were taken, and takes nothing away. -/
theorem Holds.finalize (holds : Holds name taken scope) (unfinished : scope.finalized? = none) :
    ∃ next, scope.finalize = .ok (Clause.ofDeclarations taken, next) ∧
      Holds name taken next ∧ next.finalized? = some (Clause.ofDeclarations taken) := by
  have ordered : Clause.finalize scope.default scope.okUnwrap scope.errorPassthrough =
      Clause.ofDeclarations taken :=
    congr (congr (congrArg Clause.finalize (holds.collected .default))
      (holds.collected .okUnwrap)) (holds.collected .errorPassthrough)
  refine ⟨{ scope with finalized? := some (Clause.ofDeclarations taken) }, ?_, ?_, rfl⟩
  · rw [Scope.finalize, isFinalized_of_none unfinished, ordered]
    rfl
  · refine ⟨holds.name, fun kind => ?_, holds.nextOrder⟩
    rw [← holds.collected kind]
    cases kind <;> rfl

/-! ## Finalized scopes -/

/-- A finalized scope refuses every request. -/
theorem respond_of_isFinalized (finalized : scope.isFinalized = true) (request : Request) :
    scope.respond request = .error ⟨scope.name⟩ := by
  cases request with
  | declare declaration => exact if_pos finalized
  | finalize => exact if_pos finalized

theorem after_of_isFinalized (finalized : scope.isFinalized = true) (request : Request) :
    scope.after request = scope := by
  rw [after, respond_of_isFinalized finalized]

theorem afterAll_of_isFinalized (finalized : scope.isFinalized = true)
    (requests : List Request) : scope.afterAll requests = scope := by
  induction requests with
  | nil => rfl
  | cons request rest ih => rwa [afterAll_cons, after_of_isFinalized finalized]

/-! ## Whole lives -/

/-- What a scope holds after requests: the clauses of the declarations before the first request to
finalize, in dispatch order too if there was one. -/
theorem Holds.afterAll (holds : Holds name taken scope) (unfinished : scope.finalized? = none)
    (requests : List Request) :
    Holds name (taken ++ Request.declared requests) (scope.afterAll requests) ∧
      (.finalize ∉ requests → (scope.afterAll requests).finalized? = none) ∧
      (.finalize ∈ requests → (scope.afterAll requests).finalized? =
        some (Clause.ofDeclarations (taken ++ Request.declared requests))) := by
  induction requests generalizing scope taken with
  | nil =>
      rw [Request.declared, List.append_nil]
      exact ⟨holds, fun _ => unfinished, nofun⟩
  | cons request rest ih =>
      cases request with
      | declare declaration =>
          rcases holds.declare unfinished declaration with ⟨next, answered, nextHolds, open'⟩
          have later := ih nextHolds open'
          have moves : scope.after (.declare declaration) = next := by
            rw [after, respond, answered]
          rw [afterAll_cons, moves, Request.declared]
          simpa only [List.append_assoc, List.singleton_append, List.mem_cons, reduceCtorEq,
            false_or] using later
      | finalize =>
          rcases holds.finalize unfinished with ⟨next, answered, nextHolds, done⟩
          have moves : scope.after .finalize = next := by
            rw [after, respond, answered]
          have finalized : next.isFinalized = true := by rw [isFinalized, done]; rfl
          have stays : next.afterAll rest = next := afterAll_of_isFinalized finalized rest
          rw [afterAll_cons, moves, stays, Request.declared, List.append_nil]
          exact ⟨nextHolds, fun none => absurd (.head _) none, fun _ => done⟩

/-- The life of a scope. Whatever it was asked for in the past, it has collected the clauses of the
declarations before the first request to finalize, of each kind in the order of their numbers, which
count the declarations from zero, and one default clause for each. Until it is finalized it answers
a declaration with its clauses, and a request to finalize with the clauses of all declarations in
dispatch order; from then on it refuses every request and stays as it is. -/
theorem life_cycle (name : String) (past : List Request) :
    let scope := (empty name).afterAll past
    let declared := Request.declared past
    (.finalize ∉ past → scope.finalized? = none ∧
        scope.finalize.map Prod.fst = .ok (Clause.ofDeclarations declared) ∧
        ∀ declaration, (scope.declare declaration).map Prod.fst =
          .ok (declaration.clauses declared.length)) ∧
      (.finalize ∈ past → scope.finalized? = some (Clause.ofDeclarations declared) ∧
        (∀ request, scope.respond request = .error ⟨name⟩) ∧
        ∀ later, scope.afterAll later = scope) ∧
      scope.nextOrder = declared.length ∧
      (∀ kind, scope.collected kind = Clause.ofKind kind (Declaration.clausesFrom 0 declared) ∧
        (scope.collected kind).Pairwise fun clause later => clause.order < later.order) ∧
      (scope.collected .default).map (·.order) = List.range declared.length := by
  intro scope declared
  rcases (holds_empty name).afterAll rfl past with ⟨holds, unfinished, finished⟩
  rw [List.nil_append] at holds finished
  refine ⟨fun absent => ?_, fun met => ?_, holds.nextOrder, fun kind => ?_, ?_⟩
  · have isOpen := unfinished absent
    rcases holds.finalize isOpen with ⟨_, finalizes, _⟩
    refine ⟨isOpen, by rw [finalizes]; rfl, fun declaration => ?_⟩
    rcases holds.declare isOpen declaration with ⟨_, declares, _⟩
    rw [declares]
    rfl
  · have done := finished met
    have finalized : scope.isFinalized = true := by rw [isFinalized, done]; rfl
    refine ⟨done, fun request => ?_, afterAll_of_isFinalized finalized⟩
    rw [respond_of_isFinalized finalized, holds.name]
  · rw [holds.collected kind]
    exact ⟨rfl, Declaration.pairwise_order_ofKind kind 0 declared⟩
  · rw [holds.collected .default, Declaration.map_order_default, List.range_eq_range']

/-- The declaration `pipe f(x) -> x`. -/
def passingDeclaration : Declaration where
  head := .plain ⟨"f", [.binding "x" .generated], .generated⟩
  body := .ident ⟨"x", .generated⟩
  synthesized := true
  doc? := none
  span := .generated

/-- What is asked for after the first request to finalize changes nothing. -/
theorem life_cycle_refusing :
    let past : List Request := [.declare passingDeclaration, .finalize,
      .declare passingDeclaration, .finalize]
    let scope := (empty "module").afterAll past
    .finalize ∈ past ∧ Request.declared past = [passingDeclaration] ∧
      scope.finalized? = some (Clause.ofDeclarations [passingDeclaration]) ∧
      scope.finalize.map Prod.fst = .error ⟨"module"⟩ ∧ scope.nextOrder = 1 := by
  intro past scope
  have met : .finalize ∈ past := .tail _ (.head _)
  rcases life_cycle "module" past with ⟨_, finished, nextOrder, _⟩
  rcases finished met with ⟨done, refuses, _⟩
  have refused : scope.finalize = .error ⟨"module"⟩ := refuses .finalize
  refine ⟨met, rfl, done, ?_, nextOrder⟩
  rw [refused]
  rfl

end Scope
end ClauseFlow

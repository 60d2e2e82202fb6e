import ClauseFlow.Proofs.Eval.SourceOrder
import ClauseFlow.Proofs.Eval.Transparency
import ClauseFlow.Proofs.Parse.Written
import ClauseFlow.Proofs.Shape.Acceptance

/-!
# Modules that have been read

How guards are compared and asked again is told for guards as the grammar writes them. The guards of
a module that has been read are such guards, so for its functions nothing is left to be asked of them
but that no `fn` occurs in them.
-/

namespace ClauseFlow

variable {file text : String} {module : Module}

theorem Module.isPlain_of_read (read : Module.read file text = .ok module)
    {declaration : Declaration} (declared : declaration ∈ module.declarations)
    (lambdaFree : ∀ guard ∈ declaration.guard?, guard.lambdaFree = true) :
    ∀ guard ∈ declaration.guard?, guard.isPlain = true :=
  fun guard guarded => Expr.isPlain_of_isWritten
    (Module.read_guards read declaration declared guard guarded) (lambdaFree guard guarded)

/-- The guard of a clause is that of a declaration. -/
theorem Declaration.exists_of_guard?_clausesFrom {declarations : List Declaration} {order : Nat}
    {clause : Clause} (member : clause ∈ clausesFrom order declarations) {guard : Expr}
    (guarded : guard ∈ clause.guard?) :
    ∃ declaration ∈ declarations, guard ∈ declaration.guard? := by
  rcases Clause.exists_of_mem_ofKind (Clause.mem_ofKind.mpr ⟨member, rfl⟩) with
    ⟨declaration, declared, _, index, same⟩
  refine ⟨declaration, declared, ?_⟩
  rw [same] at guarded
  cases kind : clause.kind with
  | default => rwa [kind, clauseOf, defaultClause_guard?] at guarded
  | okUnwrap => rwa [kind, clauseOf, okClause_guard?] at guarded
  | errorPassthrough =>
      rw [kind] at guarded
      cases guarded

namespace Eval

variable {setting : Setting} {name : String}

/-- A call whose first argument is no result goes through the declarations of its function in source
order. -/
theorem walks_in_sourceOrder_of_read (read : Module.read file text = .ok module)
    (program : setting.program = .ofDeclarations module.declarations)
    (lambdaFree : ∀ declaration ∈ module.declarations, ∀ guard ∈ declaration.guard?,
      guard.lambdaFree = true)
    {arguments : List Value}
    (declared : ∃ declaration ∈ module.declarations,
      declaration.signature = ⟨name, arguments.length⟩)
    (plainFirst : ∀ first ∈ arguments.head?, first.isResult = false) (stamp : Nat) :
    ∃ outcome, Run.EndsIn (dispatches setting name arguments) stamp outcome ∧
      Run.EndsIn (fun depth => walkDeclarations (callsWithin setting depth) setting
        ⟨name, arguments.length⟩ arguments module.declarations) stamp outcome :=
  exists_outcome_of_isPlain program
    (fun declaration member => Module.isPlain_of_read read member (lambdaFree declaration member))
    declared plainFirst stamp

/-- Two clauses of one shape accept the same arguments. -/
theorem accepts_iff_of_read (read : Module.read file text = .ok module)
    (lambdaFree : ∀ declaration ∈ module.declarations, ∀ guard ∈ declaration.guard?,
      guard.lambdaFree = true)
    {clause clause' : Clause} (collected : clause ∈ Declaration.clausesFrom 0 module.declarations)
    (collected' : clause' ∈ Declaration.clausesFrom 0 module.declarations)
    (same : clause.shapeKey = clause'.shapeKey) (arguments : List Value) (stamp : Nat) :
    Accepts setting arguments stamp clause ↔ Accepts setting arguments stamp clause' := by
  have plain {clause : Clause}
      (collected : clause ∈ Declaration.clausesFrom 0 module.declarations) :
      ∀ guard ∈ clause.guard?, guard.isPlain = true := by
    intro guard guarded
    rcases Declaration.exists_of_guard?_clausesFrom collected guarded with
      ⟨declaration, declared, own⟩
    exact Module.isPlain_of_read read declared (lambdaFree declaration declared) guard own
  exact accepts_iff_of_isPlain same (plain collected) (plain collected') arguments stamp

/-- A function that returns something for a plain first argument returns the same for a success with
that argument in it, unless a guard of the function interrupts the call. -/
theorem transparent_of_read (read : Module.read file text = .ok module)
    (program : setting.program = .ofDeclarations module.declarations) {value : Value}
    {others : List Value}
    (declared : ∃ declaration ∈ module.declarations,
      declaration.signature = ⟨name, others.length + 1⟩)
    (synthesized : ∀ declaration ∈ module.declarations,
      declaration.signature = ⟨name, others.length + 1⟩ → declaration.synthesized = true)
    (lambdaFree : ∀ declaration ∈ module.declarations,
      declaration.signature = ⟨name, others.length + 1⟩ →
        ∀ guard ∈ declaration.guard?, guard.lambdaFree = true)
    (repeats : ∀ declaration ∈ module.declarations,
      declaration.signature = ⟨name, others.length + 1⟩ →
        (Pattern.fitParams declaration.params (value :: others)).isSome ∨
            (Pattern.fitParams declaration.params.tail others).isSome →
          declaration.OthersRepeat others)
    (defers : ∀ declaration ∈ module.declarations,
      declaration.signature = ⟨name, others.length + 1⟩ → ∀ bindings tailBindings,
        Pattern.fitParams declaration.params (value :: others) = some bindings →
        Pattern.fitParams declaration.params.tail others = some tailBindings →
          declaration.Defers setting.program bindings tailBindings)
    (noResult : value.isResult = false) {stamp : Nat} {result : Value × Nat}
    (returns : Run.EndsIn (dispatches setting name (value :: others)) stamp (.ok result)) :
    ∃ outcome,
      Run.EndsIn (dispatches setting name (.result .ok value :: others)) stamp outcome ∧
        (outcome = .ok result ∨
          ∃ declaration ∈ module.declarations,
            declaration.signature = ⟨name, others.length + 1⟩ ∧
              ∃ stop, GuardInterrupts setting declaration others stamp stop ∧
                outcome = .error stop) :=
  transparent_of_isPlain program declared synthesized
    (fun declaration member own =>
      Module.isPlain_of_read read member (lambdaFree declaration member own))
    repeats defers noResult returns

end Eval
end ClauseFlow

import ClauseFlow.Expr.Names
import ClauseFlow.Proofs.Eval.Likeness
import ClauseFlow.Proofs.Expr.Every

/-!
# What a guard relies on

What a guard comes to depends on the names that it uses as values and on the names that it calls,
and on nothing else that is bound.
-/

namespace ClauseFlow

/-- Whether a link takes every name that an expression uses or calls to itself. -/
structure Link.Keeps (link : Link) (uses : List Identifier) (calls : List NamedCall) : Prop where
  uses : ∀ identifier ∈ uses, link.uses identifier.name identifier.name
  callees : ∀ call ∈ calls, link.callees call.signature.name call.signature.name

namespace Link.Keeps

variable {link : Link} {uses uses' : List Identifier} {calls calls' : List NamedCall}

theorem left (keeps : link.Keeps (uses ++ uses') (calls ++ calls')) : link.Keeps uses calls :=
  ⟨(List.forall_mem_append.mp keeps.uses).1, (List.forall_mem_append.mp keeps.callees).1⟩

theorem right (keeps : link.Keeps (uses ++ uses') (calls ++ calls')) : link.Keeps uses' calls' :=
  ⟨(List.forall_mem_append.mp keeps.uses).2, (List.forall_mem_append.mp keeps.callees).2⟩

theorem first {call : NamedCall} (keeps : link.Keeps uses (call :: calls)) :
    link.callees call.signature.name call.signature.name :=
  keeps.callees call (.head _)

theorem later {call : NamedCall} (keeps : link.Keeps uses (call :: calls)) :
    link.Keeps uses calls :=
  ⟨keeps.uses, fun other member => keeps.callees other (.tail _ member)⟩

end Link.Keeps

namespace Expr

variable {link : Link}

mutual

/-- An expression is like itself, under a link that keeps its names. -/
theorem alike_self : ∀ {expr : Expr}, expr.isPlain = true →
    link.Keeps (references [] expr) (calls [] expr) → expr.Alike link expr
  | .integer value span, _, _ => .integer value span span
  | .decimal value span, _, _ => .decimal value span span
  | .text value span, _, _ => .text value span span
  | .atom name span, _, _ => .atom name span span
  | .boolean value span, _, _ => .boolean value span span
  | .nil span, _, _ => .nil span span
  | .typeName name span, _, _ => .typeName name span span
  | .ident ⟨name, span⟩, _, keeps => .ident span span (keeps.uses ⟨name, span⟩ (.head _))
  | .binary left op right span, plain, keeps => by
      simp only [isPlain, every, Bool.and_eq_true] at plain
      exact .binary op span span (alike_self plain.1.2 keeps.left) (alike_self plain.2 keeps.right)
  | .unary op operand span, plain, keeps => by
      simp only [isPlain, every, Bool.and_eq_true] at plain
      exact .unary op span span (alike_self plain.2 keeps)
  | .call ⟨name, place⟩ arguments span, plain, keeps => by
      simp only [isPlain, every, Bool.and_eq_true] at plain
      exact .call place place span span keeps.first (allAlike_self plain.2 keeps.later)
  | .delegate .., plain, _ => by
      simp [isPlain, every, isPlainPart, isWrittenPart] at plain
  | .field subject name span, plain, keeps => by
      simp only [isPlain, every, Bool.and_eq_true] at plain
      exact .field name span span (alike_self plain.2 keeps)
  | .pipe left ⟨name, place⟩ span, plain, keeps => by
      simp only [isPlain, every, Bool.and_eq_true] at plain
      rcases keeps with ⟨uses, callees⟩
      rw [calls, List.forall_mem_append] at callees
      exact .pipe place place span span (alike_self plain.2 ⟨uses, callees.1⟩)
        (callees.2 _ (.head _))
  | .pipeCall left ⟨name, place⟩ arguments callSpan span, plain, keeps => by
      simp only [isPlain, every, Bool.and_eq_true] at plain
      rcases keeps with ⟨uses, callees⟩
      rw [references, List.forall_mem_append] at uses
      rw [calls, List.forall_mem_append, List.forall_mem_append] at callees
      exact .pipeCall place place callSpan callSpan span span
        (alike_self plain.1.2 ⟨uses.1, callees.1.1⟩) (callees.1.2 _ (.head _))
        (allAlike_self plain.2 ⟨uses.2, callees.2⟩)
  | .alternative left right span, plain, keeps => by
      simp only [isPlain, every, Bool.and_eq_true] at plain
      exact .alternative span span (alike_self plain.1.2 keeps.left)
        (alike_self plain.2 keeps.right)
  | .result tag value span, plain, keeps => by
      simp only [isPlain, every, Bool.and_eq_true] at plain
      exact .result tag span span (alike_self plain.2 keeps)
  | .tuple elements span, plain, keeps => by
      simp only [isPlain, every, Bool.and_eq_true] at plain
      exact .tuple span span (allAlike_self plain.2 keeps)
  | .list elements none span, plain, keeps => by
      simp only [isPlain, every, Bool.and_eq_true] at plain
      exact .list span span (allAlike_self plain.2 keeps)
  | .list elements (some tail) span, plain, keeps => by
      simp only [isPlain, every, Bool.and_eq_true] at plain
      exact .listWithTail span span (allAlike_self plain.1.2 keeps.left)
        (alike_self plain.2 keeps.right)
  | .map entries span, plain, keeps => by
      simp only [isPlain, every, Bool.and_eq_true] at plain
      exact .map span span (entriesAlike_self plain.2 keeps)
  | .record tag entries span, plain, keeps => by
      simp only [isPlain, every, Bool.and_eq_true] at plain
      exact .record tag span span (entriesAlike_self plain.2 keeps)
  | .lambda .., plain, _ => by
      simp [isPlain, every, isPlainPart, isNoLambda] at plain
  | .conditional condition thenBranch elseBranch span, plain, keeps => by
      simp only [isPlain, every, Bool.and_eq_true] at plain
      exact .conditional span span (alike_self plain.1.1.2 keeps.left.left)
        (alike_self plain.1.2 keeps.left.right) (alike_self plain.2 keeps.right)

theorem allAlike_self : ∀ {exprs : List Expr}, everyOfAll isPlainPart exprs = true →
    link.Keeps (referencesOfAll [] exprs) (callsOfAll [] exprs) → AllAlike link exprs exprs
  | [], _, _ => .nil
  | expr :: rest, plain, keeps => by
      simp only [everyOfAll, Bool.and_eq_true] at plain
      exact .cons (alike_self plain.1 keeps.left) (allAlike_self plain.2 keeps.right)

theorem entriesAlike_self : ∀ {entries : List (String × Expr)},
    everyOfEntries isPlainPart entries = true →
    link.Keeps (referencesOfEntries [] entries) (callsOfEntries [] entries) →
      EntriesAlike link entries entries
  | [], _, _ => .nil
  | (key, expr) :: rest, plain, keeps => by
      simp only [everyOfEntries, Bool.and_eq_true] at plain
      exact .cons key (alike_self plain.1 keeps.left) (entriesAlike_self plain.2 keeps.right)

end

mutual

/-- An expression spells the names that it uses and calls. -/
theorem spells : ∀ (expr : Expr) (locals : List String),
    (∀ identifier ∈ references locals expr, identifier.name ∈ spelledNames expr) ∧
      ∀ call ∈ calls locals expr, call.signature.name ∈ spelledNames expr
  | .integer .., _ | .decimal .., _ | .text .., _ | .atom .., _ | .boolean .., _ | .nil _, _
  | .typeName .., _ => ⟨nofun, nofun⟩
  | .ident identifier, locals => by
      grind [references, calls, spelledNames]
  | .binary left _ right _, locals | .alternative left right _, locals => by
      have left := spells left locals
      have right := spells right locals
      grind [references, calls, spelledNames]
  | .unary _ inner _, locals | .field inner _ _, locals | .result _ inner _, locals => by
      exact spells inner locals
  | .pipe left _ _, locals => by
      have left := spells left locals
      grind [references, calls, spelledNames, namedCall]
  | .lambda params body _, locals => by
      have body := spells body (params ++ locals)
      grind [references, calls, spelledNames]
  | .call _ arguments _, locals | .delegate _ arguments _, locals => by
      have arguments := spellsAll arguments locals
      grind [references, calls, spelledNames, namedCall]
  | .pipeCall left _ arguments _ _, locals => by
      have left := spells left locals
      have arguments := spellsAll arguments locals
      grind [references, calls, spelledNames, namedCall]
  | .tuple elements _, locals | .list elements none _, locals => by
      exact spellsAll elements locals
  | .list elements (some tail) _, locals => by
      have elements := spellsAll elements locals
      have tail := spells tail locals
      grind [references, calls, spelledNames]
  | .map entries _, locals | .record _ entries _, locals => by
      exact spellsEntries entries locals
  | .conditional condition thenBranch elseBranch _, locals => by
      have condition := spells condition locals
      have thenBranch := spells thenBranch locals
      have elseBranch := spells elseBranch locals
      grind [references, calls, spelledNames]

theorem spellsAll : ∀ (exprs : List Expr) (locals : List String),
    (∀ identifier ∈ referencesOfAll locals exprs, identifier.name ∈ spelledByAll exprs) ∧
      ∀ call ∈ callsOfAll locals exprs, call.signature.name ∈ spelledByAll exprs
  | [], _ => ⟨nofun, nofun⟩
  | expr :: rest, locals => by
      have expr := spells expr locals
      have rest := spellsAll rest locals
      grind [referencesOfAll, callsOfAll, spelledByAll]

theorem spellsEntries : ∀ (entries : List (String × Expr)) (locals : List String),
    (∀ identifier ∈ referencesOfEntries locals entries,
        identifier.name ∈ spelledByEntries entries) ∧
      ∀ call ∈ callsOfEntries locals entries, call.signature.name ∈ spelledByEntries entries
  | [], _ => ⟨nofun, nofun⟩
  | (_, expr) :: rest, locals => by
      have expr := spells expr locals
      have rest := spellsEntries rest locals
      grind [referencesOfEntries, callsOfEntries, spelledByEntries]

end

/-- The link that takes the names of an expression to themselves. -/
def ownNames (expr : Expr) : Link where
  uses name name' := name = name' ∧ name ∈ expr.spelledNames
  callees name name' := name = name' ∧ ∃ call ∈ expr.calls [], call.signature.name = name

theorem ownNames_keeps (expr : Expr) :
    expr.ownNames.Keeps (expr.references []) (expr.calls []) where
  uses identifier member := ⟨rfl, (spells expr []).1 identifier member⟩
  callees call member := ⟨rfl, call, member, rfl⟩

end Expr

namespace Eval

variable {calls : Calls} {setting : Setting} {env env' : Environment} {guard : Expr}

/-- A guard cannot tell environments apart in which all the names that it spells stand for the
same. -/
theorem evaluate_blurs_of_lookup (blind : PlaceBlind False calls) (plain : guard.isPlain = true)
    (same : ∀ name ∈ guard.spelledNames, setting.lookup env name = setting.lookup env' name) :
    Blurs False (evaluate calls setting env guard) (evaluate calls setting env' guard) := by
  have relates : guard.ownNames.Relates False setting env env' := by
    constructor
    · rintro name _ ⟨rfl, spelled⟩
      exact .inl ⟨same name spelled, fun _ => rfl⟩
    · rintro _ _ ⟨rfl, call, member, rfl⟩
      exact ⟨same _ ((Expr.spells guard []).2 call member), fun _ => rfl⟩
  exact evaluate_blurs blind relates (Expr.alike_self plain guard.ownNames_keeps)

/-- If some of the names that a guard uses stand for nothing in a second environment, the guard
comes to the same there or else comes upon an unbound name. -/
theorem evaluate_blurs_of_deferral (blind : PlaceBlind True calls) (plain : guard.isPlain = true)
    (defers : ∀ name ∈ guard.spelledNames, setting.lookup env name = setting.lookup env' name ∨
      setting.lookup env' name = none ∧ setting.program.knows name = false ∧
        ∀ call ∈ guard.calls [], call.signature.name ≠ name) :
    Blurs True (evaluate calls setting env guard) (evaluate calls setting env' guard) := by
  have relates : guard.ownNames.Relates True setting env env' := by
    constructor
    · rintro name _ ⟨rfl, spelled⟩
      rcases defers name spelled with same | ⟨unbound, unknown, _⟩
      · exact .inl ⟨same, fun _ => rfl⟩
      · exact .inr ⟨trivial, unbound, unknown⟩
    · rintro _ _ ⟨rfl, call, member, rfl⟩
      rcases defers _ ((Expr.spells guard []).2 call member) with same | ⟨_, _, uncalled⟩
      · exact ⟨same, fun _ => rfl⟩
      · exact absurd rfl (uncalled call member)
  exact evaluate_blurs blind relates (Expr.alike_self plain guard.ownNames_keeps)

end Eval
end ClauseFlow

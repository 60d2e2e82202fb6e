import ClauseFlow.Program
import ClauseFlow.Scope

/-!
# The clauses of one function

Finalizing a scope mixes the clauses of all its declarations. Here they are taken apart again: the
clauses that a program holds for one function are those that hand errors through, then those that
unwrap, then the declarations, each kept if it is the first of its shape.
-/

namespace ClauseFlow

namespace Clause

/-! ## Clauses that are the first of their shape -/

theorem mem_of_mem_dedupe {seen : List Shape} {clauses : List Clause} {clause : Clause}
    (kept : clause ∈ (dedupe seen clauses).1) : clause ∈ clauses := by
  fun_induction dedupe seen clauses with
  | case1 => exact kept
  | case2 seen head rest met kept' dropped' split ih =>
      exact .tail _ (ih (by rw [split]; exact kept))
  | case3 seen head rest fresh kept' dropped' split ih =>
      rcases List.mem_cons.mp kept with rfl | later
      · exact .head _
      · exact .tail _ (ih (by rw [split]; exact later))

/-- Every shape is kept once, unless it was met before. -/
theorem exists_mem_dedupe {seen : List Shape} {clauses : List Clause} {clause : Clause}
    (member : clause ∈ clauses) :
    clause.shapeKey ∈ seen ∨ ∃ kept ∈ (dedupe seen clauses).1, kept.shapeKey = clause.shapeKey := by
  fun_induction dedupe seen clauses with
  | case1 => cases member
  | case2 seen head rest met kept' dropped' split ih =>
      rcases List.mem_cons.mp member with rfl | later
      · exact .inl (by simpa using met)
      · have found := ih later
        rwa [split] at found
  | case3 seen head rest fresh kept' dropped' split ih =>
      rcases List.mem_cons.mp member with rfl | later
      · exact .inr ⟨_, .head _, rfl⟩
      · rcases ih later with known | ⟨kept, keptMember, same⟩
        · rcases List.mem_cons.mp known with equal | known
          · exact .inr ⟨head, .head _, equal.symm⟩
          · exact .inl known
        · rw [split] at keptMember
          exact .inr ⟨kept, .tail _ keptMember, same⟩

theorem mem_of_mem_firstOfShape {clauses : List Clause} {clause : Clause}
    (kept : clause ∈ firstOfShape clauses) : clause ∈ clauses :=
  mem_of_mem_dedupe kept

/-- Every clause is kept or has the shape of one that is. -/
theorem exists_mem_firstOfShape {clauses : List Clause} {clause : Clause}
    (member : clause ∈ clauses) :
    ∃ kept ∈ firstOfShape clauses, kept.shapeKey = clause.shapeKey := by
  rcases @exists_mem_dedupe [] _ _ member with known | found
  · cases known
  · exact found

theorem signature_eq_of_shapeKey_eq {clause clause' : Clause}
    (same : clause.shapeKey = clause'.shapeKey) : clause.signature = clause'.signature :=
  congrArg Shape.signature same

/-! ## The functions of clauses -/

theorem mem_signaturesAfter {seen : List Signature} {clauses : List Clause}
    {signature : Signature} :
    signature ∈ signaturesAfter seen clauses ↔
      signature ∉ seen ∧ ∃ clause ∈ clauses, clause.signature = signature := by
  fun_induction signaturesAfter seen clauses with
  | case1 => simp
  | case2 seen clause rest met ih =>
      have metMember : clause.signature ∈ seen := by simpa using met
      rw [ih]
      constructor
      · rintro ⟨fresh, found, member, same⟩
        exact ⟨fresh, found, .tail _ member, same⟩
      · rintro ⟨fresh, found, member, same⟩
        refine ⟨fresh, ?_⟩
        rcases List.mem_cons.mp member with rfl | later
        · exact absurd (same ▸ metMember) fresh
        · exact ⟨found, later, same⟩
  | case3 seen clause rest unmet ih =>
      have fresh : clause.signature ∉ seen := by simpa using unmet
      rw [List.mem_cons, ih]
      constructor
      · rintro (rfl | ⟨unseen, found, member, same⟩)
        · exact ⟨fresh, clause, .head _, rfl⟩
        · exact ⟨fun known => unseen (.tail _ known), found, .tail _ member, same⟩
      · rintro ⟨unseen, found, member, same⟩
        by_cases first : signature = clause.signature
        · exact .inl first
        · refine .inr ⟨?_, ?_⟩
          · intro known
            rcases List.mem_cons.mp known with equal | known
            · exact first equal
            · exact unseen known
          · rcases List.mem_cons.mp member with rfl | later
            · exact absurd same.symm first
            · exact ⟨found, later, same⟩

theorem nodup_signaturesAfter (seen : List Signature) (clauses : List Clause) :
    (signaturesAfter seen clauses).Nodup := by
  fun_induction signaturesAfter seen clauses with
  | case1 => exact .nil
  | case2 seen clause rest met ih => exact ih
  | case3 seen clause rest unmet ih =>
      refine List.nodup_cons.mpr ⟨?_, ih⟩
      intro known
      exact (mem_signaturesAfter.mp known).1 (.head _)

/-! ## Taking a finalized scope apart -/

@[simp] theorem mem_ofSignature {signature : Signature} {clauses : List Clause}
    {clause : Clause} :
    clause ∈ ofSignature signature clauses ↔
      clause ∈ clauses ∧ clause.signature = signature := by
  simp [ofSignature]

theorem ofSignature_cons_of_eq {signature : Signature} {clause : Clause}
    (own : clause.signature = signature) (rest : List Clause) :
    ofSignature signature (clause :: rest) = clause :: ofSignature signature rest :=
  List.filter_cons_of_pos (decide_eq_true own)

theorem ofSignature_cons_of_ne {signature : Signature} {clause : Clause}
    (other : clause.signature ≠ signature) (rest : List Clause) :
    ofSignature signature (clause :: rest) = ofSignature signature rest :=
  List.filter_cons_of_neg (by simpa using other)

/-- Among groups of clauses, one group for each of several functions, the clauses of one function
are its group. -/
theorem ofSignature_flatMap {signatures : List Signature} {group : Signature → List Clause}
    (pure : ∀ signature, ∀ clause ∈ group signature, clause.signature = signature)
    (nodup : signatures.Nodup) (signature : Signature) :
    ofSignature signature (signatures.flatMap group) =
      if signature ∈ signatures then group signature else [] := by
  induction signatures with
  | nil => rfl
  | cons head rest ih =>
      rcases List.nodup_cons.mp nodup with ⟨absent, restNodup⟩
      have split : ofSignature signature ((head :: rest).flatMap group) =
          ofSignature signature (group head) ++ ofSignature signature (rest.flatMap group) := by
        simp [ofSignature]
      rw [split, ih restNodup]
      by_cases here : signature = head
      · subst here
        have whole : ofSignature signature (group signature) = group signature :=
          List.filter_eq_self.mpr fun clause member => by simpa using pure _ clause member
        simp [whole, absent]
      · have none : ofSignature signature (group head) = [] :=
          List.filter_eq_nil_iff.mpr fun clause member => by
            simpa [pure _ clause member] using Ne.symm here
        simp [none, here]

/-- What finalizing gives to one function. -/
theorem ofSignature_finalize (default okUnwrap errorPassthrough : List Clause)
    (signature : Signature) :
    ofSignature signature (finalize default okUnwrap errorPassthrough) =
      if signature ∈ signatures (firstOfShape default) then
        ofSignature signature (firstOfShape errorPassthrough) ++
          ofSignature signature (firstOfShape okUnwrap) ++
          ofSignature signature (firstOfShape default)
      else [] := by
  rw [finalize]
  apply ofSignature_flatMap
  · intro signature clause member
    simp only [List.mem_append, mem_ofSignature] at member
    rcases member with (⟨_, same⟩ | ⟨_, same⟩) | ⟨_, same⟩ <;> exact same
  · exact nodup_signaturesAfter [] _

end Clause

/-! ## The clauses of declarations -/

@[simp] theorem Head.withParams_params (head : Head) (params : List Pattern) :
    (head.withParams params).params = params := by
  cases head <;> rfl

@[simp] theorem Head.withParams_guard? (head : Head) (params : List Pattern) :
    (head.withParams params).guard? = head.guard? := by
  cases head <;> rfl

namespace Declaration

/-- The clause of a kind that a declaration stands for, if it stands for one. -/
def clauseOf (declaration : Declaration) : ClauseKind → Nat → Clause
  | .default => declaration.defaultClause
  | .errorPassthrough => declaration.errorClause
  | .okUnwrap => declaration.okClause

/-- Whether a declaration answers for results: it is written `pipe` and has a first parameter. -/
def Answers (declaration : Declaration) : Prop :=
  declaration.synthesized = true ∧ declaration.params ≠ []

theorem answers_of_arity_pos {declaration : Declaration} (written : declaration.synthesized = true)
    (positive : 0 < declaration.signature.arity) : declaration.Answers := by
  constructor
  · exact written
  · exact List.ne_nil_of_length_pos positive

/-- Whether a declaration stands for a clause of a kind. -/
def Gives (declaration : Declaration) : ClauseKind → Prop
  | .default => True
  | .errorPassthrough | .okUnwrap => declaration.Answers

@[simp] theorem clauseOf_kind (declaration : Declaration) (kind : ClauseKind) (order : Nat) :
    (declaration.clauseOf kind order).kind = kind := by
  cases kind <;> rfl

@[simp] theorem clauseOf_signature (declaration : Declaration) (kind : ClauseKind)
    (order : Nat) : (declaration.clauseOf kind order).signature = declaration.signature := by
  cases kind <;> rfl

@[simp] theorem defaultClause_params (declaration : Declaration) (order : Nat) :
    (declaration.defaultClause order).params = declaration.params :=
  Head.withParams_params _ _

@[simp] theorem defaultClause_guard? (declaration : Declaration) (order : Nat) :
    (declaration.defaultClause order).guard? = declaration.guard? :=
  Head.withParams_guard? _ _

@[simp] theorem okClause_guard? (declaration : Declaration) (order : Nat) :
    (declaration.okClause order).guard? = declaration.guard? :=
  Head.withParams_guard? _ _

/-- The name that an unwrapping clause gives to what it unwraps. -/
def unwrappedName (declaration : Declaration) : String :=
  (NameSupply.fresh ⟨declaration.takenNames⟩ unwrappedBase).1

/-- The other parameters of an unwrapping clause, with the names it gives to their arguments. -/
def namedOthers (declaration : Declaration) : List (Pattern × String) :=
  ((namedParams unwrappedBase declaration.params.tail).run
    (NameSupply.fresh ⟨declaration.takenNames⟩ unwrappedBase).2).1

@[simp] theorem okClause_params (declaration : Declaration) (order : Nat) :
    (declaration.okClause order).params =
      .result .ok (.binding declaration.unwrappedName .generated) .generated ::
        declaration.namedOthers.map (·.1) :=
  Head.withParams_params _ _

theorem clauses_of_answers {declaration : Declaration} (answers : declaration.Answers)
    (order : Nat) :
    declaration.clauses order =
      [declaration.defaultClause order, declaration.errorClause order,
        declaration.okClause order] := by
  have written := answers.1
  have hasFirst := answers.2
  simp [clauses, written, hasFirst]

theorem clauses_of_not_answers {declaration : Declaration} (silent : ¬declaration.Answers)
    (order : Nat) : declaration.clauses order = [declaration.defaultClause order] := by
  have condition : (declaration.synthesized && !declaration.params.isEmpty) = false := by
    apply Bool.eq_false_iff.mpr
    intro accepted
    rw [Bool.and_eq_true, Bool.not_eq_true'] at accepted
    exact silent ⟨accepted.1, List.isEmpty_eq_false_iff.mp accepted.2⟩
  simp [clauses, condition]

/-- A declaration stands for one clause of each kind that it gives. -/
theorem mem_clauses {declaration : Declaration} {order : Nat} {clause : Clause} :
    clause ∈ declaration.clauses order ↔
      declaration.Gives clause.kind ∧ clause = declaration.clauseOf clause.kind order := by
  constructor
  · intro member
    by_cases answers : declaration.Answers
    · rw [clauses_of_answers answers] at member
      simp only [List.mem_cons, List.not_mem_nil, or_false] at member
      rcases member with rfl | rfl | rfl
      · exact ⟨trivial, rfl⟩
      · exact ⟨answers, rfl⟩
      · exact ⟨answers, rfl⟩
    · rw [clauses_of_not_answers answers, List.mem_singleton] at member
      subst member
      exact ⟨trivial, rfl⟩
  · rintro ⟨gives, same⟩
    rw [same]
    by_cases answers : declaration.Answers
    · rw [clauses_of_answers answers]
      cases clause.kind <;> simp [clauseOf]
    · rw [clauses_of_not_answers answers]
      cases kind : clause.kind with
      | default => exact .head _
      | errorPassthrough | okUnwrap =>
          rw [kind] at gives
          exact absurd gives answers

theorem exists_of_mem_clausesFrom {order : Nat} {declarations : List Declaration}
    {clause : Clause} (member : clause ∈ clausesFrom order declarations) :
    ∃ declaration ∈ declarations, ∃ index, clause ∈ declaration.clauses index := by
  induction declarations generalizing order with
  | nil => cases member
  | cons declaration rest ih =>
      rcases List.mem_append.mp member with here | later
      · exact ⟨declaration, .head _, order, here⟩
      · rcases ih later with ⟨found, foundMember, index, inside⟩
        exact ⟨found, .tail _ foundMember, index, inside⟩

theorem exists_clauses_subset {declarations : List Declaration} {declaration : Declaration}
    (declared : declaration ∈ declarations) (order : Nat) :
    ∃ index, ∀ clause ∈ declaration.clauses index, clause ∈ clausesFrom order declarations := by
  induction declarations generalizing order with
  | nil => cases declared
  | cons head rest ih =>
      rcases List.mem_cons.mp declared with rfl | later
      · exact ⟨order, fun clause inside => List.mem_append_left _ inside⟩
      · rcases ih later (order + 1) with ⟨index, subset⟩
        exact ⟨index, fun clause inside => List.mem_append_right _ (subset clause inside)⟩

/-- The default clauses of declarations are those of each one, in order. -/
theorem ofKind_default_clausesFrom (order : Nat) (declaration : Declaration)
    (rest : List Declaration) :
    Clause.ofKind .default (clausesFrom order (declaration :: rest)) =
      declaration.defaultClause order :: Clause.ofKind .default (clausesFrom (order + 1) rest) := by
  by_cases answers : declaration.Answers
  · rw [clausesFrom, clauses_of_answers answers]
    rfl
  · rw [clausesFrom, clauses_of_not_answers answers]
    rfl

end Declaration

namespace Clause

@[simp] theorem mem_ofKind {kind : ClauseKind} {clauses : List Clause} {clause : Clause} :
    clause ∈ ofKind kind clauses ↔ clause ∈ clauses ∧ clause.kind = kind := by
  simp [ofKind]

/-- The clauses of one kind that finalizing declarations keeps. -/
def kept (declarations : List Declaration) (kind : ClauseKind) : List Clause :=
  firstOfShape (ofKind kind (Declaration.clausesFrom 0 declarations))

theorem exists_of_mem_ofKind {declarations : List Declaration} {kind : ClauseKind} {order : Nat}
    {clause : Clause} (member : clause ∈ ofKind kind (Declaration.clausesFrom order declarations)) :
    ∃ declaration ∈ declarations, declaration.Gives kind ∧
      ∃ index, clause = declaration.clauseOf kind index := by
  rcases mem_ofKind.mp member with ⟨collected, rfl⟩
  rcases Declaration.exists_of_mem_clausesFrom collected with ⟨declaration, declared, order, inside⟩
  rcases Declaration.mem_clauses.mp inside with ⟨gives, same⟩
  exact ⟨declaration, declared, gives, order, same⟩

/-- What is kept comes from a declaration. -/
theorem exists_of_mem_kept {declarations : List Declaration} {kind : ClauseKind}
    {clause : Clause} (member : clause ∈ kept declarations kind) :
    ∃ declaration ∈ declarations, declaration.Gives kind ∧
      ∃ order, clause = declaration.clauseOf kind order :=
  exists_of_mem_ofKind (mem_of_mem_firstOfShape member)

/-- Every clause of a program comes from a declaration. -/
theorem exists_of_mem_ofDeclarations {declarations : List Declaration} {clause : Clause}
    (member : clause ∈ ofDeclarations declarations) :
    ∃ kind, ∃ declaration ∈ declarations, declaration.Gives kind ∧
      ∃ order, clause = declaration.clauseOf kind order := by
  rcases List.mem_flatMap.mp member with ⟨signature, _, inside⟩
  rcases List.mem_append.mp inside with synthesized | default
  · rcases List.mem_append.mp synthesized with passing | unwrapping
    · exact ⟨.errorPassthrough, exists_of_mem_kept (mem_ofSignature.mp passing).1⟩
    · exact ⟨.okUnwrap, exists_of_mem_kept (mem_ofSignature.mp unwrapping).1⟩
  · exact ⟨.default, exists_of_mem_kept (mem_ofSignature.mp default).1⟩

/-- Every clause of a declaration is kept, if not itself then in one of the same shape. -/
theorem exists_mem_kept {declarations : List Declaration} {declaration : Declaration}
    (declared : declaration ∈ declarations) (kind : ClauseKind)
    (gives : declaration.Gives kind) :
    ∃ order, ∃ clause ∈ kept declarations kind,
      clause.shapeKey = (declaration.clauseOf kind order).shapeKey := by
  rcases Declaration.exists_clauses_subset declared 0 with ⟨order, subset⟩
  refine ⟨order, exists_mem_firstOfShape (mem_ofKind.mpr ⟨subset _ ?_, ?_⟩)⟩
  · rw [Declaration.mem_clauses, Declaration.clauseOf_kind]
    exact ⟨gives, rfl⟩
  · exact Declaration.clauseOf_kind _ _ _

/-- A declared function has a default clause. -/
theorem exists_default_of_declared {declarations : List Declaration} {signature : Signature}
    (declared : ∃ declaration ∈ declarations, declaration.signature = signature) :
    ∃ clause ∈ kept declarations .default, clause.signature = signature := by
  rcases declared with ⟨declaration, member, rfl⟩
  rcases exists_mem_kept member .default trivial with ⟨order, clause, clauseKept, same⟩
  refine ⟨clause, clauseKept, ?_⟩
  rw [signature_eq_of_shapeKey_eq same, Declaration.clauseOf_signature]

end Clause

namespace Program

/-- The program of a sequence of declarations. -/
abbrev ofDeclarations (declarations : List Declaration) : Program :=
  ⟨Clause.ofDeclarations declarations⟩

variable {declarations : List Declaration} {signature : Signature}

/-- The clauses of a declared function, kind by kind. -/
theorem clausesOf_ofDeclarations
    (declared : ∃ declaration ∈ declarations, declaration.signature = signature) :
    (ofDeclarations declarations).clausesOf signature =
      Clause.ofSignature signature (Clause.kept declarations .errorPassthrough) ++
        Clause.ofSignature signature (Clause.kept declarations .okUnwrap) ++
        Clause.ofSignature signature (Clause.kept declarations .default) := by
  have known : signature ∈ Clause.signatures (Clause.kept declarations .default) :=
    Clause.mem_signaturesAfter.mpr
      ⟨List.not_mem_nil, Clause.exists_default_of_declared declared⟩
  exact (Clause.ofSignature_finalize _ _ _ _).trans (if_pos known)

/-- A function is declared if one of the declarations is its own. -/
theorem declares_ofDeclarations
    (declared : ∃ declaration ∈ declarations, declaration.signature = signature) :
    (ofDeclarations declarations).declares signature = true := by
  rcases Clause.exists_default_of_declared declared with ⟨clause, clauseKept, same⟩
  have found : clause ∈ (ofDeclarations declarations).clausesOf signature := by
    rw [clausesOf_ofDeclarations declared]
    exact List.mem_append_right _ (Clause.mem_ofSignature.mpr ⟨clauseKept, same⟩)
  have installed := (Clause.mem_ofSignature.mp found).1
  exact List.any_eq_true.mpr ⟨clause, installed, decide_eq_true same⟩

end Program
end ClauseFlow

import ClauseFlow.Proofs.Clause.Ordering

/-!
# Clauses of interleaved declarations

The clauses that a function gets when a scope is finalized depend on its own declarations alone: up
to their indices they are the same however the declarations of other functions come between.
-/

namespace ClauseFlow

namespace Clause

/-- A clause without the index of its declaration. -/
def unnumbered (clause : Clause) : Clause :=
  { clause with order := 0 }

@[simp] theorem unnumbered_shapeKey (clause : Clause) :
    clause.unnumbered.shapeKey = clause.shapeKey := rfl

theorem ofKind_map_unnumbered (kind : ClauseKind) (clauses : List Clause) :
    ofKind kind (clauses.map unnumbered) = (ofKind kind clauses).map unnumbered :=
  List.filter_map

theorem ofSignature_ofKind (signature : Signature) (kind : ClauseKind) (clauses : List Clause) :
    ofSignature signature (ofKind kind clauses) = ofKind kind (ofSignature signature clauses) := by
  simp only [ofSignature, ofKind, List.filter_filter, Bool.and_comm]

/-! ## Dropping clauses function by function -/

/-- What is kept goes by whether the shape of the first clause was met before. -/
theorem dedupe_cons (seen : List Shape) (clause : Clause) (rest : List Clause) :
    (dedupe seen (clause :: rest)).1 =
      if clause.shapeKey ∈ seen then (dedupe seen rest).1
      else clause :: (dedupe (clause.shapeKey :: seen) rest).1 := by
  simp only [dedupe, List.contains_iff_mem]
  split <;> rfl

theorem dedupe_map_unnumbered (seen : List Shape) (clauses : List Clause) :
    (dedupe seen (clauses.map unnumbered)).1 = (dedupe seen clauses).1.map unnumbered := by
  induction clauses generalizing seen with
  | nil => rfl
  | cons clause rest ih =>
      rw [List.map_cons, dedupe_cons, dedupe_cons, unnumbered_shapeKey, ih, ih]
      split <;> rfl

/-- Only shapes that come up later matter among those met before. -/
theorem dedupe_congr {seen seen' : List Shape} {clauses : List Clause}
    (agree : ∀ clause ∈ clauses, clause.shapeKey ∈ seen ↔ clause.shapeKey ∈ seen') :
    (dedupe seen clauses).1 = (dedupe seen' clauses).1 := by
  induction clauses generalizing seen seen' with
  | nil => rfl
  | cons clause rest ih =>
      rcases List.forall_mem_cons.mp agree with ⟨here, later⟩
      have withFirst : ∀ other ∈ rest, other.shapeKey ∈ clause.shapeKey :: seen ↔
          other.shapeKey ∈ clause.shapeKey :: seen' := by
        intro other member
        rw [List.mem_cons, List.mem_cons, later other member]
      rw [dedupe_cons, dedupe_cons, ih later, ih withFirst]
      simp only [here]

/-- Since a shape tells its function, clauses of other functions do not matter for what is kept of
one function. -/
theorem ofSignature_dedupe (signature : Signature) (seen : List Shape) (clauses : List Clause) :
    ofSignature signature (dedupe seen clauses).1 =
      (dedupe seen (ofSignature signature clauses)).1 := by
  induction clauses generalizing seen with
  | nil => rfl
  | cons clause rest ih =>
      rw [dedupe_cons]
      by_cases own : clause.signature = signature
      · rw [ofSignature_cons_of_eq own, dedupe_cons, ← ih, ← ih]
        split
        · rfl
        · exact ofSignature_cons_of_eq own _
      · have apart : ∀ other ∈ ofSignature signature rest,
            other.shapeKey ∈ clause.shapeKey :: seen ↔ other.shapeKey ∈ seen := by
          intro other member
          have differs : other.shapeKey ≠ clause.shapeKey := fun same =>
            own ((signature_eq_of_shapeKey_eq same).symm.trans (mem_ofSignature.mp member).2)
          rw [List.mem_cons, or_iff_right differs]
        rw [ofSignature_cons_of_ne own]
        split
        · exact ih seen
        · rw [ofSignature_cons_of_ne own, ih, dedupe_congr apart]

theorem ofSignature_firstOfShape (signature : Signature) (clauses : List Clause) :
    ofSignature signature (firstOfShape clauses) = firstOfShape (ofSignature signature clauses) :=
  ofSignature_dedupe signature [] clauses

theorem firstOfShape_map_unnumbered (clauses : List Clause) :
    firstOfShape (clauses.map unnumbered) = (firstOfShape clauses).map unnumbered :=
  dedupe_map_unnumbered [] clauses

end Clause

/-! ## The clauses of a declaration -/

namespace Declaration

open Clause (unnumbered ofSignature)

/-- The clauses of a declaration, all with index zero. -/
def unnumberedClauses (declaration : Declaration) : List Clause :=
  declaration.clauses 0

theorem map_unnumbered_clauses (declaration : Declaration) (order : Nat) :
    (declaration.clauses order).map unnumbered = declaration.unnumberedClauses := by
  rw [unnumberedClauses, clauses, clauses]
  split <;> rfl

theorem ofSignature_clauses (signature : Signature) (declaration : Declaration) (order : Nat) :
    ofSignature signature (declaration.clauses order) =
      if declaration.signature = signature then declaration.clauses order else [] := by
  have own : ∀ clause ∈ declaration.clauses order,
      clause.signature = declaration.signature := by
    intro clause member
    rw [(mem_clauses.mp member).2, clauseOf_signature]
  by_cases same : declaration.signature = signature
  · rw [if_pos same]
    exact List.filter_eq_self.mpr fun clause member =>
      decide_eq_true ((own clause member).trans same)
  · rw [if_neg same]
    refine List.filter_eq_nil_iff.mpr fun clause member => ?_
    rw [own clause member, decide_eq_true_eq]
    exact same

/-- The clauses of one function come from the declarations of that function. -/
theorem map_unnumbered_ofSignature_clausesFrom (signature : Signature) (order : Nat)
    (declarations : List Declaration) :
    (ofSignature signature (clausesFrom order declarations)).map unnumbered =
      (declarations.filter fun declaration => declaration.signature = signature).flatMap
        unnumberedClauses := by
  induction declarations generalizing order with
  | nil => rfl
  | cons declaration rest ih =>
      have split : ofSignature signature (clausesFrom order (declaration :: rest)) =
          ofSignature signature (declaration.clauses order) ++
            ofSignature signature (clausesFrom (order + 1) rest) :=
        List.filter_append _ _
      rw [split, List.map_append, ofSignature_clauses, ih (order + 1)]
      by_cases own : declaration.signature = signature
      · rw [if_pos own, map_unnumbered_clauses, List.filter_cons, if_pos (decide_eq_true own),
          List.flatMap_cons]
      · rw [if_neg own, List.filter_cons, if_neg (by simpa using own)]
        rfl

end Declaration

/-! ## The clauses of a finalized scope -/

namespace Clause

/-- What is kept for one function depends on its own declarations. -/
theorem map_unnumbered_kept (signature : Signature) (declarations : List Declaration)
    (kind : ClauseKind) :
    (ofSignature signature (kept declarations kind)).map unnumbered =
      firstOfShape (ofKind kind
        ((declarations.filter fun declaration => declaration.signature = signature).flatMap
          Declaration.unnumberedClauses)) := by
  rw [kept, ofSignature_firstOfShape, ofSignature_ofKind, ← firstOfShape_map_unnumbered,
    ← ofKind_map_unnumbered, Declaration.map_unnumbered_ofSignature_clausesFrom]

/-- The clauses of one function, kind by kind; there are none if it is not declared. -/
theorem ofSignature_ofDeclarations (signature : Signature) (declarations : List Declaration) :
    ofSignature signature (ofDeclarations declarations) =
      ofSignature signature (kept declarations .errorPassthrough) ++
        ofSignature signature (kept declarations .okUnwrap) ++
        ofSignature signature (kept declarations .default) := by
  by_cases declared : ∃ declaration ∈ declarations, declaration.signature = signature
  · exact Program.clausesOf_ofDeclarations declared
  · have none : ∀ kind, ofSignature signature (kept declarations kind) = [] := by
      intro kind
      refine List.filter_eq_nil_iff.mpr fun clause member => ?_
      rcases exists_of_mem_kept member with ⟨declaration, found, _, order, rfl⟩
      rw [Declaration.clauseOf_signature, decide_eq_true_eq]
      exact fun same => declared ⟨declaration, found, same⟩
    rw [none, none, none]
    refine List.filter_eq_nil_iff.mpr fun clause member => ?_
    rcases exists_of_mem_ofDeclarations member with ⟨kind, declaration, found, _, order, rfl⟩
    rw [Declaration.clauseOf_signature, decide_eq_true_eq]
    exact fun same => declared ⟨declaration, found, same⟩

/-- Two sequences with the same declarations of a function give it the same clauses, up to their
indices. -/
theorem map_unnumbered_ofDeclarations_congr {declarations declarations' : List Declaration}
    {signature : Signature}
    (same : (declarations.filter fun declaration => declaration.signature = signature) =
      declarations'.filter fun declaration => declaration.signature = signature) :
    (ofSignature signature (ofDeclarations declarations)).map unnumbered =
      (ofSignature signature (ofDeclarations declarations')).map unnumbered := by
  simp only [ofSignature_ofDeclarations, List.map_append, map_unnumbered_kept, same]

end Clause
end ClauseFlow

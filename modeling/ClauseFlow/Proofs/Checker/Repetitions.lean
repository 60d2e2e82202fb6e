import Mathlib.Data.List.Nodup
import ClauseFlow.Proofs.Checker.Scopes
import ClauseFlow.Proofs.Clause.DispatchOrder

/-!
# Repeated declarations

The checker reports declarations that repeat an earlier one, and finalizing a scope drops them. The
one looks at all declarations in a row, the other at the clauses of each kind and then puts them in
order function by function. Main statement: what is reported is what is dropped, an earlier
declaration answers in its place, and everything else is there once.
-/

namespace ClauseFlow

namespace Clause

/-! ## Clauses that are dropped -/

/-- The clauses that are not kept are dropped. -/
theorem dropped_of_nodup {seen : List Shape} {clauses : List Clause} (nodup : clauses.Nodup) :
    (dedupe seen clauses).2 = clauses.filter (· ∉ (dedupe seen clauses).1) := by
  fun_induction dedupe seen clauses with
  | case1 => rfl
  | case2 seen head rest met kept dropped split ih =>
      rcases List.nodup_cons.mp nodup with ⟨apart, restNodup⟩
      have absent : head ∉ kept := by
        intro member
        have inside : head ∈ (dedupe seen rest).1 := by rwa [split]
        exact apart (mem_of_mem_dedupe inside)
      have others := ih restNodup
      rw [split] at others
      rw [List.filter_cons_of_pos (by simpa using absent)]
      exact congrArg _ others
  | case3 seen head rest unmet kept dropped split ih =>
      rcases List.nodup_cons.mp nodup with ⟨apart, restNodup⟩
      have others := ih restNodup
      rw [split] at others
      rw [List.filter_cons_of_neg (by simp)]
      refine others.trans (List.filter_congr fun clause member => ?_)
      have differs : clause ≠ head := by
        rintro rfl
        exact apart member
      simp [differs]

theorem repeatedShape_of_nodup {clauses : List Clause} (nodup : clauses.Nodup) :
    repeatedShape clauses = clauses.filter (· ∉ firstOfShape clauses) :=
  dropped_of_nodup nodup

/-- Before a clause that is dropped stands one of its shape that is kept. -/
theorem exists_earlier_of_not_mem {clauses : List Clause} {index : Nat} {clause : Clause}
    (found : clauses[index]? = some clause) (dropped : clause ∉ firstOfShape clauses) :
    ∃ earlier kept, earlier < index ∧ clauses[earlier]? = some kept ∧
      kept ∈ firstOfShape clauses ∧ kept.shapeKey = clause.shapeKey := by
  rcases exists_mem_firstOfShape (List.mem_of_getElem? found) with ⟨kept, isKept, same⟩
  have isFirst := mem_firstOfShape.mp isKept
  rw [IsFirstOfShape, List.find?_eq_some_iff_getElem] at isFirst
  rcases isFirst with ⟨_, earlier, inside, isThere, noneBefore⟩
  rcases List.getElem?_eq_some_iff.mp found with ⟨insideToo, isHere⟩
  refine ⟨earlier, kept, ?_, List.getElem?_eq_some_iff.mpr ⟨inside, isThere⟩, isKept, same⟩
  rcases Nat.lt_trichotomy earlier index with before | rfl | behind
  · exact before
  · rw [isThere] at isHere
    exact absurd (isHere ▸ isKept) dropped
  · have differs := noneBefore index behind
    rw [isHere] at differs
    simp [same] at differs

/-- The default clauses that come from the declaration with some index. -/
def defaultsAt (index : Nat) (clauses : List Clause) : List Clause :=
  clauses.filter fun clause => clause.kind = .default ∧ clause.order = index

end Clause

namespace Checker

open Clause (firstOfShape defaultsAt)

variable {declarations : List Declaration} {declaration : Declaration} {index : Nat}

/-! ## The clauses that are compared -/

theorem defaultClauses_eq_map (order : Nat) (declarations : List Declaration) :
    defaultClauses order declarations =
      (declarations.zipIdx order).map fun entry => entry.1.defaultClause entry.2 := by
  induction declarations generalizing order with
  | nil => rfl
  | cons declaration rest ih => rw [defaultClauses, ih, List.zipIdx_cons, List.map_cons]

/-- The checker looks at the clauses that a scope collects. -/
theorem defaultClauses_eq_ofKind (order : Nat) (declarations : List Declaration) :
    defaultClauses order declarations =
      Clause.ofKind .default (Declaration.clausesFrom order declarations) := by
  induction declarations generalizing order with
  | nil => rfl
  | cons declaration rest ih =>
      rw [Declaration.ofKind_default_clausesFrom, defaultClauses, ih]

theorem getElem?_defaultClauses (declarations : List Declaration) (index : Nat) :
    (defaultClauses 0 declarations)[index]? =
      declarations[index]?.map fun declaration => declaration.defaultClause index := by
  rw [defaultClauses_eq_map, List.getElem?_map, List.getElem?_zipIdx, Nat.zero_add]
  cases declarations[index]? <;> rfl

/-- Clauses are told apart by the indices of their declarations. -/
theorem nodup_defaultClauses (declarations : List Declaration) :
    (defaultClauses 0 declarations).Nodup := by
  apply List.Nodup.of_map Clause.order
  have orders : (defaultClauses 0 declarations).map Clause.order =
      (declarations.zipIdx 0).map Prod.snd := by
    rw [defaultClauses_eq_map, List.map_map]
    rfl
  rw [orders, List.zipIdx_map_snd]
  exact List.nodup_range'

/-- The clause of a declaration is the only one with its index. -/
theorem eq_of_mem_defaultClauses {clause : Clause}
    (member : clause ∈ defaultClauses 0 declarations) (same : clause.order = index)
    (found : declarations[index]? = some declaration) :
    clause = declaration.defaultClause index := by
  rcases List.mem_iff_getElem?.mp member with ⟨place, isThere⟩
  rw [getElem?_defaultClauses] at isThere
  rcases Option.map_eq_some_iff.mp isThere with ⟨other, foundOther, rfl⟩
  obtain rfl : place = index := same
  rw [found] at foundOther
  rw [Option.some.inj foundOther]

/-! ## The clauses that are installed -/

/-- A scope finalizes the clauses of its declarations. -/
theorem isDispatchOrder_ofDeclarations (declarations : List Declaration) :
    Clause.IsDispatchOrder
      (fun kind => Clause.ofKind kind (Declaration.clausesFrom 0 declarations))
      (Clause.ofDeclarations declarations) :=
  Clause.isDispatchOrder_finalize fun _ _ member => (Clause.mem_ofKind.mp member).2

/-- The default clauses of a finalized scope are those that the checker finds first of their
shape. -/
theorem mem_ofDeclarations_default {clause : Clause} (kind : clause.kind = .default) :
    clause ∈ Clause.ofDeclarations declarations ↔
      clause ∈ firstOfShape (defaultClauses 0 declarations) := by
  have kept := (isDispatchOrder_ofDeclarations declarations).complete clause
  rw [kind, ← Clause.mem_firstOfShape] at kept
  rw [defaultClauses_eq_ofKind]
  refine kept.trans (and_iff_right_of_imp fun isKept => ?_)
  exact ⟨clause, Clause.mem_of_mem_firstOfShape isKept, rfl⟩

theorem nodup_ofDeclarations (declarations : List Declaration) :
    (Clause.ofDeclarations declarations).Nodup :=
  List.Nodup.of_map Clause.shapeKey (isDispatchOrder_ofDeclarations declarations).distinct

/-- A declaration has its default clause in a finalized scope, once, or has none. -/
theorem defaultsAt_ofDeclarations (found : declarations[index]? = some declaration) :
    defaultsAt index (Clause.ofDeclarations declarations) =
      if declaration.defaultClause index ∈ firstOfShape (defaultClauses 0 declarations) then
        [declaration.defaultClause index]
      else [] := by
  have only : ∀ clause, clause ∈ defaultsAt index (Clause.ofDeclarations declarations) ↔
      clause = declaration.defaultClause index ∧
        clause ∈ firstOfShape (defaultClauses 0 declarations) := by
    intro clause
    simp only [defaultsAt, List.mem_filter, decide_eq_true_eq]
    constructor
    · rintro ⟨member, kind, same⟩
      have isKept := (mem_ofDeclarations_default kind).mp member
      exact ⟨eq_of_mem_defaultClauses (Clause.mem_of_mem_firstOfShape isKept) same found, isKept⟩
    · rintro ⟨rfl, isKept⟩
      exact ⟨(mem_ofDeclarations_default rfl).mpr isKept, rfl, rfl⟩
  split
  · rename_i isKept
    have nodup : (defaultsAt index (Clause.ofDeclarations declarations)).Nodup :=
      (nodup_ofDeclarations declarations).filter _
    refine List.perm_singleton.mp ((List.perm_ext_iff_of_nodup nodup (List.nodup_singleton _)).mpr
      fun clause => ?_)
    rw [only, List.mem_singleton]
    exact and_iff_left_of_imp fun same => same ▸ isKept
  · rename_i dropped
    refine List.eq_nil_iff_forall_not_mem.mpr fun clause member => ?_
    rcases (only clause).mp member with ⟨rfl, isKept⟩
    exact dropped isKept

/-! ## What is reported -/

/-- The reports of repeated declarations are those about clauses that are dropped. -/
theorem filter_check_repeated (module : Module) :
    ((check module).filter fun finding => finding.code = "W320") =
      checkRepeated module.declarations := by
  rw [check_eq, List.filter_append]
  have noneInside : ((module.declarations.flatMap
      (declarationFindings (functionTable module.declarations))).filter
        fun finding => finding.code = "W320") = [] := by
    refine List.filter_eq_nil_iff.mpr fun finding member => ?_
    rcases List.mem_flatMap.mp member with ⟨declaration, _, inside⟩
    have others := code_of_mem_declarationFindings inside
    intro repeats
    rw [decide_eq_true_eq] at repeats
    rw [repeats] at others
    exact absurd others (by decide)
  have allRepeated : ((checkRepeated module.declarations).filter
      fun finding => finding.code = "W320") = checkRepeated module.declarations := by
    refine List.filter_eq_self.mpr fun finding member => ?_
    exact decide_eq_true (code_of_mem_checkRepeated member)
  rw [noneInside, allRepeated, List.nil_append]

/-- The report that a declaration repeats an earlier one. -/
def repetition (declaration : Declaration) : Finding :=
  .repeatedDeclaration declaration.signature declaration.head.span

theorem head_span_withParams (head : Head) (params : List Pattern) :
    (head.withParams params).span = head.span := by
  cases head <;> rfl

theorem checkRepeated_eq (declarations : List Declaration) :
    checkRepeated declarations =
      (declarations.zipIdx.filter fun entry =>
        entry.1.defaultClause entry.2 ∉ firstOfShape (defaultClauses 0 declarations)).map
          fun entry => repetition entry.1 := by
  rw [checkRepeated, Clause.repeatedShape_of_nodup (nodup_defaultClauses declarations)]
  generalize firstOfShape (defaultClauses 0 declarations) = kept
  rw [defaultClauses_eq_map, List.filter_map, List.map_map]
  refine List.map_congr_left fun entry _ => ?_
  exact congrArg _ (head_span_withParams _ _)

/-- The checker reports that a declaration repeats another exactly if finalizing the module leaves
it without its default clause. Then an earlier declaration of the same function has its default
clause there, with the same shape. Every other declaration has its default clause there once. -/
theorem repetitions_reported (module : Module) :
    let installed := Clause.ofDeclarations module.declarations
    ((check module).filter fun finding => finding.code = "W320") =
        (module.declarations.zipIdx.filter fun entry =>
          (defaultsAt entry.2 installed).isEmpty).map (fun entry => repetition entry.1) ∧
      ∀ index declaration, module.declarations[index]? = some declaration →
        defaultsAt index installed = [declaration.defaultClause index] ∨
          defaultsAt index installed = [] ∧
            ∃ earlier original, earlier < index ∧
              module.declarations[earlier]? = some original ∧
              original.signature = declaration.signature ∧
              defaultsAt earlier installed = [original.defaultClause earlier] ∧
              (original.defaultClause earlier).shapeKey =
                (declaration.defaultClause index).shapeKey := by
  intro installed
  constructor
  · rw [filter_check_repeated, checkRepeated_eq]
    refine congrArg _ (List.filter_congr fun entry member => ?_)
    have found : module.declarations[entry.2]? = some entry.1 :=
      List.mk_mem_zipIdx_iff_getElem?.mp member
    rw [defaultsAt_ofDeclarations found]
    split <;> simp_all
  · intro index declaration found
    rw [defaultsAt_ofDeclarations found]
    split
    · exact .inl rfl
    · rename_i dropped
      have isThere : (defaultClauses 0 module.declarations)[index]? =
          some (declaration.defaultClause index) := by
        rw [getElem?_defaultClauses, found]
        rfl
      rcases Clause.exists_earlier_of_not_mem isThere dropped with
        ⟨earlier, kept, before, isThereToo, isKept, same⟩
      rw [getElem?_defaultClauses] at isThereToo
      rcases Option.map_eq_some_iff.mp isThereToo with ⟨original, foundOriginal, rfl⟩
      refine .inr ⟨rfl, earlier, original, before, foundOriginal,
        Clause.signature_eq_of_shapeKey_eq same, ?_, same⟩
      rw [defaultsAt_ofDeclarations foundOriginal, if_pos isKept]

end Checker
end ClauseFlow

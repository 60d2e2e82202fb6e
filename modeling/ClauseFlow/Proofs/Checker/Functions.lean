import Mathlib.Data.List.Nodup
import ClauseFlow.Checker

/-!
# The functions that a check knows

A symbol table knows a function once, however often it is declared. The table of a module knows the
functions of its declarations, whatever their order.
-/

namespace ClauseFlow

namespace SymbolTable

/-- The declared functions of a table, in the order of their first declaration. -/
def declared (table : SymbolTable) : List Signature :=
  table.functions.map (·.1)

/-- A further declaration of a known function adds no function. -/
theorem map_addDeclaration (signature : Signature) (span : Span)
    (functions : List (Signature × List Span)) :
    (addDeclaration signature span functions).map (·.1) =
      if signature ∈ functions.map (·.1) then functions.map (·.1)
      else functions.map (·.1) ++ [signature] := by
  induction functions with
  | nil => rfl
  | cons entry rest ih =>
      rcases entry with ⟨known, spans⟩
      rw [addDeclaration]
      by_cases same : known = signature
      · rw [if_pos same, same]
        exact (if_pos (.head _)).symm
      · rw [if_neg same, List.map_cons, List.map_cons, ih]
        have sameTest : signature ∈ known :: rest.map (·.1) ↔ signature ∈ rest.map (·.1) := by
          rw [List.mem_cons, or_iff_right (Ne.symm same)]
        rw [apply_ite (List.cons known)]
        exact (if_congr sameTest rfl rfl).symm

theorem mem_declared_defineFunction {table : SymbolTable} {signature other : Signature}
    {span : Span} :
    other ∈ (table.defineFunction signature span).declared ↔
      other = signature ∨ other ∈ table.declared := by
  have added := map_addDeclaration signature span table.functions
  rw [declared, defineFunction, added]
  split
  · rename_i known
    refine (or_iff_right_of_imp ?_).symm
    rintro rfl
    exact known
  · rw [List.mem_append, List.mem_singleton, or_comm]
    rfl

theorem nodup_declared_defineFunction {table : SymbolTable} (nodup : table.declared.Nodup)
    (signature : Signature) (span : Span) :
    (table.defineFunction signature span).declared.Nodup := by
  have added := map_addDeclaration signature span table.functions
  rw [declared, defineFunction, added]
  split
  · exact nodup
  · rename_i fresh
    refine List.nodup_append.mpr ⟨nodup, List.nodup_singleton _, ?_⟩
    intro known member other single same
    exact fresh (List.mem_singleton.mp single ▸ same ▸ member)

/-- Whether two tables declare the same functions. -/
def SameFunctions (table table' : SymbolTable) : Prop :=
  table.declared.Perm table'.declared

namespace SameFunctions

variable {table table' : SymbolTable}

theorem declares_eq (same : SameFunctions table table') (signature : Signature) :
    table.declares signature = table'.declares signature := by
  have found := List.Perm.any_eq (f := fun known => decide (known = signature)) same
  rwa [declared, declared, List.any_map, List.any_map] at found

theorem any_name_eq (same : SameFunctions table table') (name : String) :
    table.functions.any (fun entry => entry.1.name = name) =
      table'.functions.any fun entry => entry.1.name = name := by
  have found := List.Perm.any_eq (f := fun known => decide (known.name = name)) same
  rwa [declared, declared, List.any_map, List.any_map] at found

theorem arities_eq_mergeSort (table : SymbolTable) (name : String) :
    table.arities name =
      ((table.declared.filter fun known => known.name = name).map (·.arity)).mergeSort := by
  rw [arities, declared, List.filter_map, List.map_map]
  rfl

/-- The numbers of arguments are listed in ascending order, whatever the order of declaration. -/
theorem arities_eq (same : SameFunctions table table') (name : String) :
    table.arities name = table'.arities name := by
  have permuted := (same.filter fun known => decide (known.name = name)).map (·.arity)
  rw [arities_eq_mergeSort, arities_eq_mergeSort]
  generalize (table.declared.filter _).map _ = numbers,
    (table'.declared.filter _).map _ = numbers' at permuted
  have ascending (numbers : List Nat) : numbers.mergeSort.Pairwise (· ≤ ·) := by
    have trans : ∀ first second third : Nat, decide (first ≤ second) → decide (second ≤ third) →
        decide (first ≤ third) := by simpa using fun _ _ _ => Nat.le_trans
    have sorted := List.pairwise_mergeSort trans (by simpa using Nat.le_total) numbers
    simpa only [decide_eq_true_eq] using sorted
  refine List.Perm.eq_of_pairwise (fun _ _ _ _ => Nat.le_antisymm) (ascending numbers)
    (ascending numbers') ?_
  exact ((List.mergeSort_perm _ _).trans permuted).trans (List.mergeSort_perm _ _).symm

end SameFunctions
end SymbolTable

namespace Checker

open SymbolTable (SameFunctions)

variable {declarations declarations' : List Declaration}

theorem mem_declared_functionTable {signature : Signature} :
    signature ∈ (functionTable declarations).declared ↔
      ∃ declaration ∈ declarations, declaration.signature = signature := by
  -- The table grows while declarations are added, so the induction is on any table.
  suffices general : ∀ table : SymbolTable,
      signature ∈ (declarations.foldl (fun table declaration =>
        table.defineFunction declaration.signature declaration.span) table).declared ↔
      (∃ declaration ∈ declarations, declaration.signature = signature) ∨
        signature ∈ table.declared from
    (general .empty).trans (or_iff_left List.not_mem_nil)
  induction declarations with
  | nil => simp
  | cons declaration rest ih =>
      intro table
      rw [List.foldl_cons, ih, SymbolTable.mem_declared_defineFunction, List.exists_mem_cons_iff,
        or_left_comm, or_assoc, eq_comm]

theorem nodup_declared_functionTable (declarations : List Declaration) :
    (functionTable declarations).declared.Nodup :=
  List.foldlRecOn (motive := fun table : SymbolTable => table.declared.Nodup) declarations _ .nil
    fun _ nodup declaration _ =>
      SymbolTable.nodup_declared_defineFunction nodup declaration.signature declaration.span

/-- The order of declarations does not matter for which functions they declare. -/
theorem sameFunctions_of_perm (permuted : declarations.Perm declarations') :
    SameFunctions (functionTable declarations) (functionTable declarations') := by
  refine (List.perm_ext_iff_of_nodup (nodup_declared_functionTable _)
    (nodup_declared_functionTable _)).mpr fun signature => ?_
  rw [mem_declared_functionTable, mem_declared_functionTable]
  simp only [permuted.mem_iff]

end Checker
end ClauseFlow

import ClauseFlow.Proofs.Clause.Unwrapping

/-!
# Generated names

The names that are made up for an unwrapping clause are those that its supply hands out. They differ
from each other and from all names that its declaration uses. Beside the names of the patterns after
the first one they are the only ones that an unwrapping clause binds.
-/

namespace ClauseFlow

namespace Pattern

/-! ## Steps that take names -/

namespace Naming

variable {α β : Type}

/-- Whether a step takes free names only, and each one once. -/
def TakesFree (step : Naming α) : Prop :=
  ∀ supply, ∃ names, NameSupply.HandsOut supply (step.run supply).2 names

theorem TakesFree.pure (value : α) : TakesFree (Pure.pure value : Naming α) :=
  fun supply => ⟨[], .refl supply⟩

theorem TakesFree.bind {step : Naming α} {next : α → Naming β} (first : step.TakesFree)
    (later : ∀ value, (next value).TakesFree) : TakesFree (step >>= next) := by
  intro supply
  rcases first supply with ⟨names, handsOut⟩
  rcases later (step.run supply).1 (step.run supply).2 with ⟨names', handsOutLater⟩
  exact ⟨names' ++ names, handsOut.trans handsOutLater⟩

end Naming

open Naming (TakesFree)

theorem newName_takesFree (base : String) : (newName base).TakesFree :=
  fun supply => ⟨_, .numbered supply base⟩

mutual

theorem nameAnonymous_takesFree (base : String) : ∀ pattern : Pattern,
    (nameAnonymous base pattern).TakesFree
  | .literal .. | .wildcard _ => .pure _
  | .binding name span => by
      simp only [nameAnonymous]
      split
      · exact (newName_takesFree base).bind fun _ => .pure _
      · exact .pure _
  | .tuple elements span => (nameAnonymousAll_takesFree base elements).bind fun _ => .pure _
  | .list elements none span => by
      simp only [nameAnonymous]
      exact (nameAnonymousAll_takesFree base elements).bind fun _ => .pure _
  | .list elements (some tail) span => by
      simp only [nameAnonymous]
      apply (nameAnonymous_takesFree base tail).bind
      intro tail'
      exact (nameAnonymousAll_takesFree base elements).bind fun _ => .pure _
  | .map entries span => (nameAnonymousEntries_takesFree base entries).bind fun _ => .pure _
  | .record tag entries span =>
      (nameAnonymousEntries_takesFree base entries).bind fun _ => .pure _
  | .result tag inner span => (nameAnonymous_takesFree base inner).bind fun _ => .pure _
  | .named inner name span => by
      have inside (name : String) : TakesFree (do
          return Pattern.named (← nameAnonymous base inner) name span) :=
        (nameAnonymous_takesFree base inner).bind fun _ => .pure _
      simp only [nameAnonymous]
      split
      · exact (newName_takesFree base).bind inside
      · exact (TakesFree.pure name).bind inside

theorem nameAnonymousAll_takesFree (base : String) : ∀ patterns : List Pattern,
    (nameAnonymousAll base patterns).TakesFree
  | [] => .pure _
  | pattern :: rest => by
      apply (nameAnonymous_takesFree base pattern).bind
      intro named
      exact (nameAnonymousAll_takesFree base rest).bind fun _ => .pure _

theorem nameAnonymousEntries_takesFree (base : String) : ∀ entries : List (String × Pattern),
    (nameAnonymousEntries base entries).TakesFree
  | [] => .pure _
  | (_, pattern) :: rest => by
      apply (nameAnonymous_takesFree base pattern).bind
      intro named
      exact (nameAnonymousEntries_takesFree base rest).bind fun _ => .pure _

end

end Pattern

namespace Declaration

open Pattern (KeepsAll newName_takesFree nameAnonymous_takesFree)
open Pattern.Naming (TakesFree)

theorem nameWhole_takesFree (base : String) (named : Pattern) :
    (nameWhole base named).TakesFree := by
  cases named with
  | binding | named => exact .pure _
  | _ => exact (newName_takesFree base).bind fun _ => .pure _

theorem namedParam_takesFree (base : String) (param : Pattern) :
    (namedParam base param).TakesFree := by
  have byPattern : TakesFree (param.nameAnonymous base >>= nameWhole base) :=
    (nameAnonymous_takesFree base param).bind (nameWhole_takesFree base)
  cases param with
  | wildcard span => exact (newName_takesFree base).bind fun _ => .pure _
  | _ => exact byPattern

theorem namedParams_takesFree (base : String) (params : List Pattern) :
    (namedParams base params).TakesFree := by
  induction params with
  | nil => exact .pure _
  | cons param rest ih =>
      apply (namedParam_takesFree base param).bind
      intro named
      exact ih.bind fun _ => .pure _

/-! ## Names of an unwrapping clause -/

/-- The names that are taken when an unwrapping clause is complete. -/
def takenAfterOthers (declaration : Declaration) : NameSupply :=
  ((namedParams unwrappedBase declaration.params.tail).run declaration.takenBeforeOthers).2

/-- The names that are made up for the unwrapping clause of a declaration, the last one first. -/
def generatedNames (declaration : Declaration) : List String :=
  NameSupply.handedOut ⟨declaration.takenNames⟩ declaration.takenAfterOthers

variable {declaration : Declaration}

theorem handsOut_generatedNames (declaration : Declaration) :
    NameSupply.HandsOut ⟨declaration.takenNames⟩ declaration.takenAfterOthers
      declaration.generatedNames := by
  rcases namedParams_takesFree unwrappedBase declaration.params.tail
    declaration.takenBeforeOthers with ⟨names, later⟩
  have handsOut : NameSupply.HandsOut ⟨declaration.takenNames⟩ declaration.takenAfterOthers _ :=
    (NameSupply.HandsOut.fresh ⟨declaration.takenNames⟩ unwrappedBase).trans later
  rw [generatedNames, handsOut.handedOut_eq]
  exact handsOut

/-- Names that are taken after the unwrapping clause is complete are taken before or generated. -/
theorem mem_takenAfterOthers {name : String} (taken : name ∈ declaration.takenAfterOthers.taken) :
    name ∈ declaration.generatedNames ∨ name ∈ declaration.takenNames := by
  rw [declaration.handsOut_generatedNames.taken] at taken
  exact List.mem_append.mp taken

/-- An unwrapping clause introduces the names of the patterns after the first one and generated
ones. -/
theorem mem_unwrappingNames {name : String} (member : name ∈ declaration.unwrappingNames) :
    name ∈ Pattern.namesOfAll declaration.params.tail ∨ name ∈ declaration.generatedNames := by
  have keeps : KeepsAll declaration.takenBeforeOthers declaration.takenAfterOthers
      declaration.params.tail declaration.namedOthers :=
    namedParams_keepsAll (by decide) (by decide) _ _
  rcases List.mem_cons.mp member with rfl | other
  · have taken : declaration.unwrappedName ∈ declaration.takenAfterOthers.taken := by
      apply keeps.supplies.grows
      rw [takenBeforeOthers_taken]
      exact .head _
    rcases mem_takenAfterOthers taken with generated | known
    · exact .inr generated
    · exact absurd known declaration.unwrappedName_not_mem
  · rcases (keeps.supplies.source name other).2 with own | ⟨free, taken⟩
    · exact .inl own
    · rcases mem_takenAfterOthers taken with generated | known
      · exact .inr generated
      · rw [takenBeforeOthers_taken] at free
        exact absurd (List.mem_cons_of_mem _ known) free

end Declaration
end ClauseFlow

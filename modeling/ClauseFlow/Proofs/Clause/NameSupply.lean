import ClauseFlow.Clause.NameSupply
import ClauseFlow.Pattern

/-!
# Fresh names

A supply hands out names that were not taken: the numbered names are all different, so that not all
of the ones it tries can be taken.
-/

namespace ClauseFlow

namespace Numeral

theorem natText_injective {n m : Nat} (same : natText n = natText m) : n = m := by
  have sameDigits : Nat.toDigits 10 n = Nat.toDigits 10 m := String.ofList_injective same
  rw [← Nat.ofDigitChars_toDigits (n := n) (by decide : 1 < 10) (by decide), sameDigits,
    Nat.ofDigitChars_toDigits (by decide) (by decide)]

end Numeral

namespace NameSupply

theorem candidate_injective {base : String} {n m : Nat}
    (same : candidate base n = candidate base m) : n = m := by
  apply Numeral.natText_injective
  have sameText := congrArg String.toList same
  simp only [candidate, String.toList_append] at sameText
  exact String.toList_injective (List.append_cancel_left sameText)

/-- The search ends at a free number, or all the numbers it has tried are taken. -/
theorem freeNumber_spec (taken : List String) (base : String) (fuel number : Nat) :
    candidate base (freeNumber taken base fuel number) ∉ taken ∨
      freeNumber taken base fuel number = number + fuel ∧
        ∀ tried, tried < fuel → candidate base (number + tried) ∈ taken := by
  induction fuel generalizing number with
  | zero => exact .inr ⟨rfl, fun tried early => absurd early (Nat.not_lt_zero tried)⟩
  | succ fuel ih =>
      rw [freeNumber]
      split
      · rename_i met
        rcases ih (number + 1) with free | ⟨last, allTaken⟩
        · exact .inl free
        · refine .inr ⟨by omega, fun tried early => ?_⟩
          cases tried with
          | zero => simpa using met
          | succ tried =>
              have member := allTaken tried (by omega)
              rwa [Nat.add_right_comm] at member
      · rename_i unmet
        exact .inl (by simpa using unmet)

/-- A numbered name is not taken. -/
theorem numbered_not_mem (supply : NameSupply) (base : String) :
    (supply.numbered base).1 ∉ supply.taken := by
  intro member
  have found : candidate base (freeNumber supply.taken base supply.taken.length 1) ∈
      supply.taken := member
  rcases freeNumber_spec supply.taken base supply.taken.length 1 with free | ⟨last, allTaken⟩
  · exact free found
  · -- One name more than there are taken ones would be taken.
    rw [last] at found
    have distinct : ((List.range (supply.taken.length + 1)).map
        fun tried => candidate base (1 + tried)).Nodup := by
      refine List.Pairwise.map _ (fun n m differ same => differ ?_) List.nodup_range
      exact Nat.add_left_cancel (candidate_injective same)
    have subset : ((List.range (supply.taken.length + 1)).map
        fun tried => candidate base (1 + tried)) ⊆ supply.taken := by
      intro name listed
      rcases List.mem_map.mp listed with ⟨tried, bound, rfl⟩
      rw [List.mem_range] at bound
      by_cases last : tried = supply.taken.length
      · rw [last]
        exact found
      · exact allTaken tried (by omega)
    have tooMany := distinct.length_le_of_subset subset
    rw [List.length_map, List.length_range] at tooMany
    exact Nat.not_succ_le_self _ tooMany

/-- A name with a number is anonymous if and only if the name is. -/
theorem isAnonymous_numbered (supply : NameSupply) {base : String} (nonempty : base.toList ≠ []) :
    isAnonymous (supply.numbered base).1 = isAnonymous base := by
  change isAnonymous (candidate base _) = isAnonymous base
  unfold isAnonymous candidate
  rw [String.toList_append]
  cases letters : base.toList with
  | nil => exact absurd letters nonempty
  | cons first rest => rfl

/-- A fresh name is not taken. -/
theorem fresh_not_mem (supply : NameSupply) (base : String) :
    (supply.fresh base).1 ∉ supply.taken := by
  rw [fresh]
  split
  · exact numbered_not_mem supply base
  · rename_i free
    simpa [take] using free

theorem fresh_snd (supply : NameSupply) (base : String) :
    (supply.fresh base).2 = ⟨(supply.fresh base).1 :: supply.taken⟩ := by
  rw [fresh]
  split <;> rfl

theorem isAnonymous_fresh (supply : NameSupply) {base : String} (nonempty : base.toList ≠ []) :
    isAnonymous (supply.fresh base).1 = isAnonymous base := by
  rw [fresh]
  split
  · exact isAnonymous_numbered supply nonempty
  · rfl

/-! ## Names that are handed out -/

/-- The names that a supply has handed out since it was an earlier one, the last one first. -/
def handedOut (earlier later : NameSupply) : List String :=
  later.taken.take (later.taken.length - earlier.taken.length)

/-- Whether a supply is an earlier one that has handed out names: each one once, and none that was
taken. -/
structure HandsOut (earlier later : NameSupply) (names : List String) : Prop where
  taken : later.taken = names ++ earlier.taken
  distinct : names.Nodup
  free : ∀ name ∈ names, name ∉ earlier.taken

namespace HandsOut

variable {earlier later latest : NameSupply} {names names' : List String}

theorem refl (supply : NameSupply) : HandsOut supply supply [] :=
  ⟨rfl, .nil, nofun⟩

/-- Names that are handed out after others differ from them. -/
theorem trans (first : HandsOut earlier later names) (second : HandsOut later latest names') :
    HandsOut earlier latest (names' ++ names) where
  taken := by rw [second.taken, first.taken, List.append_assoc]
  distinct := by
    refine List.nodup_append.mpr ⟨second.distinct, first.distinct, ?_⟩
    rintro name member _ own rfl
    apply second.free name member
    rw [first.taken]
    exact List.mem_append_left _ own
  free name member := by
    rcases List.mem_append.mp member with later | own
    · intro known
      apply second.free name later
      rw [first.taken]
      exact List.mem_append_right _ known
    · exact first.free name own

theorem numbered (supply : NameSupply) (base : String) :
    HandsOut supply (supply.numbered base).2 [(supply.numbered base).1] where
  taken := rfl
  distinct := List.pairwise_singleton _ _
  free := List.forall_mem_singleton.mpr (numbered_not_mem supply base)

theorem fresh (supply : NameSupply) (base : String) :
    HandsOut supply (supply.fresh base).2 [(supply.fresh base).1] where
  taken := by
    rw [fresh_snd]
    rfl
  distinct := List.pairwise_singleton _ _
  free := List.forall_mem_singleton.mpr (fresh_not_mem supply base)

theorem handedOut_eq (handsOut : HandsOut earlier later names) :
    handedOut earlier later = names := by
  rw [handedOut, handsOut.taken, List.length_append, Nat.add_sub_cancel, List.take_left]

end HandsOut
end NameSupply
end ClauseFlow

import Mathlib.Data.List.Nodup
import ClauseFlow.Proofs.Clause.Ordering

/-!
# Dispatch order

Dispatch order is a strict order: functions as they first appear among the default clauses, within a
function the kinds by their rank, within a kind the clauses as they are given. Finalizing a scope
lists the clauses that are kept, each once, in this order. There is only one such list.
-/

namespace ClauseFlow

/-- The place of a kind among the clauses of one function. -/
def ClauseKind.rank : ClauseKind → Nat
  | errorPassthrough => 0
  | okUnwrap => 1
  | default => 2

theorem ClauseKind.rank_injective {kind kind' : ClauseKind} (same : kind.rank = kind'.rank) :
    kind = kind' := by
  cases kind <;> cases kind' <;> first | rfl | cases same

namespace Clause

/-! ## Clauses that are the first of their shape -/

/-- Whether a clause is the first one of its shape. -/
def IsFirstOfShape (clauses : List Clause) (clause : Clause) : Prop :=
  clauses.find? (fun other => other.shapeKey = clause.shapeKey) = some clause

/-- The clauses that are kept are the first of their shape, and of a shape not met before. -/
theorem mem_dedupe {seen : List Shape} {clauses : List Clause} {clause : Clause} :
    clause ∈ (dedupe seen clauses).1 ↔
      clause.shapeKey ∉ seen ∧ IsFirstOfShape clauses clause := by
  fun_induction dedupe seen clauses with
  | case1 => simp [IsFirstOfShape]
  | case2 seen head rest met kept dropped split ih =>
      have known : head.shapeKey ∈ seen := by simpa using met
      rw [split] at ih
      rw [ih, IsFirstOfShape, IsFirstOfShape, List.find?_cons]
      by_cases same : head.shapeKey = clause.shapeKey
      · rw [same] at known
        simp [known]
      · simp [same]
  | case3 seen head rest unmet kept dropped split ih =>
      have fresh : head.shapeKey ∉ seen := by simpa using unmet
      rw [split] at ih
      rw [List.mem_cons, ih, IsFirstOfShape, IsFirstOfShape, List.find?_cons]
      by_cases same : head.shapeKey = clause.shapeKey
      · rw [same] at fresh
        simp [same, fresh, eq_comm]
      · have differs : clause ≠ head := by
          rintro rfl
          exact same rfl
        simp [same, differs, Ne.symm same]

theorem mem_firstOfShape {clauses : List Clause} {clause : Clause} :
    clause ∈ firstOfShape clauses ↔ IsFirstOfShape clauses clause := by
  rw [firstOfShape, mem_dedupe]
  exact and_iff_right List.not_mem_nil

/-- Another clause in front does not change which of two clauses is given first. -/
theorem pairwise_idxOf_cons {kept rest : List Clause} {head : Clause} (apart : head ∉ kept)
    (ordered : kept.Pairwise fun first second => rest.idxOf first < rest.idxOf second) :
    kept.Pairwise fun first second =>
      (head :: rest).idxOf first < (head :: rest).idxOf second := by
  have differs : ∀ clause ∈ kept, head ≠ clause := by
    rintro clause member rfl
    exact apart member
  refine ordered.imp_of_mem fun {first second} firstKept secondKept before => ?_
  rw [List.idxOf_cons_ne rest (differs first firstKept),
    List.idxOf_cons_ne rest (differs second secondKept)]
  exact Nat.succ_lt_succ before

/-- Clauses are kept in the order in which they are given. -/
theorem pairwise_dedupe (seen : List Shape) (clauses : List Clause) :
    (dedupe seen clauses).1.Pairwise fun first second =>
      clauses.idxOf first < clauses.idxOf second := by
  fun_induction dedupe seen clauses with
  | case1 => exact .nil
  | case2 seen head rest met kept dropped split ih =>
      rw [split] at ih
      apply pairwise_idxOf_cons _ ih
      intro member
      have fresh : head.shapeKey ∉ seen := (mem_dedupe.mp (by rw [split]; exact member)).1
      exact fresh (by simpa using met)
  | case3 seen head rest unmet kept dropped split ih =>
      rw [split] at ih
      have apart : head ∉ kept := by
        intro member
        have fresh : head.shapeKey ∉ head.shapeKey :: seen :=
          (mem_dedupe.mp (by rw [split]; exact member)).1
        exact fresh (.head _)
      refine List.pairwise_cons.mpr ⟨fun clause member => ?_, pairwise_idxOf_cons apart ih⟩
      have differs : head ≠ clause := by
        rintro rfl
        exact apart member
      rw [List.idxOf_cons_self, List.idxOf_cons_ne rest differs]
      exact Nat.succ_pos _

/-- Clauses of different shapes are all kept. -/
theorem dedupe_of_nodup {seen : List Shape} {clauses : List Clause}
    (fresh : ∀ clause ∈ clauses, clause.shapeKey ∉ seen)
    (nodup : (clauses.map shapeKey).Nodup) : (dedupe seen clauses).1 = clauses := by
  fun_induction dedupe seen clauses with
  | case1 => rfl
  | case2 seen head rest met kept dropped split ih =>
      exact absurd (by simpa using met) (fresh head (.head _))
  | case3 seen head rest unmet kept dropped split ih =>
      rw [List.map_cons, List.nodup_cons] at nodup
      have later := ih (fun clause member known => ?_) nodup.2
      · rw [split] at later
        exact congrArg (List.cons head) later
      · rcases List.mem_cons.mp known with same | known
        · exact nodup.1 (List.mem_map.mpr ⟨clause, member, same⟩)
        · exact fresh clause (.tail _ member) known

theorem firstOfShape_of_nodup {clauses : List Clause} (nodup : (clauses.map shapeKey).Nodup) :
    firstOfShape clauses = clauses :=
  dedupe_of_nodup (fun _ _ => List.not_mem_nil) nodup

/-! ## Functions in the order of their first appearance -/

/-- The place at which a function first appears. -/
def appearance (clauses : List Clause) (signature : Signature) : Nat :=
  clauses.findIdx fun clause => clause.signature = signature

theorem appearance_cons_of_ne {clause : Clause} {signature : Signature}
    (other : clause.signature ≠ signature) (rest : List Clause) :
    appearance (clause :: rest) signature = appearance rest signature + 1 := by
  simp [appearance, List.findIdx_cons, other]

theorem appearance_cons_self (clause : Clause) (rest : List Clause) :
    appearance (clause :: rest) clause.signature = 0 := by
  simp [appearance, List.findIdx_cons]

/-- A clause of another function in front does not change which of two functions appears first. -/
theorem pairwise_appearance_cons {functions : List Signature} {rest : List Clause}
    {clause : Clause} (apart : clause.signature ∉ functions)
    (ordered : functions.Pairwise fun first second =>
      appearance rest first < appearance rest second) :
    functions.Pairwise fun first second =>
      appearance (clause :: rest) first < appearance (clause :: rest) second := by
  have differs : ∀ signature ∈ functions, clause.signature ≠ signature := by
    rintro signature member rfl
    exact apart member
  refine ordered.imp_of_mem fun {first second} firstMember secondMember before => ?_
  rw [appearance_cons_of_ne (differs first firstMember),
    appearance_cons_of_ne (differs second secondMember)]
  exact Nat.succ_lt_succ before

/-- Functions are listed as they first appear. -/
theorem pairwise_signaturesAfter (seen : List Signature) (clauses : List Clause) :
    (signaturesAfter seen clauses).Pairwise fun first second =>
      appearance clauses first < appearance clauses second := by
  fun_induction signaturesAfter seen clauses with
  | case1 => exact .nil
  | case2 seen clause rest met ih =>
      apply pairwise_appearance_cons _ ih
      intro member
      exact (mem_signaturesAfter.mp member).1 (by simpa using met)
  | case3 seen clause rest unmet ih =>
      have apart : clause.signature ∉ signaturesAfter (clause.signature :: seen) rest :=
        fun member => (mem_signaturesAfter.mp member).1 (.head _)
      refine List.pairwise_cons.mpr ⟨fun signature member => ?_, pairwise_appearance_cons apart ih⟩
      have differs : clause.signature ≠ signature := by
        rintro rfl
        exact apart member
      rw [appearance_cons_self, appearance_cons_of_ne differs]
      exact Nat.succ_pos _

/-- Dropping the clauses of an earlier shape drops no function. -/
theorem signaturesAfter_dedupe {seen : List Shape} {met : List Signature}
    (known : ∀ shape ∈ seen, shape.signature ∈ met) (clauses : List Clause) :
    signaturesAfter met (dedupe seen clauses).1 = signaturesAfter met clauses := by
  fun_induction dedupe seen clauses generalizing met with
  | case1 => rfl
  | case2 seen head rest repeated kept dropped split ih =>
      have own : head.signature ∈ met := known head.shapeKey (by simpa using repeated)
      have later := ih known
      rw [split] at later
      rw [later, signaturesAfter, if_pos (List.contains_iff_mem.mpr own)]
  | case3 seen head rest unmet kept dropped split ih =>
      rw [split] at ih
      rw [signaturesAfter, signaturesAfter]
      by_cases own : head.signature ∈ met
      · rw [if_pos (List.contains_iff_mem.mpr own), if_pos (List.contains_iff_mem.mpr own)]
        exact ih (List.forall_mem_cons.mpr ⟨own, known⟩)
      · have fresh : ¬met.contains head.signature = true := fun contained =>
          own (List.contains_iff_mem.mp contained)
        rw [if_neg fresh, if_neg fresh]
        refine congrArg _ (ih (List.forall_mem_cons.mpr ⟨.head _, fun shape member => ?_⟩))
        exact .tail _ (known shape member)

theorem signatures_firstOfShape (clauses : List Clause) :
    signatures (firstOfShape clauses) = signatures clauses :=
  signaturesAfter_dedupe (List.forall_mem_nil _) clauses

/-- Only functions that appear later matter among those met before. -/
theorem signaturesAfter_congr {seen seen' : List Signature} {clauses : List Clause}
    (agree : ∀ clause ∈ clauses, clause.signature ∈ seen ↔ clause.signature ∈ seen') :
    signaturesAfter seen clauses = signaturesAfter seen' clauses := by
  induction clauses generalizing seen seen' with
  | nil => rfl
  | cons clause rest ih =>
      rcases List.forall_mem_cons.mp agree with ⟨here, later⟩
      rw [signaturesAfter, signaturesAfter]
      by_cases known : clause.signature ∈ seen
      · rw [if_pos (List.contains_iff_mem.mpr known),
          if_pos (List.contains_iff_mem.mpr (here.mp known))]
        exact ih later
      · have known' : clause.signature ∉ seen' := fun member => known (here.mpr member)
        rw [if_neg (fun contained => known (List.contains_iff_mem.mp contained)),
          if_neg (fun contained => known' (List.contains_iff_mem.mp contained))]
        refine congrArg _ (ih fun other member => ?_)
        rw [List.mem_cons, List.mem_cons, later other member]

/-- Clauses of functions met before add no function. -/
theorem signaturesAfter_append_of_seen {seen : List Signature} {clauses : List Clause}
    (known : ∀ clause ∈ clauses, clause.signature ∈ seen) (rest : List Clause) :
    signaturesAfter seen (clauses ++ rest) = signaturesAfter seen rest := by
  induction clauses with
  | nil => rfl
  | cons clause others ih =>
      rcases List.forall_mem_cons.mp known with ⟨here, later⟩
      rw [List.cons_append, signaturesAfter, if_pos (List.contains_iff_mem.mpr here)]
      exact ih later

/-- The functions of groups of clauses, one group for each function, are those of the groups. -/
theorem signatures_flatMap {functions : List Signature} {group : Signature → List Clause}
    (pure : ∀ signature, ∀ clause ∈ group signature, clause.signature = signature)
    (nonempty : ∀ signature ∈ functions, group signature ≠ []) (nodup : functions.Nodup) :
    signatures (functions.flatMap group) = functions := by
  induction functions with
  | nil => rfl
  | cons function others ih =>
      rcases List.nodup_cons.mp nodup with ⟨absent, othersNodup⟩
      rcases List.forall_mem_cons.mp nonempty with ⟨here, later⟩
      rcases List.exists_cons_of_ne_nil here with ⟨clause, rest, split⟩
      have own : clause.signature = function := pure function clause (by rw [split]; exact .head _)
      have same : ∀ other ∈ rest, other.signature ∈ [function] := by
        intro other member
        rw [pure function other (by rw [split]; exact .tail _ member)]
        exact .head _
      have apart : ∀ other ∈ others.flatMap group, other.signature ∈ [function] ↔
          other.signature ∈ ([] : List Signature) := by
        intro other member
        rcases List.mem_flatMap.mp member with ⟨signature, isOther, inside⟩
        have differs : other.signature ≠ function := by
          rw [pure signature other inside]
          rintro rfl
          exact absent isOther
        simp [differs]
      have unseen : ([] : List Signature).contains clause.signature = false := rfl
      rw [List.flatMap_cons, split, List.cons_append, signatures, signaturesAfter, unseen, own,
        if_neg Bool.false_ne_true, signaturesAfter_append_of_seen same,
        signaturesAfter_congr apart]
      exact congrArg _ (ih later othersNodup)

/-! ## The order -/

/-- Whether a clause comes before another one in dispatch order: its function appears first in a
default clause, or its kind has the lower rank, or it is given first. -/
inductive Precedes (given : ClauseKind → List Clause) (first second : Clause) : Prop where
  | function (earlier : appearance (given .default) first.signature <
      appearance (given .default) second.signature)
  | kind (sameFunction : first.signature = second.signature)
      (earlier : first.kind.rank < second.kind.rank)
  | source (sameFunction : first.signature = second.signature) (sameKind : first.kind = second.kind)
      (earlier : (given first.kind).idxOf first < (given first.kind).idxOf second)

variable {given : ClauseKind → List Clause}

namespace Precedes

variable {first second : Clause}

theorem appearance_le (precedes : Precedes given first second) :
    appearance (given .default) first.signature ≤ appearance (given .default) second.signature := by
  cases precedes with
  | function earlier => exact Nat.le_of_lt earlier
  | kind same _ | source same _ _ => exact Nat.le_of_eq (congrArg _ same)

theorem rank_le (precedes : Precedes given first second)
    (same : first.signature = second.signature) : first.kind.rank ≤ second.kind.rank := by
  cases precedes with
  | function earlier =>
      rw [same] at earlier
      exact absurd earlier (Nat.lt_irrefl _)
  | kind _ earlier => exact Nat.le_of_lt earlier
  | source _ sameKind _ => exact Nat.le_of_eq (congrArg _ sameKind)

theorem idxOf_lt (precedes : Precedes given first second)
    (same : first.signature = second.signature) (sameKind : first.kind = second.kind) :
    (given first.kind).idxOf first < (given first.kind).idxOf second := by
  cases precedes with
  | function earlier =>
      rw [same] at earlier
      exact absurd earlier (Nat.lt_irrefl _)
  | kind _ earlier =>
      rw [sameKind] at earlier
      exact absurd earlier (Nat.lt_irrefl _)
  | source _ _ earlier => exact earlier

theorem asymm (precedes : Precedes given first second) : ¬Precedes given second first := by
  intro reverse
  cases precedes with
  | function earlier => exact Nat.not_le_of_lt earlier reverse.appearance_le
  | kind same earlier => exact Nat.not_le_of_lt earlier (reverse.rank_le same.symm)
  | source same sameKind earlier =>
      rw [sameKind] at earlier
      exact Nat.lt_asymm earlier (reverse.idxOf_lt same.symm sameKind.symm)

theorem irrefl (clause : Clause) : ¬Precedes given clause clause :=
  fun precedes => precedes.asymm precedes

end Precedes

/-- Whether a list holds, of the clauses given for each kind, those that are kept: the first one of
each shape, if its function has a default clause. -/
def HoldsKept (given : ClauseKind → List Clause) (clauses : List Clause) : Prop :=
  ∀ clause, clause ∈ clauses ↔
    (∃ default ∈ given .default, default.signature = clause.signature) ∧
      IsFirstOfShape (given clause.kind) clause

/-! ## The clauses of one function -/

/-- What finalizing gives to one function. -/
def group (given : ClauseKind → List Clause) (signature : Signature) : List Clause :=
  ofSignature signature (firstOfShape (given .errorPassthrough)) ++
    ofSignature signature (firstOfShape (given .okUnwrap)) ++
    ofSignature signature (firstOfShape (given .default))

theorem finalize_eq (given : ClauseKind → List Clause) :
    finalize (given .default) (given .okUnwrap) (given .errorPassthrough) =
      (signatures (given .default)).flatMap (group given) := by
  rw [finalize, signatures_firstOfShape]
  rfl

section

variable (own : ∀ kind, ∀ clause ∈ given kind, clause.kind = kind)

include own

theorem kind_of_mem_firstOfShape {kind : ClauseKind} {clause : Clause}
    (member : clause ∈ firstOfShape (given kind)) : clause.kind = kind :=
  own kind clause (mem_of_mem_firstOfShape member)

theorem mem_group {signature : Signature} {clause : Clause} :
    clause ∈ group given signature ↔
      clause.signature = signature ∧ clause ∈ firstOfShape (given clause.kind) := by
  simp only [group, List.mem_append, mem_ofSignature]
  constructor
  · rintro ((⟨member, same⟩ | ⟨member, same⟩) | ⟨member, same⟩)
    all_goals
      refine ⟨same, ?_⟩
      rw [kind_of_mem_firstOfShape own member]
      exact member
  · rintro ⟨same, member⟩
    cases kind : clause.kind with
    | errorPassthrough => exact .inl (.inl ⟨kind ▸ member, same⟩)
    | okUnwrap => exact .inl (.inr ⟨kind ▸ member, same⟩)
    | default => exact .inr ⟨kind ▸ member, same⟩

/-- Finalizing keeps what is to be kept. -/
theorem holdsKept_finalize :
    HoldsKept given
      (finalize (given .default) (given .okUnwrap) (given .errorPassthrough)) := by
  intro clause
  rw [finalize_eq, List.mem_flatMap]
  constructor
  · rintro ⟨signature, listed, inside⟩
    rcases (mem_group own).mp inside with ⟨rfl, kept⟩
    exact ⟨(mem_signaturesAfter.mp listed).2, mem_firstOfShape.mp kept⟩
  · rintro ⟨hasDefault, first⟩
    refine ⟨clause.signature, mem_signaturesAfter.mpr ⟨List.not_mem_nil, hasDefault⟩, ?_⟩
    exact (mem_group own).mpr ⟨rfl, mem_firstOfShape.mpr first⟩

/-- The clauses of one function and kind are in order. -/
theorem pairwise_ofSignature_firstOfShape (signature : Signature) (kind : ClauseKind) :
    (ofSignature signature (firstOfShape (given kind))).Pairwise (Precedes given) := by
  have placed : (ofSignature signature (firstOfShape (given kind))).Pairwise fun first second =>
      (given kind).idxOf first < (given kind).idxOf second :=
    (pairwise_dedupe [] (given kind)).filter _
  refine placed.imp_of_mem fun {first second} firstMember secondMember earlier => ?_
  rcases mem_ofSignature.mp firstMember with ⟨firstKept, firstOwn⟩
  rcases mem_ofSignature.mp secondMember with ⟨secondKept, secondOwn⟩
  have firstKind := kind_of_mem_firstOfShape own firstKept
  have secondKind := kind_of_mem_firstOfShape own secondKept
  exact .source (firstOwn.trans secondOwn.symm) (firstKind.trans secondKind.symm)
    (by rw [firstKind]; exact earlier)

/-- Clauses of a kind of lower rank come before those of a higher one. -/
theorem precedes_of_rank {signature : Signature} {kind kind' : ClauseKind}
    (lower : kind.rank < kind'.rank) {first second : Clause}
    (firstMember : first ∈ ofSignature signature (firstOfShape (given kind)))
    (secondMember : second ∈ ofSignature signature (firstOfShape (given kind'))) :
    Precedes given first second := by
  rcases mem_ofSignature.mp firstMember with ⟨firstKept, firstOwn⟩
  rcases mem_ofSignature.mp secondMember with ⟨secondKept, secondOwn⟩
  apply Precedes.kind (firstOwn.trans secondOwn.symm)
  rw [kind_of_mem_firstOfShape own firstKept, kind_of_mem_firstOfShape own secondKept]
  exact lower

theorem pairwise_group (signature : Signature) :
    (group given signature).Pairwise (Precedes given) := by
  have each := pairwise_ofSignature_firstOfShape own signature
  rw [group, List.pairwise_append, List.pairwise_append]
  refine ⟨⟨each _, each _, fun first firstMember second secondMember => ?_⟩, each _,
    fun first firstMember second secondMember => ?_⟩
  · exact precedes_of_rank own (by decide) firstMember secondMember
  · rcases List.mem_append.mp firstMember with passing | unwrapping
    · exact precedes_of_rank own (by decide) passing secondMember
    · exact precedes_of_rank own (by decide) unwrapping secondMember

/-- Finalizing puts clauses into dispatch order. -/
theorem pairwise_finalize :
    (finalize (given .default) (given .okUnwrap) (given .errorPassthrough)).Pairwise
      (Precedes given) := by
  rw [finalize_eq, List.pairwise_flatMap]
  refine ⟨fun signature _ => pairwise_group own signature, ?_⟩
  refine (pairwise_signaturesAfter [] (given .default)).imp fun {function function'} earlier => ?_
  intro first firstMember second secondMember
  apply Precedes.function
  rw [((mem_group own).mp firstMember).1, ((mem_group own).mp secondMember).1]
  exact earlier

end

/-! ## Lists in dispatch order -/

/-- Whether a list of clauses is the dispatch order of the clauses given for each kind. -/
structure IsDispatchOrder (given : ClauseKind → List Clause) (clauses : List Clause) : Prop where
  /-- The clauses that are kept are there, and no others. -/
  complete : HoldsKept given clauses
  /-- No shape is there twice. -/
  distinct : (clauses.map shapeKey).Nodup
  /-- Between clauses of one function there are no others. -/
  contiguous : ∀ before first between last after,
    clauses = before ++ first :: between ++ last :: after → first.signature = last.signature →
      ∀ clause ∈ between, clause.signature = first.signature
  /-- Functions are in the order of their first appearance among the default clauses. -/
  functions : clauses.Pairwise fun first second =>
    appearance (given .default) first.signature ≤ appearance (given .default) second.signature
  /-- Within a function the kinds are in the order of their rank. -/
  kinds : clauses.Pairwise fun first second =>
    first.signature = second.signature → first.kind.rank ≤ second.kind.rank
  /-- Within a function and a kind the clauses are in the order in which they are given. -/
  source : clauses.Pairwise fun first second =>
    first.signature = second.signature → first.kind = second.kind →
      (given first.kind).idxOf first < (given first.kind).idxOf second

/-- Functions with default clauses appear at different places. -/
theorem eq_of_appearance_eq {signature signature' : Signature}
    (hasDefault : ∃ default ∈ given .default, default.signature = signature)
    (hasDefault' : ∃ default ∈ given .default, default.signature = signature')
    (same : appearance (given .default) signature = appearance (given .default) signature') :
    signature = signature' := by
  have found : ∀ function, (∃ default ∈ given .default, default.signature = function) →
      ∃ clause, (given .default)[appearance (given .default) function]? = some clause ∧
        clause.signature = function := by
    rintro function ⟨default, member, own⟩
    have bound : appearance (given .default) function < (given .default).length :=
      List.findIdx_lt_length_of_exists ⟨default, member, decide_eq_true own⟩
    refine ⟨_, List.getElem?_eq_getElem bound, ?_⟩
    have isFound := List.findIdx_getElem (w := bound)
    rwa [decide_eq_true_eq] at isFound
  rcases found _ hasDefault with ⟨clause, here, own⟩
  rcases found _ hasDefault' with ⟨clause', here', own'⟩
  rw [same, here'] at here
  obtain rfl := Option.some.inj here
  exact own.symm.trans own'

/-- Of two clauses of one shape only one is the first of it. -/
theorem HoldsKept.nodup_shapeKey {clauses : List Clause} (complete : HoldsKept given clauses)
    (ordered : clauses.Pairwise (Precedes given)) : (clauses.map shapeKey).Nodup := by
  refine List.pairwise_map.mpr ?_
  refine ordered.imp_of_mem fun {first second} member member' precedes same => ?_
  have isFirst := ((complete first).mp member).2
  have isFirst' := ((complete second).mp member').2
  have sameKind : first.kind = second.kind := congrArg Shape.kind same
  rw [IsFirstOfShape, same, sameKind, isFirst'] at isFirst
  obtain rfl := Option.some.inj isFirst
  exact precedes.irrefl

/-- In order, the clauses of one function are next to each other. -/
theorem HoldsKept.signature_eq_between {before between after : List Clause} {first last : Clause}
    (complete : HoldsKept given (before ++ first :: between ++ last :: after))
    (ordered : (before ++ first :: between ++ last :: after).Pairwise (Precedes given))
    (same : first.signature = last.signature) :
    ∀ clause ∈ between, clause.signature = first.signature := by
  intro clause inside
  have hasDefault : ∀ other ∈ first :: between,
      ∃ default ∈ given .default, default.signature = other.signature := by
    intro other member
    refine ((complete other).mp ?_).1
    exact List.mem_append_left _ (List.mem_append_right _ member)
  rw [List.pairwise_append, List.pairwise_append, List.pairwise_cons] at ordered
  rcases ordered with ⟨⟨_, ⟨fromFirst, _⟩, _⟩, _, untilLast⟩
  have notEarlier := (fromFirst clause inside).appearance_le
  have notLater :=
    (untilLast clause (List.mem_append_right _ (.tail _ inside)) last (.head _)).appearance_le
  rw [← same] at notLater
  exact eq_of_appearance_eq (hasDefault clause (.tail _ inside)) (hasDefault first (.head _))
    (Nat.le_antisymm notLater notEarlier)

/-- The clauses that are kept, put into order, are in dispatch order. -/
theorem HoldsKept.isDispatchOrder {clauses : List Clause} (complete : HoldsKept given clauses)
    (ordered : clauses.Pairwise (Precedes given)) : IsDispatchOrder given clauses where
  complete := complete
  distinct := complete.nodup_shapeKey ordered
  contiguous before first between last after split same := by
    subst split
    exact complete.signature_eq_between ordered same
  functions := ordered.imp Precedes.appearance_le
  kinds := ordered.imp Precedes.rank_le
  source := ordered.imp Precedes.idxOf_lt

namespace IsDispatchOrder

variable {clauses clauses' : List Clause}

/-- A list in dispatch order goes by the order of clauses. -/
theorem pairwise (order : IsDispatchOrder given clauses) : clauses.Pairwise (Precedes given) := by
  refine (order.functions.and (order.kinds.and order.source)).imp_of_mem ?_
  rintro first second member member' ⟨function, kind, source⟩
  rcases Nat.lt_or_eq_of_le function with earlier | same
  · exact .function earlier
  · have sameFunction : first.signature = second.signature :=
      eq_of_appearance_eq ((order.complete first).mp member).1
        ((order.complete second).mp member').1 same
    rcases Nat.lt_or_eq_of_le (kind sameFunction) with earlier | sameRank
    · exact .kind sameFunction earlier
    · have sameKind := ClauseKind.rank_injective sameRank
      exact .source sameFunction sameKind (source sameFunction sameKind)

/-- There is only one dispatch order. -/
theorem unique (order : IsDispatchOrder given clauses) (order' : IsDispatchOrder given clauses') :
    clauses = clauses' := by
  refine List.Perm.eq_of_pairwise ?_ order.pairwise order'.pairwise ?_
  · intro first second _ _ precedes reverse
    exact absurd reverse precedes.asymm
  · have nodup : clauses.Nodup := List.Nodup.of_map shapeKey order.distinct
    have nodup' : clauses'.Nodup := List.Nodup.of_map shapeKey order'.distinct
    refine (List.perm_ext_iff_of_nodup nodup nodup').mpr fun clause => ?_
    exact (order.complete clause).trans (order'.complete clause).symm

end IsDispatchOrder

/-! ## Finalizing again -/

/-- The groups of functions hold their own clauses. -/
theorem signature_of_mem_group {signature : Signature} {clause : Clause}
    (member : clause ∈ group given signature) : clause.signature = signature := by
  simp only [group, List.mem_append, mem_ofSignature] at member
  rcases member with (⟨_, same⟩ | ⟨_, same⟩) | ⟨_, same⟩ <;> exact same

/-- Finalizing gives each function with a default clause its group. -/
theorem ofSignature_finalize_eq_group {signature : Signature}
    (listed : signature ∈ signatures (given .default)) :
    ofSignature signature
        (finalize (given .default) (given .okUnwrap) (given .errorPassthrough)) =
      group given signature := by
  have pure : ∀ function, ∀ clause ∈ group given function, clause.signature = function :=
    fun _ _ => signature_of_mem_group
  rw [finalize_eq]
  exact (ofSignature_flatMap pure (nodup_signaturesAfter [] _) signature).trans (if_pos listed)

section

variable (own : ∀ kind, ∀ clause ∈ given kind, clause.kind = kind)

include own

/-- The clauses of one kind in a group. -/
theorem ofKind_group (kind : ClauseKind) (signature : Signature) :
    ofKind kind (group given signature) = ofSignature signature (firstOfShape (given kind)) := by
  have whole : ∀ kind', ofKind kind (ofSignature signature (firstOfShape (given kind'))) =
      if kind' = kind then ofSignature signature (firstOfShape (given kind')) else [] := by
    intro kind'
    have same : ∀ clause ∈ ofSignature signature (firstOfShape (given kind')),
        clause.kind = kind' :=
      fun clause member => kind_of_mem_firstOfShape own (mem_ofSignature.mp member).1
    by_cases isKind : kind' = kind
    · rw [if_pos isKind]
      exact List.filter_eq_self.mpr fun clause member =>
        decide_eq_true ((same clause member).trans isKind)
    · rw [if_neg isKind]
      exact List.filter_eq_nil_iff.mpr fun clause member => by
        rw [same clause member, decide_eq_true_eq]
        exact isKind
  have split : ofKind kind (group given signature) =
      ofKind kind (ofSignature signature (firstOfShape (given .errorPassthrough))) ++
        ofKind kind (ofSignature signature (firstOfShape (given .okUnwrap))) ++
        ofKind kind (ofSignature signature (firstOfShape (given .default))) := by
    simp only [ofKind, group, List.filter_append]
  rw [split, whole, whole, whole]
  cases kind <;> simp

theorem isDispatchOrder_finalize :
    IsDispatchOrder given
      (finalize (given .default) (given .okUnwrap) (given .errorPassthrough)) :=
  (holdsKept_finalize own).isDispatchOrder (pairwise_finalize own)

/-- A function with a default clause has one in its group. -/
theorem ofKind_default_group_ne_nil {signature : Signature}
    (listed : signature ∈ signatures (given .default)) :
    ofKind .default (group given signature) ≠ [] := by
  rcases (mem_signaturesAfter.mp listed).2 with ⟨clause, member, rfl⟩
  rcases exists_mem_firstOfShape member with ⟨kept, isKept, same⟩
  rw [ofKind_group own]
  exact List.ne_nil_of_mem (mem_ofSignature.mpr ⟨isKept, signature_eq_of_shapeKey_eq same⟩)

/-- Finalizing again what was finalized changes nothing. -/
theorem finalize_ofKind_finalize :
    let ordered := finalize (given .default) (given .okUnwrap) (given .errorPassthrough)
    finalize (ofKind .default ordered) (ofKind .okUnwrap ordered)
      (ofKind .errorPassthrough ordered) = ordered := by
  intro ordered
  have nodup := nodup_signaturesAfter [] (given .default)
  have functions : signatures (ofKind .default ordered) = signatures (given .default) := by
    have grouped : ofKind .default ordered =
        (signatures (given .default)).flatMap fun signature =>
          ofKind .default (group given signature) := by
      simp only [ordered, finalize_eq, ofKind, List.filter_flatMap]
    rw [grouped]
    apply signatures_flatMap _ _ nodup
    · intro signature clause member
      exact signature_of_mem_group (mem_ofKind.mp member).1
    · exact fun signature listed => ofKind_default_group_ne_nil own listed
  have kept : ∀ kind, firstOfShape (ofKind kind ordered) = ofKind kind ordered := fun kind =>
    firstOfShape_of_nodup
      ((isDispatchOrder_finalize own).distinct.sublist (List.filter_sublist.map _))
  have groups : ∀ signature ∈ signatures (given .default),
      group (fun kind => ofKind kind ordered) signature = group given signature := by
    intro signature listed
    have each : ∀ kind, ofSignature signature (ofKind kind ordered) =
        ofSignature signature (firstOfShape (given kind)) := by
      intro kind
      rw [← ofKind_group own, ← ofSignature_finalize_eq_group listed]
      simp only [ordered, ofSignature, ofKind, List.filter_filter, Bool.and_comm]
    simp only [group, kept, each]
  have again := finalize_eq fun kind => ofKind kind ordered
  rw [again, functions, List.flatMap_congr groups]
  exact (finalize_eq given).symm

/-- A program lists the clauses of a finalized scope as they are. -/
theorem clauses_finalize :
    let ordered := finalize (given .default) (given .okUnwrap) (given .errorPassthrough)
    (Program.mk ordered).clauses = ordered := by
  intro ordered
  have functions : signatures ordered = signatures (given .default) := by
    simp only [ordered, finalize_eq]
    apply signatures_flatMap (fun _ _ => signature_of_mem_group) _ (nodup_signaturesAfter [] _)
    intro signature listed isEmpty
    apply ofKind_default_group_ne_nil own listed
    rw [isEmpty]
    rfl
  have groups : ∀ signature ∈ signatures (given .default),
      ofSignature signature ordered = group given signature :=
    fun signature listed => ofSignature_finalize_eq_group listed
  change (signatures ordered).flatMap (fun signature => ofSignature signature ordered) = ordered
  rw [functions, List.flatMap_congr groups]
  exact (finalize_eq given).symm

end

/-- Finalizing yields the dispatch order of the clauses given for each kind, and there is no other
one; finalizing its clauses again, kind by kind, changes nothing, and a program lists them as they
are. -/
theorem finalize_dispatchOrder {given : ClauseKind → List Clause}
    (own : ∀ kind, ∀ clause ∈ given kind, clause.kind = kind) :
    let ordered := finalize (given .default) (given .okUnwrap) (given .errorPassthrough)
    (∀ clauses, clauses = ordered ↔ IsDispatchOrder given clauses) ∧
      finalize (ofKind .default ordered) (ofKind .okUnwrap ordered)
        (ofKind .errorPassthrough ordered) = ordered ∧
      (Program.mk ordered).clauses = ordered := by
  intro ordered
  have isOrder : IsDispatchOrder given ordered := isDispatchOrder_finalize own
  refine ⟨fun clauses => ⟨?_, fun order => order.unique isOrder⟩,
    finalize_ofKind_finalize own, clauses_finalize own⟩
  rintro rfl
  exact isOrder

/-- `pipe name(param) -> Ok(param)` or `def name(param) -> Ok(param)`. -/
def answering (name param : String) (synthesized : Bool) : Declaration :=
  let here : Span := .generated
  ⟨.plain ⟨name, [.binding param here], here⟩, .result .ok (.ident ⟨param, here⟩) here,
    synthesized, none, here⟩

/-- `def name(nil) -> :none`. -/
def answeringNothing (name : String) : Declaration :=
  let here : Span := .generated
  ⟨.plain ⟨name, [.literal .nil here], here⟩, .atom "none" here, false, none, here⟩

/-- The clauses, by kind, of `pipe keep(x) -> Ok(x)`, `def pass(nil) -> :none`,
`def keep(y) -> Ok(y)`, which has the shape of the first one, and `pipe pass(x) -> Ok(x)`. -/
def mixed (kind : ClauseKind) : List Clause :=
  ofKind kind (Declaration.clausesFrom 0
    [answering "keep" "x" true, answeringNothing "pass", answering "keep" "y" false,
      answering "pass" "x" true])

theorem finalize_dispatchOrder_mixed :
    (∀ kind, ∀ clause ∈ mixed kind, clause.kind = kind) ∧
      IsDispatchOrder mixed
        [(answering "keep" "x" true).errorClause 0, (answering "keep" "x" true).okClause 0,
          (answering "keep" "x" true).defaultClause 0,
          (answering "pass" "x" true).errorClause 3, (answering "pass" "x" true).okClause 3,
          (answeringNothing "pass").defaultClause 1,
          (answering "pass" "x" true).defaultClause 3] := by
  have own : ∀ kind, ∀ clause ∈ mixed kind, clause.kind = kind :=
    fun kind clause member => (mem_ofKind.mp member).2
  refine ⟨own, ((finalize_dispatchOrder own).1 _).mp ?_⟩
  decide +kernel

end Clause
end ClauseFlow

import ClauseFlow.Proofs.Clause.NameSupply
import ClauseFlow.Proofs.Pattern.Parts
import ClauseFlow.Proofs.Pattern.Places
import Mathlib.Data.Set.Function

/-!
# Other names in a pattern

The names of a pattern can be replaced one by one, in the order in which they are bound. Replacing
each name by the same name wherever it occurs is renaming; replacing each anonymous name by one that
occurs nowhere else tells the anonymous names apart.
-/

namespace ClauseFlow.Pattern

variable {σ : Type}

mutual

/-- A pattern with each of its names replaced. -/
def relabel (label : String → StateM σ String) : Pattern → StateM σ Pattern
  | .literal value span => return .literal value span
  | .wildcard span => return .wildcard span
  | .binding name span => return .binding (← label name) span
  | .tuple elements span => return .tuple (← relabelAll label elements) span
  | .list elements none span => return .list (← relabelAll label elements) none span
  | .list elements (some tail) span => do
      let elements ← relabelAll label elements
      return .list elements (some (← relabel label tail)) span
  | .map entries span => return .map (← relabelEntries label entries) span
  | .record tag entries span => return .record tag (← relabelEntries label entries) span
  | .result tag inner span => return .result tag (← relabel label inner) span
  | .named inner name span => do
      let inner ← relabel label inner
      return .named inner (← label name) span

def relabelAll (label : String → StateM σ String) : List Pattern → StateM σ (List Pattern)
  | [] => return []
  | pattern :: rest => do
      let first ← relabel label pattern
      return first :: (← relabelAll label rest)

def relabelEntries (label : String → StateM σ String) :
    List (String × Pattern) → StateM σ (List (String × Pattern))
  | [] => return []
  | (key, pattern) :: rest => do
      let first ← relabel label pattern
      return (key, first) :: (← relabelEntries label rest)

end

/-- Names in a row, each replaced. -/
def relabelNames (label : String → StateM σ String) : List String → StateM σ (List String)
  | [] => return []
  | name :: rest => do
      let first ← label name
      return first :: (← relabelNames label rest)

variable {label : String → StateM σ String}

/-! ## One name after the other -/

theorem relabel_listWithTail (elements : List Pattern) (tail : Pattern) (span : Span)
    (state : σ) :
    ((relabel label (.list elements (some tail) span)).run state).1 =
      .list ((relabelAll label elements).run state).1
        (some ((relabel label tail).run ((relabelAll label elements).run state).2).1) span := rfl

theorem relabel_named (inner : Pattern) (name : String) (span : Span) (state : σ) :
    ((relabel label (.named inner name span)).run state).1 =
      .named ((relabel label inner).run state).1
        ((label name).run ((relabel label inner).run state).2).1 span := rfl

theorem relabelAll_cons (pattern : Pattern) (rest : List Pattern) (state : σ) :
    ((relabelAll label (pattern :: rest)).run state).1 =
      ((relabel label pattern).run state).1 ::
        ((relabelAll label rest).run ((relabel label pattern).run state).2).1 := rfl

theorem relabelEntries_cons (key : String) (pattern : Pattern) (rest : List (String × Pattern))
    (state : σ) :
    ((relabelEntries label ((key, pattern) :: rest)).run state).1 =
      (key, ((relabel label pattern).run state).1) ::
        ((relabelEntries label rest).run ((relabel label pattern).run state).2).1 := rfl

theorem relabelNames_append (names names' : List String) (state : σ) :
    (relabelNames label (names ++ names')).run state =
      (((relabelNames label names).run state).1 ++
          ((relabelNames label names').run ((relabelNames label names).run state).2).1,
        ((relabelNames label names').run ((relabelNames label names).run state).2).2) := by
  induction names generalizing state with
  | nil => rfl
  | cons name rest ih =>
      exact congrArg (fun later => (((label name).run state).1 :: later.1, later.2))
        (ih ((label name).run state).2)

mutual

/-- Replacing the names of a pattern replaces them in a row. -/
theorem relabelNames_names : ∀ (pattern : Pattern) (state : σ),
    (relabelNames label (names pattern)).run state =
      (names ((relabel label pattern).run state).1, ((relabel label pattern).run state).2)
  | .literal .., _ | .wildcard _, _ | .binding .., _ => rfl
  | .tuple elements _, state | .list elements none _, state =>
      relabelNames_namesOfAll elements state
  | .list elements (some tail) _, state => by
      rw [names_listWithTail, relabelNames_append, relabelNames_namesOfAll elements,
        relabelNames_names tail]
      exact Prod.ext (names_listWithTail ..).symm rfl
  | .map entries _, state | .record _ entries _, state => relabelNames_namesOfEntries entries state
  | .result _ inner _, state => relabelNames_names inner state
  | .named inner name _, state => by
      rw [names_named, relabelNames_append, relabelNames_names inner]
      exact Prod.ext (names_named ..).symm rfl

theorem relabelNames_namesOfAll : ∀ (patterns : List Pattern) (state : σ),
    (relabelNames label (namesOfAll patterns)).run state =
      (namesOfAll ((relabelAll label patterns).run state).1,
        ((relabelAll label patterns).run state).2)
  | [], _ => rfl
  | pattern :: rest, state => by
      rw [namesOfAll_cons, relabelNames_append, relabelNames_names pattern,
        relabelNames_namesOfAll rest]
      exact Prod.ext (namesOfAll_cons ..).symm rfl

theorem relabelNames_namesOfEntries : ∀ (entries : List (String × Pattern)) (state : σ),
    (relabelNames label (namesOfEntries entries)).run state =
      (namesOfEntries ((relabelEntries label entries).run state).1,
        ((relabelEntries label entries).run state).2)
  | [], _ => rfl
  | (key, pattern) :: rest, state => by
      rw [namesOfEntries_cons, relabelNames_append, relabelNames_names pattern,
        relabelNames_namesOfEntries rest]
      exact Prod.ext (namesOfEntries_cons ..).symm rfl

end

theorem relabelNames_length (names : List String) (state : σ) :
    ((relabelNames label names).run state).1.length = names.length := by
  induction names generalizing state with
  | nil => rfl
  | cons name rest ih => exact congrArg Nat.succ (ih ((label name).run state).2)

/-- There are as many names as before. -/
theorem length_names_relabel (pattern : Pattern) (state : σ) :
    (names ((relabel label pattern).run state).1).length = (names pattern).length := by
  rw [← relabelNames_length (names pattern) state, relabelNames_names]

theorem length_namesOfAll_relabelAll (patterns : List Pattern) (state : σ) :
    (namesOfAll ((relabelAll label patterns).run state).1).length =
      (namesOfAll patterns).length := by
  rw [← relabelNames_length (namesOfAll patterns) state, relabelNames_namesOfAll]

/-! ## Renaming -/

/-- A pattern with each name spelled in another way, wherever it occurs. -/
def rename (respell : String → String) (pattern : Pattern) : Pattern :=
  ((relabel (fun name => pure (respell name)) pattern).run ()).1

def renameAll (respell : String → String) (patterns : List Pattern) : List Pattern :=
  ((relabelAll (fun name => pure (respell name)) patterns).run ()).1

def renameEntries (respell : String → String) (entries : List (String × Pattern)) :
    List (String × Pattern) :=
  ((relabelEntries (fun name => pure (respell name)) entries).run ()).1

theorem relabelNames_pure (respell : String → String) (names : List String) (state : σ) :
    (relabelNames (fun name => pure (respell name)) names).run state =
      (names.map respell, state) := by
  induction names with
  | nil => rfl
  | cons name rest ih => exact congrArg (fun later => (respell name :: later.1, later.2)) ih

theorem names_rename (respell : String → String) (pattern : Pattern) :
    names (rename respell pattern) = (names pattern).map respell := by
  have row := congrArg Prod.fst (relabelNames_pure respell (names pattern) ())
  rw [relabelNames_names] at row
  exact row

theorem namesOfAll_renameAll (respell : String → String) (patterns : List Pattern) :
    namesOfAll (renameAll respell patterns) = (namesOfAll patterns).map respell := by
  have row := congrArg Prod.fst (relabelNames_pure respell (namesOfAll patterns) ())
  rw [relabelNames_namesOfAll] at row
  exact row

/-! ## Telling anonymous names apart -/

/-- Instead of an anonymous name, one that has not been used yet. -/
def distinguishName (name : String) : StateM Nat String :=
  if isAnonymous name then fun count => (NameSupply.candidate "_" count, count + 1)
  else pure name

/-- Patterns with a different name for each occurrence of an anonymous one. -/
def distinguish (patterns : List Pattern) : List Pattern :=
  ((relabelAll distinguishName patterns).run 0).1

/-- Names with a different one for each occurrence of an anonymous one. -/
def distinguishFrom (count : Nat) : List String → List String
  | [] => []
  | name :: rest =>
      if isAnonymous name then NameSupply.candidate "_" count :: distinguishFrom (count + 1) rest
      else name :: distinguishFrom count rest

theorem relabelNames_distinguishName (names : List String) (count : Nat) :
    ((relabelNames distinguishName names).run count).1 = distinguishFrom count names := by
  induction names generalizing count with
  | nil => rfl
  | cons name rest ih =>
      change ((distinguishName name).run count).1 ::
        ((relabelNames distinguishName rest).run ((distinguishName name).run count).2).1 = _
      rw [ih, distinguishFrom, distinguishName]
      cases isAnonymous name <;> rfl

theorem namesOfAll_distinguish (patterns : List Pattern) :
    namesOfAll (distinguish patterns) = distinguishFrom 0 (namesOfAll patterns) := by
  rw [← relabelNames_distinguishName, relabelNames_namesOfAll]
  rfl

theorem names_relabel_distinguishName (pattern : Pattern) (count : Nat) :
    names ((relabel distinguishName pattern).run count).1 =
      distinguishFrom count (names pattern) := by
  rw [← relabelNames_distinguishName, relabelNames_names]

theorem isAnonymous_candidate (count : Nat) :
    isAnonymous (NameSupply.candidate "_" count) = true := by
  simp [isAnonymous, NameSupply.candidate]

theorem distinguishFrom_of_named {names : List String}
    (named : ∀ name ∈ names, isAnonymous name = false) (count : Nat) :
    distinguishFrom count names = names := by
  induction names with
  | nil => rfl
  | cons name rest ih =>
      rw [distinguishFrom, named name (.head _), ih fun other member => named other (.tail _ member)]
      rfl

theorem mem_distinguishFrom_of_named {names : List String} {name : String} (member : name ∈ names)
    (named : isAnonymous name = false) (count : Nat) : name ∈ distinguishFrom count names := by
  induction names generalizing count with
  | nil => cases member
  | cons first rest ih =>
      rw [distinguishFrom]
      cases anonymous : isAnonymous first with
      | true =>
          rcases List.mem_cons.mp member with rfl | later
          · rw [named] at anonymous
            cases anonymous
          · exact .tail _ (ih later (count + 1))
      | false =>
          rcases List.mem_cons.mp member with rfl | later
          · exact .head _
          · exact .tail _ (ih later count)

/-- Names that are not anonymous meet the same values. -/
theorem valuesOf_distinguishFrom {name : String} (named : isAnonymous name = false) (count : Nat)
    (names : List String) (values : List Value) :
    Bindings.valuesOf ((distinguishFrom count names).zip values) name =
      Bindings.valuesOf (names.zip values) name := by
  induction names generalizing count values with
  | nil => rfl
  | cons first rest ih =>
      cases values with
      | nil => cases isAnonymous first <;> simp [Bindings.valuesOf]
      | cons value others =>
          rw [distinguishFrom]
          cases anonymous : isAnonymous first with
          | true =>
              have differs : name ≠ first := by
                rintro rfl
                rw [named] at anonymous
                cases anonymous
              have differs' : name ≠ NameSupply.candidate "_" count := by
                rintro rfl
                rw [isAnonymous_candidate] at named
                cases named
              rw [if_pos rfl, List.zip_cons_cons, List.zip_cons_cons,
                Bindings.valuesOf_cons_of_ne differs', Bindings.valuesOf_cons_of_ne differs, ih]
          | false =>
              rw [if_neg Bool.false_ne_true, List.zip_cons_cons, List.zip_cons_cons]
              by_cases same : name = first
              · subst same
                rw [Bindings.valuesOf_cons_self, Bindings.valuesOf_cons_self, ih]
              · rw [Bindings.valuesOf_cons_of_ne same, Bindings.valuesOf_cons_of_ne same, ih]

/-- Renaming one-to-one changes nothing about the values that a name meets. -/
theorem valuesOf_map {names : List String} {respell : String → String}
    (injective : Set.InjOn respell {name | name ∈ names}) {name : String} (member : name ∈ names)
    (values : List Value) :
    Bindings.valuesOf ((names.map respell).zip values) (respell name) =
      Bindings.valuesOf (names.zip values) name := by
  have sameName : ∀ pair ∈ names.zip values,
      (respell pair.1 == respell name) = (pair.1 == name) := by
    intro pair isPair
    rw [beq_eq_beq]
    exact injective.eq_iff (List.of_mem_zip isPair).1 member
  rw [Bindings.valuesOf, List.zip_map_left, List.filter_map, List.map_map, Bindings.valuesOf,
    ← List.filter_congr sameName]
  rfl

/-- Names that have been distinguished are names as before, or anonymous ones with a new number. -/
theorem mem_distinguishFrom {count : Nat} {names : List String} {name : String}
    (member : name ∈ distinguishFrom count names) :
    isAnonymous name = false ∧ name ∈ names ∨
      ∃ number, count ≤ number ∧ name = NameSupply.candidate "_" number := by
  induction names generalizing count with
  | nil => cases member
  | cons first rest ih =>
      rw [distinguishFrom] at member
      cases anonymous : isAnonymous first with
      | true =>
          rw [anonymous, if_pos rfl] at member
          rcases List.mem_cons.mp member with rfl | member
          · exact .inr ⟨count, Nat.le_refl count, rfl⟩
          · rcases ih member with ⟨named, member⟩ | ⟨number, later, rfl⟩
            · exact .inl ⟨named, .tail _ member⟩
            · exact .inr ⟨number, Nat.le_of_succ_le later, rfl⟩
      | false =>
          rw [anonymous] at member
          rcases List.mem_cons.mp member with rfl | member
          · exact .inl ⟨anonymous, .head _⟩
          · rcases ih member with ⟨named, member⟩ | numbered
            · exact .inl ⟨named, .tail _ member⟩
            · exact .inr numbered

/-- Whether no anonymous name occurs twice in a row. -/
def ToldApart (names : List String) : Prop :=
  names.Pairwise fun earlier later => isAnonymous earlier = true → earlier ≠ later

theorem toldApart_distinguishFrom (count : Nat) (names : List String) :
    ToldApart (distinguishFrom count names) := by
  induction names generalizing count with
  | nil => exact .nil
  | cons first rest ih =>
      rw [distinguishFrom]
      cases anonymous : isAnonymous first with
      | true =>
          refine List.pairwise_cons.mpr ⟨fun later member _ same => ?_, ih (count + 1)⟩
          subst same
          rcases mem_distinguishFrom member with ⟨named, _⟩ | ⟨number, greater, same⟩
          · rw [isAnonymous_candidate] at named
            cases named
          · rw [NameSupply.candidate_injective same] at greater
            exact Nat.lt_irrefl number greater
      | false =>
          refine List.pairwise_cons.mpr ⟨fun later member isAnonymous => ?_, ih count⟩
          rw [anonymous] at isAnonymous
          cases isAnonymous

/-! ## Signs of zeros -/

/-- A pattern with its spans and the signs of zeros forgotten. -/
def unsigned (pattern : Pattern) : Pattern :=
  pattern.rebuild fun value => ofDecimal value.unsignZero

def unsignedAll (patterns : List Pattern) : List Pattern :=
  rebuildAll (fun value => ofDecimal value.unsignZero) patterns

def unsignedEntries (entries : List (String × Pattern)) : List (String × Pattern) :=
  rebuildEntries (fun value => ofDecimal value.unsignZero) entries

mutual

theorem names_unsigned : ∀ pattern : Pattern, names pattern.unsigned = names pattern
  | .literal value _ => by cases value <;> rfl
  | .wildcard _ | .binding .. => rfl
  | .tuple elements _ | .list elements none _ => namesOfAll_unsignedAll elements
  | .list elements (some tail) span => by
      rw [names_listWithTail, ← namesOfAll_unsignedAll elements, ← names_unsigned tail]
      exact names_listWithTail ..
  | .map entries _ | .record _ entries _ => namesOfEntries_unsignedEntries entries
  | .result _ inner _ => names_unsigned inner
  | .named inner name _ => by
      rw [names_named, ← names_unsigned inner]
      exact names_named ..

theorem namesOfAll_unsignedAll : ∀ patterns : List Pattern,
    namesOfAll (unsignedAll patterns) = namesOfAll patterns
  | [] => rfl
  | pattern :: rest => by
      rw [namesOfAll_cons, ← names_unsigned pattern, ← namesOfAll_unsignedAll rest]
      exact namesOfAll_cons ..

theorem namesOfEntries_unsignedEntries : ∀ entries : List (String × Pattern),
    namesOfEntries (unsignedEntries entries) = namesOfEntries entries
  | [] => rfl
  | (key, pattern) :: rest => by
      rw [namesOfEntries_cons, ← names_unsigned pattern, ← namesOfEntries_unsignedEntries rest]
      exact namesOfEntries_cons ..

end

/-! ## Names pattern by pattern -/

theorem map_names_renameAll (respell : String → String) (patterns : List Pattern) :
    (renameAll respell patterns).map names = (patterns.map names).map (List.map respell) := by
  induction patterns with
  | nil => rfl
  | cons pattern rest ih => exact congrArg₂ List.cons (names_rename respell pattern) ih

theorem map_names_unsignedAll (patterns : List Pattern) :
    (unsignedAll patterns).map names = patterns.map names := by
  induction patterns with
  | nil => rfl
  | cons pattern rest ih => exact congrArg₂ List.cons (names_unsigned pattern) ih

/-- Without anonymous names nothing has to be told apart. -/
theorem map_names_relabelAll {patterns : List Pattern}
    (named : ∀ name ∈ namesOfAll patterns, isAnonymous name = false) (count : Nat) :
    ((relabelAll distinguishName patterns).run count).1.map names = patterns.map names := by
  induction patterns generalizing count with
  | nil => rfl
  | cons pattern rest ih =>
      rw [namesOfAll_cons, List.forall_mem_append] at named
      rw [relabelAll_cons, List.map_cons, List.map_cons, ih named.2, names_relabel_distinguishName,
        distinguishFrom_of_named named.1]

/-- Whether a renaming turns parameters into others, but for spans and the signs of zeros. Each
occurrence of an anonymous name counts as a name of its own. -/
structure Renames (respell : String → String) (params params' : List Pattern) : Prop where
  bijective : Set.BijOn respell {name | name ∈ namesOfAll (distinguish params)}
    {name | name ∈ namesOfAll (distinguish params')}
  turns : unsignedAll (renameAll respell (distinguish params)) = unsignedAll (distinguish params')

end ClauseFlow.Pattern

import ClauseFlow.Clause.Synthesis
import ClauseFlow.Proofs.Clause.NameSupply
import ClauseFlow.Proofs.Pattern.Parts

/-!
# Real names for anonymous ones

Giving real names to the anonymous ones of a pattern changes nothing about the values that it fits
and nothing about what its other names are bound to. The new names are different from each other and
from all names that are taken.
-/

namespace ClauseFlow.Pattern

/-! ## Rows of names -/

/-- Whether a row of names is another one with names that are not taken for the anonymous ones. -/
inductive Renamed (taken : List String) : List String → List String → Prop where
  | nil : Renamed taken [] []
  | keep {name : String} {rest rest' : List String} :
      isAnonymous name = false → Renamed taken rest rest' →
      Renamed taken (name :: rest) (name :: rest')
  | new {name name' : String} {rest rest' : List String} :
      isAnonymous name = true → name' ∉ taken → Renamed taken rest rest' →
      Renamed taken (name :: rest) (name' :: rest')

namespace Renamed

variable {taken taken' names names' others others' : List String}

theorem append (renamed : Renamed taken names names') (later : Renamed taken others others') :
    Renamed taken (names ++ others) (names' ++ others') := by
  induction renamed with
  | nil => exact later
  | keep named _ ih => exact .keep named ih
  | new anonymous free _ ih => exact .new anonymous free ih

/-- What is not taken is not among fewer names either. -/
theorem mono (subset : ∀ name ∈ taken', name ∈ taken) (renamed : Renamed taken names names') :
    Renamed taken' names names' := by
  induction renamed with
  | nil => exact .nil
  | keep named _ ih => exact .keep named ih
  | new anonymous free _ ih => exact .new anonymous (fun member => free (subset _ member)) ih

/-- Names that were taken before meet the same values. -/
theorem valuesOf_zip (renamed : Renamed taken names names') {asked : String} (known : asked ∈ taken)
    (named : isAnonymous asked = false) (values : List Value) :
    Bindings.valuesOf (names'.zip values) asked = Bindings.valuesOf (names.zip values) asked := by
  induction renamed generalizing values with
  | nil => rfl
  | @keep name rest rest' _ _ ih =>
      cases values with
      | nil => rfl
      | cons value others =>
          rw [List.zip_cons_cons, List.zip_cons_cons]
          by_cases same : asked = name
          · subst same
            rw [Bindings.valuesOf_cons_self, Bindings.valuesOf_cons_self, ih]
          · rw [Bindings.valuesOf_cons_of_ne same, Bindings.valuesOf_cons_of_ne same, ih]
  | @new name name' rest rest' anonymous free _ ih =>
      cases values with
      | nil => rfl
      | cons value others =>
          have differs : asked ≠ name := by
            rintro rfl
            rw [named] at anonymous
            cases anonymous
          have differs' : asked ≠ name' := by
            rintro rfl
            exact free known
          rw [List.zip_cons_cons, List.zip_cons_cons, Bindings.valuesOf_cons_of_ne differs,
            Bindings.valuesOf_cons_of_ne differs', ih]

end Renamed

/-! ## Names from a supply -/

/-- Whether a row of names is another one with the anonymous names left out and names from a supply
put in. Each name that was not taken comes in once. -/
structure Supplies (supply supply' : NameSupply) (names names' : List String) : Prop where
  grows : ∀ name ∈ supply.taken, name ∈ supply'.taken
  source : ∀ name ∈ names', isAnonymous name = false ∧
    (name ∈ names ∨ name ∉ supply.taken ∧ name ∈ supply'.taken)
  once : (∀ name ∈ names, isAnonymous name = false → name ∈ supply.taken) →
    ∀ name, name ∉ supply.taken → names'.count name ≤ 1

namespace Supplies

variable {supply supply' supply'' : NameSupply} {names names' others others' : List String}

theorem refl (supply : NameSupply) : Supplies supply supply [] [] where
  grows _ member := member
  source _ member := by cases member
  once _ _ _ := Nat.zero_le 1

theorem keep (supply : NameSupply) {name : String} (named : isAnonymous name = false) :
    Supplies supply supply [name] [name] where
  grows _ member := member
  source found member := by
    obtain rfl := List.mem_singleton.mp member
    exact ⟨named, .inl member⟩
  once _ _ _ := List.count_le_length

/-- A new name instead of an anonymous one, or on its own. -/
theorem new (supply : NameSupply) {base : String} (nonempty : base.toList ≠ [])
    (named : isAnonymous base = false) (names : List String) :
    Supplies supply (supply.numbered base).2 names [(supply.numbered base).1] where
  grows _ member := .tail _ member
  source found member := by
    obtain rfl := List.mem_singleton.mp member
    rw [NameSupply.isAnonymous_numbered supply nonempty]
    exact ⟨named, .inr ⟨NameSupply.numbered_not_mem supply base, .head _⟩⟩
  once _ _ _ := List.count_le_length

theorem source_append (first : Supplies supply supply' names names')
    (second : Supplies supply' supply'' others others') :
    ∀ name, name ∈ names' ∨ name ∈ others' → isAnonymous name = false ∧
      ((name ∈ names ∨ name ∈ others) ∨ name ∉ supply.taken ∧ name ∈ supply''.taken) := by
  rintro name (member | member)
  · rcases first.source name member with ⟨named, source⟩
    rcases source with here | ⟨free, used⟩
    · exact ⟨named, .inl (.inl here)⟩
    · exact ⟨named, .inr ⟨free, second.grows name used⟩⟩
  · rcases second.source name member with ⟨named, source⟩
    rcases source with here | ⟨free, used⟩
    · exact ⟨named, .inl (.inr here)⟩
    · exact ⟨named, .inr ⟨fun known => free (first.grows name known), used⟩⟩

/-- A name that was not taken is in one of two rows only, if one is supplied after the other. -/
theorem count_append_le (first : Supplies supply supply' names names')
    (second : Supplies supply' supply'' others others')
    (taken : ∀ name ∈ names ++ others, isAnonymous name = false → name ∈ supply.taken)
    {name : String} (free : name ∉ supply.taken) :
    names'.count name + others'.count name ≤ 1 := by
  have takenFirst : ∀ name ∈ names, isAnonymous name = false → name ∈ supply.taken :=
    fun name member => taken name (List.mem_append_left _ member)
  have takenSecond : ∀ name ∈ others, isAnonymous name = false → name ∈ supply.taken :=
    fun name member => taken name (List.mem_append_right _ member)
  by_cases known : name ∈ supply'.taken
  · have absent : name ∉ others' := by
      intro member
      rcases second.source name member with ⟨named, source⟩
      rcases source with here | ⟨unknown, _⟩
      · exact free (takenSecond name here named)
      · exact unknown known
    rw [List.count_eq_zero_of_not_mem absent]
    exact first.once takenFirst name free
  · have absent : name ∉ names' := by
      intro member
      rcases first.source name member with ⟨named, source⟩
      rcases source with here | ⟨_, used⟩
      · exact free (takenFirst name here named)
      · exact known used
    rw [List.count_eq_zero_of_not_mem absent, Nat.zero_add]
    exact second.once
      (fun other member named => first.grows other (takenSecond other member named)) name known

/-- Two rows, the names of the first one supplied first. -/
theorem append (first : Supplies supply supply' names names')
    (second : Supplies supply' supply'' others others') :
    Supplies supply supply'' (names ++ others) (names' ++ others') where
  grows name member := second.grows name (first.grows name member)
  source name member := by
    simpa only [List.mem_append] using source_append first second name (List.mem_append.mp member)
  once taken name free := by
    rw [List.count_append]
    exact count_append_le first second taken free

/-- Two rows, the names of the second one supplied first. -/
theorem append_swap (first : Supplies supply supply' names names')
    (second : Supplies supply' supply'' others others') :
    Supplies supply supply'' (others ++ names) (others' ++ names') where
  grows := (first.append second).grows
  source name member := by
    have found := (first.append second).source name
      (List.mem_append.mpr (List.mem_append.mp member).symm)
    simpa only [List.mem_append, or_comm] using found
  once taken name free := by
    rw [List.count_append, Nat.add_comm]
    refine count_append_le first second (fun name member => ?_) free
    exact taken name (List.mem_append.mpr (List.mem_append.mp member).symm)

end Supplies

/-! ## Patterns with real names -/

/-- Whether a pattern is another one with names from a supply for the anonymous ones. -/
structure Named (supply supply' : NameSupply) (pattern pattern' : Pattern) : Prop where
  parts : ∀ value, parts pattern' value = parts pattern value
  renamed : Renamed supply.taken (names pattern) (names pattern')
  supplies : Supplies supply supply' (names pattern) (names pattern')

structure NamedAll (supply supply' : NameSupply) (patterns patterns' : List Pattern) : Prop where
  length : patterns'.length = patterns.length
  parts : ∀ values, partsOfAll patterns' values = partsOfAll patterns values
  renamed : Renamed supply.taken (namesOfAll patterns) (namesOfAll patterns')
  supplies : Supplies supply supply' (namesOfAll patterns) (namesOfAll patterns')

structure NamedEntries (supply supply' : NameSupply) (entries entries' : List (String × Pattern)) :
    Prop where
  parts : ∀ values, partsOfEntries entries' values = partsOfEntries entries values
  renamed : Renamed supply.taken (namesOfEntries entries) (namesOfEntries entries')
  supplies : Supplies supply supply' (namesOfEntries entries) (namesOfEntries entries')

variable {base : String}

mutual

/-- Naming the anonymous names keeps what a pattern takes apart. -/
theorem nameAnonymous_named (nonempty : base.toList ≠ []) (named : isAnonymous base = false) :
    ∀ (pattern : Pattern) (supply : NameSupply),
      Named supply ((nameAnonymous base pattern).run supply).2 pattern
        ((nameAnonymous base pattern).run supply).1
  | .literal .., supply | .wildcard _, supply =>
      ⟨fun _ => rfl, .nil, .refl supply⟩
  | .binding name span, supply => by
      cases anonymous : isAnonymous name with
      | true =>
          have outcome : (nameAnonymous base (.binding name span)).run supply =
              (.binding (supply.numbered base).1 span, (supply.numbered base).2) := by
            simp only [nameAnonymous, anonymous, if_true]
            rfl
          rw [outcome]
          exact ⟨fun _ => rfl, .new anonymous (NameSupply.numbered_not_mem supply base) .nil,
            .new supply nonempty named [name]⟩
      | false =>
          have outcome : (nameAnonymous base (.binding name span)).run supply =
              (.binding name span, supply) := by
            simp only [nameAnonymous, anonymous]
            rfl
          rw [outcome]
          exact ⟨fun _ => rfl, .keep anonymous .nil, .keep supply anonymous⟩
  | .tuple elements span, supply => by
      have inside := nameAnonymousAll_named nonempty named elements supply
      refine ⟨fun value => ?_, inside.renamed, inside.supplies⟩
      cases value with
      | tuple values => exact inside.parts values
      | _ => rfl
  | .list elements none span, supply => by
      have inside := nameAnonymousAll_named nonempty named elements supply
      refine ⟨fun value => ?_, inside.renamed, inside.supplies⟩
      cases value with
      | list values => exact inside.parts values
      | _ => rfl
  | .list elements (some tail) span, supply => by
      have tailNamed := nameAnonymous_named nonempty named tail supply
      have inside := nameAnonymousAll_named nonempty named elements
        ((nameAnonymous base tail).run supply).2
      refine ⟨fun value => ?_, ?_, ?_⟩
      · cases value with
        | list values =>
            change parts (.list
              ((nameAnonymousAll base elements).run ((nameAnonymous base tail).run supply).2).1
              (some ((nameAnonymous base tail).run supply).1) span) (.list values) = _
            simp only [parts, inside.length, inside.parts, tailNamed.parts]
        | _ => rfl
      · have renamed := (inside.renamed.mono tailNamed.supplies.grows).append tailNamed.renamed
        rw [← names_listWithTail _ _ span, ← names_listWithTail _ _ span] at renamed
        exact renamed
      · have supplies := tailNamed.supplies.append_swap inside.supplies
        rw [← names_listWithTail _ _ span, ← names_listWithTail _ _ span] at supplies
        exact supplies
  | .map entries span, supply => by
      have inside := nameAnonymousEntries_named nonempty named entries supply
      refine ⟨fun value => ?_, inside.renamed, inside.supplies⟩
      change parts (.map ((nameAnonymousEntries base entries).run supply).1 span) value = _
      simp only [parts, inside.parts]
  | .record tag entries span, supply => by
      have inside := nameAnonymousEntries_named nonempty named entries supply
      refine ⟨fun value => ?_, inside.renamed, inside.supplies⟩
      cases value with
      | record tag' found =>
          change parts (.record tag ((nameAnonymousEntries base entries).run supply).1 span)
            (.record tag' found) = _
          simp only [parts, inside.parts]
      | _ => rfl
  | .result tag inner span, supply => by
      have inside := nameAnonymous_named nonempty named inner supply
      refine ⟨fun value => ?_, inside.renamed, inside.supplies⟩
      cases value with
      | result tag' payload =>
          change parts (.result tag ((nameAnonymous base inner).run supply).1 span)
            (.result tag' payload) = _
          simp only [parts, inside.parts]
      | _ => rfl
  | .named inner name span, supply => by
      -- The whole gets its name before the parts do.
      cases anonymous : isAnonymous name with
      | true =>
          have inside := nameAnonymous_named nonempty named inner (supply.numbered base).2
          have outcome : (nameAnonymous base (.named inner name span)).run supply =
              (.named ((nameAnonymous base inner).run (supply.numbered base).2).1
                (supply.numbered base).1 span,
                ((nameAnonymous base inner).run (supply.numbered base).2).2) := by
            simp only [nameAnonymous, anonymous, if_true]
            rfl
          have whole : Supplies supply (supply.numbered base).2 [name]
              [(supply.numbered base).1] := .new supply nonempty named [name]
          have renamedWhole : Renamed supply.taken [name] [(supply.numbered base).1] :=
            .new anonymous (NameSupply.numbered_not_mem supply base) .nil
          rw [outcome]
          refine ⟨fun value => ?_, ?_, ?_⟩
          · simp only [parts, inside.parts]
          · rw [names_named, names_named]
            exact (inside.renamed.mono whole.grows).append renamedWhole
          · rw [names_named, names_named]
            exact whole.append_swap inside.supplies
      | false =>
          have inside := nameAnonymous_named nonempty named inner supply
          have outcome : (nameAnonymous base (.named inner name span)).run supply =
              (.named ((nameAnonymous base inner).run supply).1 name span,
                ((nameAnonymous base inner).run supply).2) := by
            simp only [nameAnonymous, anonymous]
            rfl
          rw [outcome]
          refine ⟨fun value => ?_, ?_, ?_⟩
          · simp only [parts, inside.parts]
          · rw [names_named, names_named]
            exact inside.renamed.append (.keep anonymous .nil)
          · rw [names_named, names_named]
            exact (Supplies.keep supply anonymous).append_swap inside.supplies

theorem nameAnonymousAll_named (nonempty : base.toList ≠ []) (named : isAnonymous base = false) :
    ∀ (patterns : List Pattern) (supply : NameSupply),
      NamedAll supply ((nameAnonymousAll base patterns).run supply).2 patterns
        ((nameAnonymousAll base patterns).run supply).1
  | [], supply => ⟨rfl, fun _ => rfl, .nil, .refl supply⟩
  | pattern :: rest, supply => by
      have first := nameAnonymous_named nonempty named pattern supply
      have later := nameAnonymousAll_named nonempty named rest
        ((nameAnonymous base pattern).run supply).2
      have outcome : ((nameAnonymousAll base (pattern :: rest)).run supply).1 =
          ((nameAnonymous base pattern).run supply).1 ::
            ((nameAnonymousAll base rest).run ((nameAnonymous base pattern).run supply).2).1 := rfl
      rw [outcome]
      refine ⟨?_, fun values => ?_, ?_, ?_⟩
      · rw [List.length_cons, List.length_cons, later.length]
      · cases values with
        | nil => rfl
        | cons value others => simp only [partsOfAll, first.parts, later.parts]
      · rw [namesOfAll_cons, namesOfAll_cons]
        exact first.renamed.append (later.renamed.mono first.supplies.grows)
      · rw [namesOfAll_cons, namesOfAll_cons]
        exact first.supplies.append later.supplies

theorem nameAnonymousEntries_named (nonempty : base.toList ≠ [])
    (named : isAnonymous base = false) :
    ∀ (entries : List (String × Pattern)) (supply : NameSupply),
      NamedEntries supply ((nameAnonymousEntries base entries).run supply).2 entries
        ((nameAnonymousEntries base entries).run supply).1
  | [], supply => ⟨fun _ => rfl, .nil, .refl supply⟩
  | (key, pattern) :: rest, supply => by
      have first := nameAnonymous_named nonempty named pattern supply
      have later := nameAnonymousEntries_named nonempty named rest
        ((nameAnonymous base pattern).run supply).2
      have outcome : ((nameAnonymousEntries base ((key, pattern) :: rest)).run supply).1 =
          (key, ((nameAnonymous base pattern).run supply).1) ::
            ((nameAnonymousEntries base rest).run
              ((nameAnonymous base pattern).run supply).2).1 := rfl
      rw [outcome]
      refine ⟨fun values => ?_, ?_, ?_⟩
      · simp only [partsOfEntries, first.parts, later.parts]
      · rw [namesOfEntries_cons, namesOfEntries_cons]
        exact first.renamed.append (later.renamed.mono first.supplies.grows)
      · rw [namesOfEntries_cons, namesOfEntries_cons]
        exact first.supplies.append later.supplies

end

end ClauseFlow.Pattern

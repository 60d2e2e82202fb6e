import ClauseFlow.Proofs.Shape.Twins

/-!
# Shapes of renamed patterns

A shape does not depend on how names are spelled, only on which of them have the same number.
-/

namespace ClauseFlow.Shape

open Pattern (names namesOfAll namesOfEntries relabel relabelAll relabelEntries)

/-! ## The same numbers -/

/-- Rows with the same numbers have them piece by piece. -/
theorem Numbering.numberAll_append_inj {state state' : Numbering}
    {names names' others others' : List String} (sameLength : names.length = names'.length)
    (same : (state.numberAll (names ++ others)).1 = (state'.numberAll (names' ++ others')).1) :
    (state.numberAll names).1 = (state'.numberAll names').1 ∧
      ((state.numberAll names).2.numberAll others).1 =
        ((state'.numberAll names').2.numberAll others').1 := by
  rw [numberAll_append, numberAll_append] at same
  apply List.append_inj same
  rw [numberAll_length, numberAll_length, sameLength]

theorem Numbering.number_eq_of_numberAll {state state' : Numbering} {name name' : String}
    (same : (state.numberAll [name]).1 = (state'.numberAll [name']).1) :
    (state.number name).1 = (state'.number name').1 :=
  List.singleton_inj.mp same

variable {σ : Type} {label : String → StateM σ String}

mutual

/-- A pattern with other names has the same tree if the names have the same numbers. -/
theorem patternTree_relabel : ∀ (pattern : Pattern) (labels : σ) {state state' : Numbering},
    (state.numberAll (names pattern)).1 =
        (state'.numberAll (names ((relabel label pattern).run labels).1)).1 →
      patternTree ((relabel label pattern).run labels).1 state' = patternTree pattern state
  | .literal .., _, _, _, _ | .wildcard _, _, _, _, _ => rfl
  | .binding name span, labels, state, state', same => by
      change patternTree (.binding ((label name).run labels).1 span) state' = _
      have sameRow : (state.numberAll [name]).1 =
          (state'.numberAll [((label name).run labels).1]).1 := same
      rw [patternTree_binding, patternTree_binding, Numbering.number_eq_of_numberAll sameRow]
  | .tuple elements span, labels, _, state', same => by
      change patternTree (.tuple ((relabelAll label elements).run labels).1 span) state' = _
      rw [patternTree_tuple, patternTree_tuple, patternTrees_relabelAll elements labels same]
  | .list elements none span, labels, _, state', same => by
      change patternTree (.list ((relabelAll label elements).run labels).1 none span) state' = _
      rw [patternTree_list, patternTree_list, patternTrees_relabelAll elements labels same]
  | .list elements (some tail) span, labels, _, state', same => by
      rw [Pattern.relabel_listWithTail] at same ⊢
      rw [Pattern.names_listWithTail, Pattern.names_listWithTail] at same
      rcases Numbering.numberAll_append_inj
        (Pattern.length_namesOfAll_relabelAll elements labels).symm same with
        ⟨sameElements, sameTail⟩
      rw [patternTree_listWithTail, patternTree_listWithTail,
        patternTrees_relabelAll elements labels sameElements, patternTree_relabel tail _ sameTail]
  | .map entries span, labels, _, state', same => by
      change patternTree (.map ((relabelEntries label entries).run labels).1 span) state' = _
      rw [patternTree_map, patternTree_map, entryTrees_relabelEntries entries labels same]
  | .record tag entries span, labels, _, state', same => by
      change patternTree (.record tag ((relabelEntries label entries).run labels).1 span) state' = _
      rw [patternTree_record, patternTree_record, entryTrees_relabelEntries entries labels same]
  | .result tag inner span, labels, _, state', same => by
      change patternTree (.result tag ((relabel label inner).run labels).1 span) state' = _
      rw [patternTree_result, patternTree_result, patternTree_relabel inner labels same]
  | .named inner name span, labels, _, state', same => by
      rw [Pattern.relabel_named] at same ⊢
      rw [Pattern.names_named, Pattern.names_named] at same
      rcases Numbering.numberAll_append_inj (Pattern.length_names_relabel inner labels).symm same
        with ⟨sameInner, sameName⟩
      rw [patternTree_named, patternTree_named, patternTree_relabel inner labels sameInner,
        Numbering.number_eq_of_numberAll sameName]

theorem patternTrees_relabelAll : ∀ (patterns : List Pattern) (labels : σ)
    {state state' : Numbering},
    (state.numberAll (namesOfAll patterns)).1 =
        (state'.numberAll (namesOfAll ((relabelAll label patterns).run labels).1)).1 →
      patternTrees ((relabelAll label patterns).run labels).1 state' = patternTrees patterns state
  | [], _, _, _, _ => rfl
  | pattern :: rest, labels, _, state', same => by
      rw [Pattern.relabelAll_cons] at same ⊢
      rw [Pattern.namesOfAll_cons, Pattern.namesOfAll_cons] at same
      rcases Numbering.numberAll_append_inj (Pattern.length_names_relabel pattern labels).symm same
        with ⟨sameFirst, sameRest⟩
      rw [patternTrees_cons, patternTrees_cons, patternTree_relabel pattern labels sameFirst,
        patternTrees_relabelAll rest _ sameRest]

theorem entryTrees_relabelEntries : ∀ (entries : List (String × Pattern)) (labels : σ)
    {state state' : Numbering},
    (state.numberAll (namesOfEntries entries)).1 =
        (state'.numberAll (namesOfEntries ((relabelEntries label entries).run labels).1)).1 →
      entryTrees ((relabelEntries label entries).run labels).1 state' = entryTrees entries state
  | [], _, _, _, _ => rfl
  | (key, pattern) :: rest, labels, _, state', same => by
      rw [Pattern.relabelEntries_cons] at same ⊢
      rw [Pattern.namesOfEntries_cons, Pattern.namesOfEntries_cons] at same
      rcases Numbering.numberAll_append_inj (Pattern.length_names_relabel pattern labels).symm same
        with ⟨sameFirst, sameRest⟩
      rw [entryTrees_cons, entryTrees_cons, patternTree_relabel pattern labels sameFirst,
        entryTrees_relabelEntries rest _ sameRest]

end

/-! ## Spans and signs -/

theorem unsignConstant_unsignConstant (constant : Literal) :
    Tree.unsignConstant (Tree.unsignConstant constant) = Tree.unsignConstant constant := by
  cases constant with
  | decimal value => exact congrArg Literal.decimal (Binary64.unsignZero_unsignZero value)
  | _ => rfl

theorem typeOf_unsignConstant (constant : Literal) :
    typeOf (Tree.unsignConstant constant) = typeOf constant := by
  cases constant <;> rfl

mutual

/-- Spans and the signs of zeros are not in the tree. -/
theorem patternTree_unsigned : ∀ (pattern : Pattern) (state : Numbering),
    patternTree pattern.unsigned state = patternTree pattern state
  | .literal constant span, state => by
      rw [unsigned_literal, patternTree_literal, patternTree_literal, unsignConstant_unsignConstant,
        typeOf_unsignConstant]
  | .wildcard _, _ => rfl
  | .binding name span, state => by
      change patternTree (.binding name .generated) state = _
      rw [patternTree_binding, patternTree_binding]
  | .tuple elements span, state => by
      change patternTree (.tuple (Pattern.unsignedAll elements) .generated) state = _
      rw [patternTree_tuple, patternTree_tuple, patternTrees_unsignedAll elements]
  | .list elements none span, state => by
      change patternTree (.list (Pattern.unsignedAll elements) none .generated) state = _
      rw [patternTree_list, patternTree_list, patternTrees_unsignedAll elements]
  | .list elements (some tail) span, state => by
      change patternTree (.list (Pattern.unsignedAll elements) (some tail.unsigned) .generated)
        state = _
      rw [patternTree_listWithTail, patternTree_listWithTail, patternTrees_unsignedAll elements,
        Pattern.namesOfAll_unsignedAll, patternTree_unsigned tail]
  | .map entries span, state => by
      change patternTree (.map (Pattern.unsignedEntries entries) .generated) state = _
      rw [patternTree_map, patternTree_map, entryTrees_unsignedEntries entries]
  | .record tag entries span, state => by
      change patternTree (.record tag (Pattern.unsignedEntries entries) .generated) state = _
      rw [patternTree_record, patternTree_record, entryTrees_unsignedEntries entries]
  | .result tag inner span, state => by
      change patternTree (.result tag inner.unsigned .generated) state = _
      rw [patternTree_result, patternTree_result, patternTree_unsigned inner]
  | .named inner name span, state => by
      change patternTree (.named inner.unsigned name .generated) state = _
      rw [patternTree_named, patternTree_named, patternTree_unsigned inner,
        Pattern.names_unsigned]

theorem patternTrees_unsignedAll : ∀ (patterns : List Pattern) (state : Numbering),
    patternTrees (Pattern.unsignedAll patterns) state = patternTrees patterns state
  | [], _ => rfl
  | pattern :: rest, state => by
      change patternTrees (pattern.unsigned :: Pattern.unsignedAll rest) state = _
      rw [patternTrees_cons, patternTrees_cons, patternTree_unsigned pattern,
        Pattern.names_unsigned, patternTrees_unsignedAll rest]

theorem entryTrees_unsignedEntries : ∀ (entries : List (String × Pattern)) (state : Numbering),
    entryTrees (Pattern.unsignedEntries entries) state = entryTrees entries state
  | [], _ => rfl
  | (key, pattern) :: rest, state => by
      change entryTrees ((key, pattern.unsigned) :: Pattern.unsignedEntries rest) state = _
      rw [entryTrees_cons, entryTrees_cons, patternTree_unsigned pattern,
        Pattern.names_unsigned, entryTrees_unsignedEntries rest]

end

end ClauseFlow.Shape

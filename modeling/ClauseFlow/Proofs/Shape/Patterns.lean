import ClauseFlow.Proofs.Number.Zeros
import ClauseFlow.Proofs.Pattern.Relabelling
import ClauseFlow.Proofs.Shape.Numbering

/-!
# Patterns of one shape

Patterns of one shape take values apart in the same way, and number their names in the same way. So
they fit the same values, and names with the same number are then bound to the same value.
-/

namespace ClauseFlow.Shape

/-! ## Steps of numbering -/

section

variable {α β : Type}

theorem Numbered.pure_apply (value : α) (state : Numbering) :
    (pure value : Numbered α) state = (value, state) := rfl

theorem Numbered.bind_apply (first : Numbered α) (next : α → Numbered β) (state : Numbering) :
    (first >>= next) state = next (first.run state).1 (first.run state).2 := rfl

end

/-! ## Names of a pattern in a numbering -/

open Pattern (names namesOfAll namesOfEntries)

mutual

/-- The shape of a pattern numbers its names in a row. -/
theorem ofPattern_snd : ∀ (pattern : Pattern) (state : Numbering),
    ((ofPattern pattern).run state).2 = (state.numberAll (names pattern)).2
  | .literal .., _ | .wildcard _, _ => rfl
  | .binding name _, state => by
      change (variableOf name state).2 = (state.number name).2
      rw [variableOf_apply]
  | .tuple elements _, state | .list elements none _, state => ofPatterns_snd elements state
  | .list elements (some tail) _, state => by
      rw [Pattern.names_listWithTail, Numbering.numberAll_append, ← ofPatterns_snd elements]
      exact ofPattern_snd tail _
  | .map entries _, state | .record _ entries _, state => ofPatternEntries_snd entries state
  | .result _ inner _, state => ofPattern_snd inner state
  | .named inner name _, state => by
      rw [Pattern.names_named, Numbering.numberAll_append, ← ofPattern_snd inner]
      change (variableOf name _).2 = (Numbering.number _ name).2
      rw [variableOf_apply]
      rfl

theorem ofPatterns_snd : ∀ (patterns : List Pattern) (state : Numbering),
    ((ofPatterns patterns).run state).2 = (state.numberAll (namesOfAll patterns)).2
  | [], _ => rfl
  | pattern :: rest, state => by
      rw [Pattern.namesOfAll_cons, Numbering.numberAll_append, ← ofPattern_snd pattern]
      exact ofPatterns_snd rest _

theorem ofPatternEntries_snd : ∀ (entries : List (String × Pattern)) (state : Numbering),
    ((ofPatternEntries entries).run state).2 = (state.numberAll (namesOfEntries entries)).2
  | [], _ => rfl
  | (key, pattern) :: rest, state => by
      rw [Pattern.namesOfEntries_cons, Numbering.numberAll_append, ← ofPattern_snd pattern]
      exact ofPatternEntries_snd rest _

end

/-! ## Equal shapes -/

/-- A constant fits the same values if the sign of a zero is forgotten. -/
theorem fitsLiteral_unsignConstant (constant : Literal) (value : Value) :
    Value.fitsLiteral (Tree.unsignConstant constant) value = Value.fitsLiteral constant value := by
  cases constant with
  | decimal number =>
      cases value with
      | decimal number' =>
          change Value.Number.equal (.decimal number.unsignZero) (.decimal number') =
            Value.Number.equal (.decimal number) (.decimal number')
          exact congrArg (fun order => decide (order = some Ordering.eq))
            (Binary64.compare?_unsignZero number number')
      | _ => rfl
  | _ => rfl

/-- The tree of a pattern in a numbering, as shapes are compared. -/
def patternTree (pattern : Pattern) (state : Numbering) : Tree :=
  ((ofPattern pattern).run state).1.unsigned

def patternTrees (patterns : List Pattern) (state : Numbering) : List Tree :=
  Tree.unsignedAll ((ofPatterns patterns).run state).1

def entryTrees (entries : List (String × Pattern)) (state : Numbering) : List Tree :=
  Tree.unsignedAll ((ofPatternEntries entries).run state).1

section

variable (state : Numbering) (span : Span)

@[simp] theorem patternTree_literal (constant : Literal) :
    patternTree (.literal constant span) state =
      .branch [.word "lit", .word (typeOf constant), .constant (Tree.unsignConstant constant)] :=
  rfl

@[simp] theorem patternTree_wildcard :
    patternTree (.wildcard span) state = .branch [.word "_"] := rfl

@[simp] theorem patternTree_binding (name : String) :
    patternTree (.binding name span) state =
      .branch [.word "var", .integer (state.number name).1] := by
  change (variableOf name state).1.unsigned = _
  rw [variableOf_apply]
  rfl

@[simp] theorem patternTree_tuple (elements : List Pattern) :
    patternTree (.tuple elements span) state =
      .branch [.word "tuple", .branch (patternTrees elements state)] := rfl

@[simp] theorem patternTree_list (elements : List Pattern) :
    patternTree (.list elements none span) state =
      .branch [.word "list", .branch (patternTrees elements state), .absent] := rfl

@[simp] theorem patternTree_listWithTail (elements : List Pattern) (tail : Pattern) :
    patternTree (.list elements (some tail) span) state =
      .branch [.word "list", .branch (patternTrees elements state),
        patternTree tail (state.numberAll (namesOfAll elements)).2] := by
  rw [← ofPatterns_snd]
  rfl

@[simp] theorem patternTree_map (entries : List (String × Pattern)) :
    patternTree (.map entries span) state =
      .branch [.word "map", .branch (entryTrees entries state)] := rfl

@[simp] theorem patternTree_record (tag : String) (entries : List (String × Pattern)) :
    patternTree (.record tag entries span) state =
      .branch [.word "record", .word tag, .branch (entryTrees entries state)] := rfl

@[simp] theorem patternTree_result (tag : ResultTag) (inner : Pattern) :
    patternTree (.result tag inner span) state =
      .branch [.word "result", .word tag.text, patternTree inner state] := rfl

@[simp] theorem patternTree_named (inner : Pattern) (name : String) :
    patternTree (.named inner name span) state =
      .branch [.word "alias", patternTree inner state,
        .branch [.word "var", .integer ((state.numberAll (names inner)).2.number name).1]] := by
  rw [← ofPattern_snd]
  change Tree.branch [_, _, (variableOf name _).1.unsigned] = _
  rw [variableOf_apply]
  rfl

@[simp] theorem patternTrees_nil : patternTrees [] state = [] := rfl

@[simp] theorem patternTrees_cons (pattern : Pattern) (rest : List Pattern) :
    patternTrees (pattern :: rest) state =
      patternTree pattern state :: patternTrees rest (state.numberAll (names pattern)).2 := by
  rw [← ofPattern_snd]
  rfl

@[simp] theorem entryTrees_nil : entryTrees [] state = [] := rfl

@[simp] theorem entryTrees_cons (key : String) (pattern : Pattern)
    (rest : List (String × Pattern)) :
    entryTrees ((key, pattern) :: rest) state =
      .branch [.word key, patternTree pattern state] ::
        entryTrees rest (state.numberAll (names pattern)).2 := by
  rw [← ofPattern_snd]
  rfl

end

theorem unsigned_literal (constant : Literal) (span : Span) :
    (Pattern.literal constant span).unsigned =
      .literal (Tree.unsignConstant constant) .generated := by
  cases constant <;> rfl

/-- Whether two patterns number their names alike, take every value apart alike, and differ in their
names, their spans and the signs of zeros only. -/
structure Alike (pattern pattern' : Pattern) (state state' : Numbering) : Prop where
  numbers : (state.numberAll (names pattern)).1 = (state'.numberAll (names pattern')).1
  parts : ∀ value, Pattern.parts pattern value = Pattern.parts pattern' value
  turned : ∀ respell, (names pattern).map respell = names pattern' →
    (pattern.rename respell).unsigned = pattern'.unsigned

structure AllAlike (patterns patterns' : List Pattern) (state state' : Numbering) : Prop where
  numbers : (state.numberAll (namesOfAll patterns)).1 = (state'.numberAll (namesOfAll patterns')).1
  length : patterns.length = patterns'.length
  parts : ∀ values, Pattern.partsOfAll patterns values = Pattern.partsOfAll patterns' values
  turned : ∀ respell, (namesOfAll patterns).map respell = namesOfAll patterns' →
    Pattern.unsignedAll (Pattern.renameAll respell patterns) = Pattern.unsignedAll patterns'

structure EntriesAlike (entries entries' : List (String × Pattern)) (state state' : Numbering) :
    Prop where
  numbers :
    (state.numberAll (namesOfEntries entries)).1 = (state'.numberAll (namesOfEntries entries')).1
  parts : ∀ values, Pattern.partsOfEntries entries values = Pattern.partsOfEntries entries' values
  turned : ∀ respell, (namesOfEntries entries).map respell = namesOfEntries entries' →
    Pattern.unsignedEntries (Pattern.renameEntries respell entries) =
      Pattern.unsignedEntries entries'

variable {state state' : Numbering}

/-- Two rows with the same numbers are turned into each other piece by piece. -/
theorem map_eq_of_append {names names' others others' : List String}
    (sameNumbers : (state.numberAll names).1 = (state'.numberAll names').1)
    {respell : String → String} (turned : (names ++ others).map respell = names' ++ others') :
    names.map respell = names' ∧ others.map respell = others' := by
  rw [List.map_append] at turned
  apply List.append_inj turned
  rw [List.length_map]
  exact Numbering.length_eq_of_numberAll sameNumbers

theorem patternTree_ne_absent (pattern : Pattern) (state : Numbering) :
    patternTree pattern state ≠ .absent := by
  cases pattern with
  | list elements tail => cases tail <;> simp
  | _ => simp

theorem tag_eq_of_text_eq {tag tag' : ResultTag} (same : tag.text = tag'.text) : tag = tag' := by
  cases tag <;> cases tag' <;> first | rfl | (simp [ResultTag.text] at same)

mutual

/-- Patterns of one shape are alike. -/
theorem alike_of_tree_eq : ∀ {pattern pattern' : Pattern} {state state' : Numbering},
    patternTree pattern state = patternTree pattern' state' → Alike pattern pattern' state state'
  | .literal constant _, pattern', _, _, same => by
      cases pattern' with
      | literal constant' =>
          simp only [patternTree_literal, Tree.branch.injEq, List.cons.injEq,
            Tree.constant.injEq, true_and, and_true] at same
          refine ⟨rfl, fun value => ?_, fun respell _ => ?_⟩
          · simp only [Pattern.parts]
            rw [← fitsLiteral_unsignConstant constant, same.2, fitsLiteral_unsignConstant]
          · rw [unsigned_literal constant', ← same.2]
            exact unsigned_literal constant _
      | list elements' tail' => cases tail' <;> simp at same
      | _ => simp at same
  | .wildcard _, pattern', _, _, same => by
      cases pattern' with
      | wildcard => exact ⟨rfl, fun value => rfl, fun respell _ => rfl⟩
      | list elements' tail' => cases tail' <;> simp at same
      | _ => simp at same
  | .binding name _, pattern', _, _, same => by
      cases pattern' with
      | binding name' =>
          simp only [patternTree_binding, Tree.branch.injEq, List.cons.injEq, Tree.integer.injEq,
            true_and, and_true] at same
          refine ⟨?_, fun value => rfl, fun respell turned => ?_⟩
          · exact congrArg (fun number => [number]) (Int.ofNat_inj.mp same)
          · exact congrArg (Pattern.binding · .generated) (List.singleton_inj.mp turned)
      | list elements' tail' => cases tail' <;> simp at same
      | _ => simp at same
  | .tuple elements _, pattern', _, _, same => by
      cases pattern' with
      | tuple elements' =>
          simp only [patternTree_tuple, Tree.branch.injEq, List.cons.injEq, true_and, and_true]
            at same
          have alike := allAlike_of_trees_eq same
          refine ⟨alike.numbers, fun value => ?_, fun respell turned => ?_⟩
          · cases value with
            | tuple values => exact alike.parts values
            | _ => rfl
          · exact congrArg (Pattern.tuple · .generated) (alike.turned respell turned)
      | list elements' tail' => cases tail' <;> simp at same
      | _ => simp at same
  | .list elements none _, pattern', _, _, same => by
      cases pattern' with
      | list elements' tail' =>
          cases tail' with
          | none =>
              simp only [patternTree_list, Tree.branch.injEq, List.cons.injEq, true_and,
                and_true] at same
              have alike := allAlike_of_trees_eq same
              refine ⟨alike.numbers, fun value => ?_, fun respell turned => ?_⟩
              · cases value with
                | list values => exact alike.parts values
                | _ => rfl
              · exact congrArg (Pattern.list · none .generated) (alike.turned respell turned)
          | some tail' => simp [(patternTree_ne_absent tail' _).symm] at same
      | _ => simp at same
  | .list elements (some tail) _, pattern', _, _, same => by
      cases pattern' with
      | list elements' tail' =>
          cases tail' with
          | none => simp [patternTree_ne_absent tail _] at same
          | some tail' =>
              simp only [patternTree_listWithTail, Tree.branch.injEq, List.cons.injEq, true_and,
                and_true] at same
              have alike := allAlike_of_trees_eq same.1
              have tailAlike := alike_of_tree_eq same.2
              refine ⟨?_, fun value => ?_, fun respell turned => ?_⟩
              · rw [Pattern.names_listWithTail, Pattern.names_listWithTail,
                  Numbering.numberAll_append, Numbering.numberAll_append, alike.numbers,
                  tailAlike.numbers]
              · cases value with
                | list values =>
                    simp only [Pattern.parts, alike.length, alike.parts, tailAlike.parts]
                | _ => rfl
              · rw [Pattern.names_listWithTail, Pattern.names_listWithTail] at turned
                rcases map_eq_of_append alike.numbers turned with ⟨turnedFirst, turnedTail⟩
                exact congrArg₂ (fun elements tail => Pattern.list elements (some tail) .generated)
                  (alike.turned respell turnedFirst) (tailAlike.turned respell turnedTail)
      | _ => simp at same
  | .map entries _, pattern', _, _, same => by
      cases pattern' with
      | map entries' =>
          simp only [patternTree_map, Tree.branch.injEq, List.cons.injEq, true_and, and_true]
            at same
          have alike := entriesAlike_of_trees_eq same
          refine ⟨alike.numbers, fun value => ?_, fun respell turned => ?_⟩
          · simp only [Pattern.parts, alike.parts]
          · exact congrArg (Pattern.map · .generated) (alike.turned respell turned)
      | list elements' tail' => cases tail' <;> simp at same
      | _ => simp at same
  | .record tag entries _, pattern', _, _, same => by
      cases pattern' with
      | record tag' entries' =>
          simp only [patternTree_record, Tree.branch.injEq, List.cons.injEq, Tree.word.injEq,
            true_and, and_true] at same
          have alike := entriesAlike_of_trees_eq same.2
          refine ⟨alike.numbers, fun value => ?_, fun respell turned => ?_⟩
          · cases value with
            | record => simp only [Pattern.parts, alike.parts, same.1]
            | _ => rfl
          · exact congrArg₂ (Pattern.record · · .generated) same.1 (alike.turned respell turned)
      | list elements' tail' => cases tail' <;> simp at same
      | _ => simp at same
  | .result tag inner _, pattern', _, _, same => by
      cases pattern' with
      | result tag' inner' =>
          simp only [patternTree_result, Tree.branch.injEq, List.cons.injEq, Tree.word.injEq,
            true_and, and_true] at same
          have alike := alike_of_tree_eq same.2
          refine ⟨alike.numbers, fun value => ?_, fun respell turned => ?_⟩
          · cases value with
            | result => simp only [Pattern.parts, alike.parts, tag_eq_of_text_eq same.1]
            | _ => rfl
          · exact congrArg₂ (Pattern.result · · .generated) (tag_eq_of_text_eq same.1)
              (alike.turned respell turned)
      | list elements' tail' => cases tail' <;> simp at same
      | _ => simp at same
  | .named inner name _, pattern', _, _, same => by
      cases pattern' with
      | named inner' name' =>
          simp only [patternTree_named, Tree.branch.injEq, List.cons.injEq, Tree.integer.injEq,
            true_and, and_true] at same
          have alike := alike_of_tree_eq same.1
          refine ⟨?_, fun value => ?_, fun respell turned => ?_⟩
          · rw [Pattern.names_named, Pattern.names_named, Numbering.numberAll_append,
              Numbering.numberAll_append, alike.numbers]
            exact congrArg (fun number => _ ++ [number]) (Int.ofNat_inj.mp same.2)
          · simp only [Pattern.parts, alike.parts]
          · rw [Pattern.names_named, Pattern.names_named] at turned
            rcases map_eq_of_append alike.numbers turned with ⟨turnedInner, turnedName⟩
            exact congrArg₂ (Pattern.named · · .generated) (alike.turned respell turnedInner)
              (List.singleton_inj.mp turnedName)
      | list elements' tail' => cases tail' <;> simp at same
      | _ => simp at same

theorem allAlike_of_trees_eq : ∀ {patterns patterns' : List Pattern} {state state' : Numbering},
    patternTrees patterns state = patternTrees patterns' state' →
      AllAlike patterns patterns' state state'
  | [], patterns', _, _, same => by
      cases patterns' with
      | nil => exact ⟨rfl, rfl, fun values => rfl, fun respell _ => rfl⟩
      | cons => simp at same
  | pattern :: rest, patterns', _, _, same => by
      cases patterns' with
      | nil => simp at same
      | cons pattern' rest' =>
          simp only [patternTrees_cons, List.cons.injEq] at same
          have alike := alike_of_tree_eq same.1
          have restAlike := allAlike_of_trees_eq same.2
          refine ⟨?_, ?_, fun values => ?_, fun respell turned => ?_⟩
          · rw [Pattern.namesOfAll_cons, Pattern.namesOfAll_cons, Numbering.numberAll_append,
              Numbering.numberAll_append, alike.numbers, restAlike.numbers]
          · rw [List.length_cons, List.length_cons, restAlike.length]
          · cases values with
            | nil => rfl
            | cons => simp only [Pattern.partsOfAll, alike.parts, restAlike.parts]
          · rw [Pattern.namesOfAll_cons, Pattern.namesOfAll_cons] at turned
            rcases map_eq_of_append alike.numbers turned with ⟨turnedFirst, turnedRest⟩
            exact congrArg₂ List.cons (alike.turned respell turnedFirst)
              (restAlike.turned respell turnedRest)

theorem entriesAlike_of_trees_eq : ∀ {entries entries' : List (String × Pattern)}
    {state state' : Numbering}, entryTrees entries state = entryTrees entries' state' →
      EntriesAlike entries entries' state state'
  | [], entries', _, _, same => by
      cases entries' with
      | nil => exact ⟨rfl, fun values => rfl, fun respell _ => rfl⟩
      | cons entry' rest' =>
          rcases entry' with ⟨key', pattern'⟩
          simp at same
  | (key, pattern) :: rest, entries', _, _, same => by
      cases entries' with
      | nil => simp at same
      | cons entry' rest' =>
          rcases entry' with ⟨key', pattern'⟩
          simp only [entryTrees_cons, List.cons.injEq, Tree.branch.injEq, Tree.word.injEq,
            and_true] at same
          rcases same with ⟨⟨rfl, sameFirst⟩, sameRest⟩
          have alike := alike_of_tree_eq sameFirst
          have restAlike := entriesAlike_of_trees_eq sameRest
          refine ⟨?_, fun values => ?_, fun respell turned => ?_⟩
          · rw [Pattern.namesOfEntries_cons, Pattern.namesOfEntries_cons,
              Numbering.numberAll_append, Numbering.numberAll_append, alike.numbers,
              restAlike.numbers]
          · simp only [Pattern.partsOfEntries, alike.parts, restAlike.parts]
          · rw [Pattern.namesOfEntries_cons, Pattern.namesOfEntries_cons] at turned
            rcases map_eq_of_append alike.numbers turned with ⟨turnedFirst, turnedRest⟩
            exact congrArg₂ (fun first later => (key, first) :: later)
              (alike.turned respell turnedFirst) (restAlike.turned respell turnedRest)

end

end ClauseFlow.Shape

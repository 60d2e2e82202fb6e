import Mathlib.Data.List.Induction
import ClauseFlow.Proofs.Pattern.Parts

/-!
# What it means to fit

Whether a pattern fits a value is a matter of structure alone, and says which value each name in the
pattern meets. Matching answers if and only if everything fits and each name that is not anonymous
meets values that are strictly equal to the first one. It then lists these names in the order in
which they first occur, each with the first value that it met.
-/

namespace ClauseFlow

/-- Whether a value is the one that a constant asks for. Each type has constants of its own: no
truth value is a number, and no integer is a decimal number. -/
inductive Literal.Accepts : Literal → Value → Prop where
  | nil : Accepts .nil .nil
  | boolean (value : Bool) : Accepts (.boolean value) (.boolean value)
  | integer (value : Int) : Accepts (.integer value) (.integer value)
  | decimal {value value' : Binary64} : value.compare? value' = some .eq →
      Accepts (.decimal value) (.decimal value')
  | text (value : String) : Accepts (.text value) (.text value)
  | atom (name : String) : Accepts (.atom name) (.atom name)

theorem Value.fitsLiteral_iff {constant : Literal} {value : Value} :
    Value.fitsLiteral constant value = true ↔ constant.Accepts value := by
  constructor
  · intro fits
    cases constant <;> cases value <;>
      simp only [fitsLiteral, ofLiteral, equal, Number.equal, Number.compare?, Bool.not_true,
        Bool.false_and, Bool.false_eq_true, decide_eq_true_eq] at fits
    case nil.nil => exact .nil
    case boolean.boolean => exact fits ▸ .boolean _
    case integer.integer => exact fits ▸ .integer _
    case decimal.decimal => exact .decimal (of_decide_eq_true fits)
    case text.text => exact fits ▸ .text _
    case atom.atom => exact fits ▸ .atom _
  · intro accepts
    cases accepts with
    | decimal same => exact decide_eq_true same
    | _ => simp [fitsLiteral, ofLiteral, equal]

namespace Pattern

/-- Names at their places, each with the value that it meets there. -/
abbrev Meetings := List (Identifier × Value)

mutual

/-- Whether a pattern fits a value by its structure, and what each name in it meets. -/
inductive Fits : Pattern → Value → Meetings → Prop where
  | wildcard (span : Span) (value : Value) : Fits (.wildcard span) value []
  | binding (name : String) (span : Span) (value : Value) :
      Fits (.binding name span) value [(⟨name, span⟩, value)]
  | literal {constant : Literal} {value : Value} (span : Span) :
      constant.Accepts value → Fits (.literal constant span) value []
  | tuple {patterns : List Pattern} {values : List Value} {met : Meetings} (span : Span) :
      FitsAll patterns values met → Fits (.tuple patterns span) (.tuple values) met
  | list {patterns : List Pattern} {values : List Value} {met : Meetings} (span : Span) :
      FitsAll patterns values met → Fits (.list patterns none span) (.list values) met
  /-- The tail takes what the elements leave over. -/
  | listWithTail {patterns : List Pattern} {tail : Pattern} {front rest : List Value}
      {met metRest : Meetings} (span : Span) :
      FitsAll patterns front met → Fits tail (.list rest) metRest →
      Fits (.list patterns (some tail) span) (.list (front ++ rest)) (met ++ metRest)
  | map {patterns : List (String × Pattern)} {entries : Value.Entries} {met : Meetings}
      (span : Span) :
      FitsEntries patterns entries met → Fits (.map patterns span) (.map entries) met
  /-- A record is a map to a pattern that asks for no tag. -/
  | mapOfRecord {patterns : List (String × Pattern)} {entries : Value.Entries} {met : Meetings}
      (tag : String) (span : Span) :
      FitsEntries patterns entries met → Fits (.map patterns span) (.record tag entries) met
  | record {patterns : List (String × Pattern)} {entries : Value.Entries} {met : Meetings}
      (tag : String) (span : Span) :
      FitsEntries patterns entries met → Fits (.record tag patterns span) (.record tag entries) met
  | result {inner : Pattern} {value : Value} {met : Meetings} (tag : ResultTag) (span : Span) :
      Fits inner value met → Fits (.result tag inner span) (.result tag value) met
  /-- The name for a whole meets it after the names inside. -/
  | named {inner : Pattern} {value : Value} {met : Meetings} (name : String) (span : Span) :
      Fits inner value met →
      Fits (.named inner name span) value (met ++ [(⟨name, span⟩, value)])

/-- Whether there are as many patterns as values, and each fits its own. -/
inductive FitsAll : List Pattern → List Value → Meetings → Prop where
  | nil : FitsAll [] [] []
  | cons {pattern : Pattern} {rest : List Pattern} {value : Value} {values : List Value}
      {met metRest : Meetings} :
      Fits pattern value met → FitsAll rest values metRest →
      FitsAll (pattern :: rest) (value :: values) (met ++ metRest)

/-- Whether all keys are there, and each pattern fits what its key is mapped to. -/
inductive FitsEntries : List (String × Pattern) → Value.Entries → Meetings → Prop where
  | nil (entries : Value.Entries) : FitsEntries [] entries []
  | cons {key : String} {pattern : Pattern} {rest : List (String × Pattern)}
      {entries : Value.Entries} {value : Value} {met metRest : Meetings} :
      Value.field? key entries = some value → Fits pattern value met →
      FitsEntries rest entries metRest →
      FitsEntries ((key, pattern) :: rest) entries (met ++ metRest)

end

theorem FitsAll.length_eq : ∀ {patterns : List Pattern} {values : List Value} {met : Meetings},
    FitsAll patterns values met → patterns.length = values.length
  | _, _, _, .nil => rfl
  | _, _, _, .cons _ others => congrArg Nat.succ others.length_eq

/-! ## The names that are met -/

mutual

/-- The names that meet values are those that a pattern introduces, in the same order. -/
theorem Fits.bindings_eq : ∀ {pattern : Pattern} {value : Value} {met : Meetings},
    Fits pattern value met → met.map (·.1) = bindings pattern
  | _, _, _, .wildcard .. | _, _, _, .binding .. | _, _, _, .literal .. => rfl
  | _, _, _, .tuple _ each | _, _, _, .list _ each => each.bindings_eq
  | _, _, _, .listWithTail _ each rest => by
      rw [List.map_append, each.bindings_eq, rest.bindings_eq, bindings]
  | _, _, _, .map _ each | _, _, _, .mapOfRecord _ _ each | _, _, _, .record _ _ each =>
      each.bindings_eq
  | _, _, _, .result _ _ inside => inside.bindings_eq
  | _, _, _, .named _ _ inside => by
      rw [List.map_append, inside.bindings_eq, bindings]
      rfl

theorem FitsAll.bindings_eq : ∀ {patterns : List Pattern} {values : List Value} {met : Meetings},
    FitsAll patterns values met → met.map (·.1) = bindingsOfAll patterns
  | _, _, _, .nil => rfl
  | _, _, _, .cons here others => by
      rw [List.map_append, here.bindings_eq, others.bindings_eq, bindingsOfAll]

theorem FitsEntries.bindings_eq : ∀ {patterns : List (String × Pattern)} {entries : Value.Entries}
    {met : Meetings}, FitsEntries patterns entries met → met.map (·.1) = bindingsOfEntries patterns
  | _, _, _, .nil _ => rfl
  | _, _, _, .cons _ here others => by
      rw [List.map_append, here.bindings_eq, others.bindings_eq, bindingsOfEntries]

end

/-! ## Fitting and taking apart -/

theorem parts_listWithTail {patterns : List Pattern} {front : List Value}
    (sameLength : patterns.length = front.length) (tail : Pattern) (rest : List Value)
    (span : Span) :
    parts (.list patterns (some tail) span) (.list (front ++ rest)) =
      (partsOfAll patterns front).bind fun first =>
        (parts tail (.list rest)).bind fun later => some (first ++ later) := by
  have enough : ¬(front ++ rest).length < patterns.length := by
    rw [List.length_append]
    omega
  rw [parts, if_neg enough, sameLength, List.take_left, List.drop_left]
  rfl

mutual

/-- A value that a pattern fits is taken apart into the values that are met. -/
theorem Fits.parts_eq : ∀ {pattern : Pattern} {value : Value} {met : Meetings},
    Fits pattern value met → parts pattern value = some (met.map (·.2))
  | _, _, _, .wildcard .. | _, _, _, .binding .. => rfl
  | _, _, _, .literal _ accepts => if_pos (Value.fitsLiteral_iff.mpr accepts)
  | _, _, _, .tuple _ each | _, _, _, .list _ each => each.parts_eq
  | _, _, _, .listWithTail _ each later => by
      rw [parts_listWithTail each.length_eq, each.parts_eq, later.parts_eq, List.map_append]
      rfl
  | _, _, _, .map _ each | _, _, _, .mapOfRecord _ _ each => each.parts_eq
  | _, _, _, .record _ _ each => by
      rw [parts, if_pos rfl]
      exact each.parts_eq
  | _, _, _, .result _ _ inside => by
      rw [parts, if_pos rfl]
      exact inside.parts_eq
  | _, _, _, .named _ _ inside => by
      rw [parts, inside.parts_eq, List.map_append]
      rfl

theorem FitsAll.parts_eq : ∀ {patterns : List Pattern} {values : List Value} {met : Meetings},
    FitsAll patterns values met → partsOfAll patterns values = some (met.map (·.2))
  | _, _, _, .nil => rfl
  | _, _, _, .cons here others => by
      rw [partsOfAll, here.parts_eq, others.parts_eq, List.map_append]
      rfl

theorem FitsEntries.parts_eq : ∀ {patterns : List (String × Pattern)} {entries : Value.Entries}
    {met : Meetings}, FitsEntries patterns entries met →
      partsOfEntries patterns entries = some (met.map (·.2))
  | _, _, _, .nil _ => rfl
  | _, _, _, .cons found here others => by
      rw [partsOfEntries, found, Option.bind_eq_bind, Option.bind_some, here.parts_eq,
        others.parts_eq, List.map_append]
      rfl

end

mutual

/-- A pattern fits each value that it takes apart. -/
theorem exists_fits_of_parts : ∀ {pattern : Pattern} {value : Value} {values : List Value},
    parts pattern value = some values → ∃ met, Fits pattern value met
  | .wildcard span, value, _, _ => ⟨_, .wildcard span value⟩
  | .binding name span, value, _, _ => ⟨_, .binding name span value⟩
  | .literal constant span, value, _, taken => by
      simp only [parts] at taken
      split at taken
      · exact ⟨_, .literal span (Value.fitsLiteral_iff.mp ‹_›)⟩
      · cases taken
  | .tuple patterns span, value, _, taken => by
      cases value with
      | tuple elements =>
          obtain ⟨met, each⟩ := exists_fitsAll_of_parts taken
          exact ⟨met, .tuple span each⟩
      | _ => cases taken
  | .list patterns none span, value, _, taken => by
      cases value with
      | list elements =>
          obtain ⟨met, each⟩ := exists_fitsAll_of_parts taken
          exact ⟨met, .list span each⟩
      | _ => cases taken
  | .list patterns (some tail) span, value, _, taken => by
      cases value with
      | list elements =>
          simp only [parts] at taken
          split at taken
          · cases taken
          · obtain ⟨first, takenFirst, taken⟩ := Option.bind_eq_some_iff.mp taken
            obtain ⟨rest, takenRest, _⟩ := Option.bind_eq_some_iff.mp taken
            obtain ⟨met, each⟩ := exists_fitsAll_of_parts takenFirst
            obtain ⟨metRest, later⟩ := exists_fits_of_parts takenRest
            have whole := Fits.listWithTail span each later
            rw [List.take_append_drop] at whole
            exact ⟨_, whole⟩
      | _ => cases taken
  | .map patterns span, value, _, taken => by
      simp only [parts] at taken
      obtain ⟨entries, found, taken⟩ := Option.bind_eq_some_iff.mp taken
      obtain ⟨met, each⟩ := exists_fitsEntries_of_parts taken
      cases value with
      | map entries' =>
          cases found
          exact ⟨met, .map span each⟩
      | record tag entries' =>
          cases found
          exact ⟨met, .mapOfRecord tag span each⟩
      | _ => cases found
  | .record tag patterns span, value, _, taken => by
      cases value with
      | record tag' entries =>
          simp only [parts] at taken
          split at taken
          · rename_i same
            obtain ⟨met, each⟩ := exists_fitsEntries_of_parts taken
            exact ⟨met, same ▸ .record tag span each⟩
          · cases taken
      | _ => cases taken
  | .result tag inner span, value, _, taken => by
      cases value with
      | result tag' payload =>
          simp only [parts] at taken
          split at taken
          · rename_i same
            obtain ⟨met, inside⟩ := exists_fits_of_parts taken
            exact ⟨met, same ▸ .result tag span inside⟩
          · cases taken
      | _ => cases taken
  | .named inner name span, value, _, taken => by
      simp only [parts] at taken
      obtain ⟨first, takenFirst, _⟩ := Option.bind_eq_some_iff.mp taken
      obtain ⟨met, inside⟩ := exists_fits_of_parts takenFirst
      exact ⟨_, .named name span inside⟩

theorem exists_fitsAll_of_parts : ∀ {patterns : List Pattern} {elements values : List Value},
    partsOfAll patterns elements = some values → ∃ met, FitsAll patterns elements met
  | [], elements, _, taken => by
      cases elements with
      | nil => exact ⟨[], .nil⟩
      | cons => cases taken
  | pattern :: rest, elements, _, taken => by
      cases elements with
      | nil => cases taken
      | cons element others =>
          simp only [partsOfAll] at taken
          obtain ⟨first, takenFirst, taken⟩ := Option.bind_eq_some_iff.mp taken
          obtain ⟨later, takenLater, _⟩ := Option.bind_eq_some_iff.mp taken
          obtain ⟨met, here⟩ := exists_fits_of_parts takenFirst
          obtain ⟨metRest, each⟩ := exists_fitsAll_of_parts takenLater
          exact ⟨_, .cons here each⟩

theorem exists_fitsEntries_of_parts : ∀ {patterns : List (String × Pattern)}
    {entries : Value.Entries} {values : List Value},
    partsOfEntries patterns entries = some values → ∃ met, FitsEntries patterns entries met
  | [], entries, _, _ => ⟨[], .nil entries⟩
  | (key, pattern) :: rest, entries, _, taken => by
      simp only [partsOfEntries] at taken
      obtain ⟨value, found, taken⟩ := Option.bind_eq_some_iff.mp taken
      obtain ⟨first, takenFirst, taken⟩ := Option.bind_eq_some_iff.mp taken
      obtain ⟨later, takenLater, _⟩ := Option.bind_eq_some_iff.mp taken
      obtain ⟨met, here⟩ := exists_fits_of_parts takenFirst
      obtain ⟨metRest, each⟩ := exists_fitsEntries_of_parts takenLater
      exact ⟨_, .cons found here each⟩

end

end Pattern

/-! ## Listing first meetings -/

namespace Bindings

/-- Whether each name that is not anonymous meets only values that are strictly equal to the first
one. -/
def Agree (pairs : List (String × Value)) : Prop :=
  ∀ name, isAnonymous name = false → ∀ first later, valuesOf pairs name = first :: later →
    ∀ value ∈ later, Value.equal true first value = true

theorem agree_iff {pairs : List (String × Value)} :
    Agree pairs ↔ ∀ name, isAnonymous name = false → Admits none (valuesOf pairs name) := by
  apply forall_congr'
  intro name
  apply imp_congr_right
  intro _
  cases valuesOf pairs name with
  | nil => simp [Admits]
  | cons first later =>
      constructor
      · intro agrees
        exact admits_some_of_forall (agrees first later rfl)
      · intro admits _ _ same value member
        cases same
        exact Admits.equal_of_mem admits member

/-- Whether bindings list the names of a row that are not anonymous, in the order in which they
first occur, each with its first value. -/
structure ListsFirst (bindings : Bindings) (pairs : List (String × Value)) : Prop where
  names : bindings.map (·.1) = ((pairs.map (·.1)).filter fun name => !isAnonymous name).eraseDups
  values : ∀ pair ∈ bindings, (valuesOf pairs pair.1).head? = some pair.2

namespace ListsFirst

variable {bindings extended : Bindings} {pairs : List (String × Value)} {name : String}
  {value : Value}

/-- Later pairs do not change what came first. -/
theorem head?_append (lists : ListsFirst bindings pairs) (pairs' : List (String × Value)) :
    ∀ pair ∈ bindings, (valuesOf (pairs ++ pairs') pair.1).head? = some pair.2 := by
  intro pair member
  rw [valuesOf_append, List.head?_append, lists.values pair member]
  rfl

/-- A name that has met a value is bound. -/
theorem not_mem_of_lookup_eq_none (lists : ListsFirst bindings pairs)
    (named : isAnonymous name = false) (unbound : bindings.lookup name = none) :
    name ∉ pairs.map (·.1) := by
  intro member
  have listed : name ∈ bindings.map (·.1) := by
    rw [lists.names, List.mem_eraseDups]
    exact List.mem_filter.mpr ⟨member, by simp [named]⟩
  obtain ⟨pair, isPair, same⟩ := List.mem_map.mp listed
  have differs := List.lookup_eq_none_iff.mp unbound pair isPair
  simp [same] at differs

/-- A name that is bound has met a value. -/
theorem mem_of_lookup_eq_some (lists : ListsFirst bindings pairs) {first : Value}
    (known : bindings.lookup name = some first) :
    name ∈ (pairs.map (·.1)).filter fun name => !isAnonymous name := by
  rw [← List.mem_eraseDups, ← lists.names]
  obtain ⟨before, after, rfl, _⟩ := List.lookup_eq_some_iff.mp known
  simp

/-- Binding one more name keeps the list in order. -/
theorem bind (lists : ListsFirst bindings pairs)
    (bound : bindings.bind name value = some extended) :
    ListsFirst extended (pairs ++ [(name, value)]) := by
  have kept := lists.head?_append [(name, value)]
  cases anonymous : isAnonymous name with
  | true =>
      rw [bind_of_anonymous anonymous] at bound
      cases bound
      refine ⟨?_, kept⟩
      simp [lists.names, anonymous]
  | false =>
      cases known : bindings.lookup name with
      | none =>
          have new := lists.not_mem_of_lookup_eq_none anonymous known
          rw [bind_of_unbound anonymous known] at bound
          cases bound
          constructor
          · rw [List.map_append, List.map_append, List.filter_append, List.eraseDups_append,
              ← lists.names]
            simp only [List.map_cons, List.map_nil, anonymous, List.filter_cons, List.filter_nil,
              Bool.not_false, if_true, List.removeAll, List.elem_eq_contains, List.contains_eq_mem,
              List.mem_filter, new, false_and, decide_false]
            rfl
          · intro pair member
            rcases List.mem_append.mp member with earlier | last
            · exact kept pair earlier
            · obtain rfl := List.mem_singleton.mp last
              have unmet : valuesOf pairs name = [] := by
                apply List.eq_nil_iff_forall_not_mem.mpr
                intro earlier met
                exact new (List.mem_map_of_mem (mem_valuesOf.mp met))
              rw [valuesOf_append, unmet, valuesOf_cons_self]
              rfl
      | some first =>
          have old := lists.mem_of_lookup_eq_some known
          rw [bind_of_bound anonymous known] at bound
          split at bound
          · cases bound
            refine ⟨?_, kept⟩
            rw [List.map_append, List.filter_append, List.eraseDups_append, ← lists.names]
            simp only [List.map_cons, List.map_nil, anonymous, List.filter_cons, List.filter_nil,
              Bool.not_false, if_true, List.removeAll, List.elem_eq_contains, List.contains_eq_mem,
              old, decide_true]
            simp
          · cases bound

/-- Names that are bound in a row are listed. -/
theorem of_bindAll {bindings : Bindings} {pairs : List (String × Value)}
    (bound : bindAll [] pairs = some bindings) : ListsFirst bindings pairs := by
  induction pairs using List.reverseRecOn generalizing bindings with
  | nil =>
      cases bound
      exact ⟨rfl, nofun⟩
  | append_singleton pairs pair ih =>
      rw [bindAll_append] at bound
      obtain ⟨before, boundBefore, boundLast⟩ := Option.bind_eq_some_iff.mp bound
      obtain ⟨_, boundHere, done⟩ := Option.bind_eq_some_iff.mp boundLast
      cases done
      exact (ih boundBefore).bind boundHere

end ListsFirst

end Bindings

/-! ## Matching -/

namespace Pattern

/-- The names that are met, without their places. -/
def Meetings.named (met : Meetings) : List (String × Value) :=
  met.map fun meeting => (meeting.1.name, meeting.2)

/-- Parameters that fit bind the names that are met, in a row. -/
theorem FitsAll.fitParams_eq {params : List Pattern} {arguments : List Value} {met : Meetings}
    (fits : FitsAll params arguments met) :
    fitParams params arguments = Bindings.bindAll [] met.named := by
  have zipped : (namesOfAll params).zip (met.map (·.2)) = met.named := by
    rw [namesOfAll, ← fits.bindings_eq, List.map_map]
    exact List.zip_map'
  rw [fitParams_eq_bindAll, fits.parts_eq, Option.bind_some, zipped]

/-- Matching answers if and only if there are as many parameters as arguments, each parameter fits
its argument, and each name that is not anonymous meets values that are strictly equal to the first
one. The names that are met are those that the parameters introduce, in order, and the answer lists
the ones that are not anonymous in the order in which they first occur, each with the first value
that it met. -/
theorem fitParams_meaning (params : List Pattern) (arguments : List Value) :
    ((fitParams params arguments).isSome ↔
        ∃ met, FitsAll params arguments met ∧ Bindings.Agree met.named) ∧
      ∀ met bound, FitsAll params arguments met → fitParams params arguments = some bound →
        params.length = arguments.length ∧ met.map (·.1) = bindingsOfAll params ∧
          Bindings.ListsFirst bound met.named := by
  constructor
  · constructor
    · intro answers
      obtain ⟨bound, answered⟩ := Option.isSome_iff_exists.mp answers
      have taken := answered
      rw [fitParams_eq_bindAll] at taken
      obtain ⟨values, taken, _⟩ := Option.bind_eq_some_iff.mp taken
      obtain ⟨met, fits⟩ := exists_fitsAll_of_parts taken
      rw [fits.fitParams_eq, Bindings.isSome_bindAll_iff] at answers
      exact ⟨met, fits, Bindings.agree_iff.mpr answers⟩
    · intro ⟨met, fits, agree⟩
      rw [fits.fitParams_eq, Bindings.isSome_bindAll_iff]
      exact Bindings.agree_iff.mp agree
  · intro met bound fits answered
    rw [fits.fitParams_eq] at answered
    exact ⟨fits.length_eq, fits.bindings_eq, .of_bindAll answered⟩

/-- The parameters `%{low: x} = whole` and `[x, _y | rest]`. -/
def boundedParams : List Pattern :=
  let here : Span := .generated
  [.named (.map [("low", .binding "x" here)] here) "whole" here,
    .list [.binding "x" here, .binding "_y" here] (some (.binding "rest" here)) here]

/-- The arguments `Range{high: 1, low: 0.0}` and `[-0.0, :a, 2, 3]`. -/
def boundedArguments : List Value :=
  [.record "Range" [(.text "high", .integer 1), (.text "low", .decimal (.signedZero false))],
    .list [.decimal (.signedZero true), .atom "a", .integer 2, .integer 3]]

theorem fitParams_meaning_bounded :
    ∃ met bound, FitsAll boundedParams boundedArguments met ∧
      fitParams boundedParams boundedArguments = some bound ∧ Bindings.Agree met.named ∧
      met.map (·.1) = bindingsOfAll boundedParams ∧ Bindings.ListsFirst bound met.named ∧
      bound.map (·.1) = ["x", "whole", "rest"] := by
  have meaning := fitParams_meaning boundedParams boundedArguments
  obtain ⟨met, fits, agree⟩ := meaning.1.mp rfl
  have answered : fitParams boundedParams boundedArguments =
      some [("x", .decimal (.signedZero false)),
        ("whole",
          .record "Range" [(.text "high", .integer 1), (.text "low", .decimal (.signedZero false))]),
        ("rest", .list [.integer 2, .integer 3])] := rfl
  obtain ⟨_, sameNames, lists⟩ := meaning.2 met _ fits answered
  exact ⟨met, _, fits, answered, agree, sameNames, lists, rfl⟩

end Pattern
end ClauseFlow

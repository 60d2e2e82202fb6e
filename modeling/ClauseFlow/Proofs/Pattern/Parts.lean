import ClauseFlow.Pattern.Matching
import ClauseFlow.Pattern.Names

/-!
# Matching in two steps

A pattern takes a value apart, and then binds its names to the parts one after the other. The first
step does not depend on how the names are spelled, the second one not on how the pattern is built.
-/

namespace ClauseFlow

/-! ## Binding names in a row -/

namespace Bindings

/-- Binds several names in a row. -/
def bindAll (bindings : Bindings) : List (String × Value) → Option Bindings
  | [] => some bindings
  | (name, value) :: rest => (bindings.bind name value).bind fun extended => bindAll extended rest

theorem bindAll_append (bindings : Bindings) (pairs pairs' : List (String × Value)) :
    bindAll bindings (pairs ++ pairs') =
      (bindAll bindings pairs).bind fun extended => bindAll extended pairs' := by
  induction pairs generalizing bindings with
  | nil => rfl
  | cons pair rest ih =>
      rcases pair with ⟨name, value⟩
      simp only [List.cons_append, bindAll]
      cases bindings.bind name value with
      | none => rfl
      | some extended => exact ih extended

theorem bind_of_anonymous {name : String} (anonymous : isAnonymous name = true)
    (bindings : Bindings) (value : Value) : bindings.bind name value = some bindings :=
  if_pos anonymous

theorem bind_of_unbound {bindings : Bindings} {name : String} (named : isAnonymous name = false)
    (unbound : bindings.lookup name = none) (value : Value) :
    bindings.bind name value = some (bindings ++ [(name, value)]) := by
  simp [Bindings.bind, named, unbound]

/-- A name that is bound already is compared. -/
theorem bind_of_bound {bindings : Bindings} {name : String} (named : isAnonymous name = false)
    {first : Value} (bound : bindings.lookup name = some first) (value : Value) :
    bindings.bind name value = if Value.equal true first value then some bindings else none := by
  simp [Bindings.bind, named, bound]

/-- Binding a name changes nothing about other names. -/
theorem lookup_bind_of_ne {bindings extended : Bindings} {name asked : String} {value : Value}
    (bound : bindings.bind name value = some extended) (differs : asked ≠ name) :
    extended.lookup asked = bindings.lookup asked := by
  cases anonymous : isAnonymous name with
  | true =>
      rw [bind_of_anonymous anonymous] at bound
      cases bound
      rfl
  | false =>
      cases known : bindings.lookup name with
      | none =>
          rw [bind_of_unbound anonymous known] at bound
          cases bound
          simp [List.lookup_append, List.lookup_cons, beq_eq_false_iff_ne.mpr differs]
      | some first =>
          rw [bind_of_bound anonymous known] at bound
          split at bound
          · cases bound
            rfl
          · cases bound

/-- A name that has been bound is bound to what it was bound to before, or else to the value. -/
theorem lookup_bind_self {bindings extended : Bindings} {name : String} {value : Value}
    (named : isAnonymous name = false) (bound : bindings.bind name value = some extended) :
    extended.lookup name = (bindings.lookup name).or (some value) := by
  cases known : bindings.lookup name with
  | none =>
      rw [bind_of_unbound named known] at bound
      cases bound
      simp [List.lookup_append, known]
  | some first =>
      rw [bind_of_bound named known] at bound
      split at bound
      · cases bound
        rw [known]
        rfl
      · cases bound

/-- After binding several names, a name is bound to what it was bound to before, or else to its
first value in the row. -/
theorem lookup_bindAll {bindings extended : Bindings} {pairs : List (String × Value)}
    (bound : bindAll bindings pairs = some extended) {asked : String}
    (named : isAnonymous asked = false) :
    extended.lookup asked = (bindings.lookup asked).or (pairs.lookup asked) := by
  induction pairs generalizing bindings with
  | nil =>
      cases bound
      simp
  | cons pair rest ih =>
      rcases pair with ⟨name, value⟩
      rcases Option.bind_eq_some_iff.mp bound with ⟨next, bindHere, bindRest⟩
      rw [ih bindRest]
      by_cases same : asked = name
      · subst same
        rw [lookup_bind_self named bindHere, List.lookup_cons_self, Option.or_assoc]
        rfl
      · rw [lookup_bind_of_ne bindHere same, List.lookup_cons, beq_eq_false_iff_ne.mpr same]

/-- Anonymous names are never bound. -/
theorem lookup_bindAll_anonymous {bindings extended : Bindings} {pairs : List (String × Value)}
    (bound : bindAll bindings pairs = some extended) {asked : String}
    (anonymous : isAnonymous asked = true) :
    extended.lookup asked = bindings.lookup asked := by
  induction pairs generalizing bindings with
  | nil =>
      cases bound
      rfl
  | cons pair rest ih =>
      rcases pair with ⟨name, value⟩
      rcases Option.bind_eq_some_iff.mp bound with ⟨next, bindHere, bindRest⟩
      rw [ih bindRest]
      by_cases same : asked = name
      · subst same
        rw [bind_of_anonymous anonymous] at bindHere
        cases bindHere
        rfl
      · exact lookup_bind_of_ne bindHere same

/-! ## The values that a name meets -/

/-- The values that a name meets in a row. -/
def valuesOf (pairs : List (String × Value)) (asked : String) : List Value :=
  (pairs.filter fun pair => pair.1 == asked).map (·.2)

theorem valuesOf_cons_self (name : String) (value : Value) (rest : List (String × Value)) :
    valuesOf ((name, value) :: rest) name = value :: valuesOf rest name := by
  simp [valuesOf]

theorem valuesOf_cons_of_ne {name asked : String} (differs : asked ≠ name) (value : Value)
    (rest : List (String × Value)) :
    valuesOf ((name, value) :: rest) asked = valuesOf rest asked := by
  simp [valuesOf, differs.symm]

theorem valuesOf_append (pairs pairs' : List (String × Value)) (asked : String) :
    valuesOf (pairs ++ pairs') asked = valuesOf pairs asked ++ valuesOf pairs' asked := by
  simp [valuesOf]

theorem mem_valuesOf {pairs : List (String × Value)} {name : String} {value : Value} :
    value ∈ valuesOf pairs name ↔ (name, value) ∈ pairs := by
  simp [valuesOf]

/-- What is found first under a name is the first value that it meets. -/
theorem lookup_eq_head? (pairs : List (String × Value)) (asked : String) :
    pairs.lookup asked = (valuesOf pairs asked).head? := by
  induction pairs with
  | nil => rfl
  | cons pair rest ih =>
      rcases pair with ⟨name, value⟩
      by_cases same : asked = name
      · subst same
        rw [List.lookup_cons_self, valuesOf_cons_self, List.head?_cons]
      · rw [List.lookup_cons, beq_eq_false_iff_ne.mpr same, valuesOf_cons_of_ne same]
        exact ih

/-- A row that is bound by itself binds a name to the first value that it meets. -/
theorem lookup_of_bindAll_nil {bindings : Bindings} {pairs : List (String × Value)}
    (bound : bindAll [] pairs = some bindings) {asked : String}
    (named : isAnonymous asked = false) :
    bindings.lookup asked = (valuesOf pairs asked).head? := by
  rw [lookup_bindAll bound named, ← lookup_eq_head?]
  rfl

/-- A name meets no more values than it has places. -/
theorem length_valuesOf_zip_le (names : List String) (values : List Value) (asked : String) :
    (valuesOf (names.zip values) asked).length ≤ names.count asked := by
  induction names generalizing values with
  | nil => exact Nat.le_refl 0
  | cons name rest ih =>
      cases values with
      | nil => exact Nat.zero_le _
      | cons value others =>
          rw [List.zip_cons_cons]
          by_cases same : asked = name
          · subst same
            rw [valuesOf_cons_self, List.length_cons, List.count_cons_self]
            exact Nat.succ_le_succ (ih others)
          · rw [valuesOf_cons_of_ne same, List.count_cons_of_ne (Ne.symm same)]
            exact ih others

/-- Whether a name can meet values: each is equal to the one that is bound, or else to the first. -/
def Admits : Option Value → List Value → Prop
  | _, [] => True
  | none, first :: rest => Admits (some first) rest
  | some first, value :: rest => Value.equal true first value = true ∧ Admits (some first) rest

theorem admits_some_of_forall {first : Value} {values : List Value}
    (equal : ∀ value ∈ values, Value.equal true first value = true) :
    Admits (some first) values := by
  induction values with
  | nil => trivial
  | cons value rest ih =>
      exact ⟨equal value (.head _), ih fun other member => equal other (.tail _ member)⟩

theorem Admits.equal_of_mem {first : Value} {values : List Value}
    (admits : Admits (some first) values) {value : Value} (member : value ∈ values) :
    Value.equal true first value = true := by
  induction values with
  | nil => cases member
  | cons next rest ih =>
      rcases List.mem_cons.mp member with rfl | later
      · exact admits.1
      · exact ih admits.2 later

/-- A name is bound to the first value that it meets; the others are equal to it. -/
theorem Admits.exists_head? {values : List Value} (admits : Admits none values) {value : Value}
    (member : value ∈ values) :
    ∃ first, values.head? = some first ∧ (first = value ∨ Value.equal true first value = true) := by
  cases values with
  | nil => cases member
  | cons first rest =>
      refine ⟨first, rfl, ?_⟩
      rcases List.mem_cons.mp member with rfl | later
      · exact .inl rfl
      · exact .inr (Admits.equal_of_mem admits later)

/-- Binding one name takes its value off those that are still to be met. -/
theorem forall_admits_cons {bindings extended : Bindings} {name : String} {value : Value}
    {rest : List (String × Value)} (bound : bindings.bind name value = some extended)
    (here : isAnonymous name = false →
      (Admits (extended.lookup name) (valuesOf rest name) ↔
        Admits (bindings.lookup name) (value :: valuesOf rest name))) :
    (∀ asked, isAnonymous asked = false →
        Admits (extended.lookup asked) (valuesOf rest asked)) ↔
      ∀ asked, isAnonymous asked = false →
        Admits (bindings.lookup asked) (valuesOf ((name, value) :: rest) asked) := by
  apply forall_congr'
  intro asked
  apply imp_congr_right
  intro named
  by_cases same : asked = name
  · subst same
    rw [valuesOf_cons_self]
    exact here named
  · rw [lookup_bind_of_ne bound same, valuesOf_cons_of_ne same]

/-- Names in a row can be bound if and only if each of them can meet its values. -/
theorem isSome_bindAll_iff {bindings : Bindings} {pairs : List (String × Value)} :
    (bindAll bindings pairs).isSome ↔ ∀ asked, isAnonymous asked = false →
      Admits (bindings.lookup asked) (valuesOf pairs asked) := by
  induction pairs generalizing bindings with
  | nil =>
      simp [bindAll, valuesOf, Admits]
  | cons pair rest ih =>
      rcases pair with ⟨name, value⟩
      cases named : isAnonymous name with
      | true =>
          have bound := bind_of_anonymous named bindings value
          rw [bindAll, bound, Option.bind_some, ih]
          apply forall_admits_cons bound
          intro other
          rw [named] at other
          cases other
      | false =>
          cases known : bindings.lookup name with
          | none =>
              have bound := bind_of_unbound named known value
              rw [bindAll, bound, Option.bind_some, ih]
              apply forall_admits_cons bound
              intro _
              rw [lookup_bind_self named bound, known]
              rfl
          | some first =>
              have bound := bind_of_bound named known value
              by_cases equal : Value.equal true first value = true
              · rw [if_pos equal] at bound
                rw [bindAll, bound, Option.bind_some, ih]
                apply forall_admits_cons bound
                intro _
                rw [known, Admits]
                exact (and_iff_right equal).symm
              · rw [if_neg equal] at bound
                rw [bindAll, bound]
                constructor
                · nofun
                · intro admits
                  have here := admits name named
                  rw [known, valuesOf_cons_self] at here
                  exact absurd here.1 equal

/-- Whether values are all the very same, and equal as well where there is more than one. -/
def Repeats (values : List Value) : Prop :=
  values.Pairwise fun earlier later => earlier = later ∧ Value.equal true earlier later = true

theorem repeats_of_length_le_one {values : List Value} (single : values.length ≤ 1) :
    Repeats values := by
  match values with
  | [] => exact .nil
  | [_] => exact List.pairwise_singleton _ _
  | _ :: _ :: _ => simp at single

theorem Repeats.admits {values : List Value} (repeats : Repeats values) : Admits none values := by
  cases values with
  | nil => trivial
  | cons first rest =>
      apply admits_some_of_forall
      intro value member
      exact ((List.pairwise_cons.mp repeats).1 value member).2

theorem Repeats.head?_eq {values : List Value} (repeats : Repeats values) {value : Value}
    (member : value ∈ values) : values.head? = some value := by
  cases values with
  | nil => cases member
  | cons first rest =>
      rcases List.mem_cons.mp member with rfl | later
      · rfl
      · exact congrArg some ((List.pairwise_cons.mp repeats).1 value later).1

end Bindings

/-! ## Taking values apart -/

namespace Pattern

/-- The names a pattern introduces, in the order of `bindings`. -/
def names (pattern : Pattern) : List String :=
  (bindings pattern).map (·.name)

def namesOfAll (patterns : List Pattern) : List String :=
  (bindingsOfAll patterns).map (·.name)

def namesOfEntries (entries : List (String × Pattern)) : List String :=
  (bindingsOfEntries entries).map (·.name)

mutual

/-- The parts of a value for which a pattern has names, in the order of the names. -/
def parts : Pattern → Value → Option (List Value)
  | .wildcard _, _ => some []
  | .binding _ _, value => some [value]
  | .literal constant _, value => if Value.fitsLiteral constant value then some [] else none
  | .tuple patterns _, .tuple values => partsOfAll patterns values
  | .list patterns none _, .list values => partsOfAll patterns values
  | .list patterns (some tail) _, .list values =>
      if values.length < patterns.length then none
      else do
        let first ← partsOfAll patterns (values.take patterns.length)
        let rest ← parts tail (.list (values.drop patterns.length))
        return first ++ rest
  | .map patterns _, value => do
      let entries ← entriesOf? value
      partsOfEntries patterns entries
  | .record tag patterns _, .record tag' entries =>
      if tag = tag' then partsOfEntries patterns entries else none
  | .result tag inner _, .result tag' value => if tag = tag' then parts inner value else none
  | .named inner _ _, value => do
      let first ← parts inner value
      return first ++ [value]
  | _, _ => none

def partsOfAll : List Pattern → List Value → Option (List Value)
  | [], [] => some []
  | pattern :: rest, value :: values => do
      let first ← parts pattern value
      let others ← partsOfAll rest values
      return first ++ others
  | _, _ => none

def partsOfEntries : List (String × Pattern) → Value.Entries → Option (List Value)
  | [], _ => some []
  | (key, pattern) :: rest, entries => do
      let value ← Value.field? key entries
      let first ← parts pattern value
      let others ← partsOfEntries rest entries
      return first ++ others

end

theorem names_listWithTail (elements : List Pattern) (tail : Pattern) (span : Span) :
    names (.list elements (some tail) span) = namesOfAll elements ++ names tail :=
  List.map_append ..

theorem names_named (inner : Pattern) (name : String) (span : Span) :
    names (.named inner name span) = names inner ++ [name] :=
  List.map_append ..

theorem namesOfAll_cons (pattern : Pattern) (rest : List Pattern) :
    namesOfAll (pattern :: rest) = names pattern ++ namesOfAll rest :=
  List.map_append ..

theorem namesOfEntries_cons (key : String) (pattern : Pattern)
    (rest : List (String × Pattern)) :
    namesOfEntries ((key, pattern) :: rest) = names pattern ++ namesOfEntries rest :=
  List.map_append ..

mutual

/-- There is one part for each name. -/
theorem parts_length : ∀ {pattern : Pattern} {value : Value} {values : List Value},
    parts pattern value = some values → values.length = (names pattern).length
  | .wildcard _, _, _, taken => by cases taken; rfl
  | .binding _ _, _, _, taken => by cases taken; rfl
  | .literal constant _, value, _, taken => by
      simp only [parts] at taken
      split at taken
      · cases taken
        rfl
      · cases taken
  | .tuple patterns _, value, _, taken => by
      cases value with
      | tuple elements => exact partsOfAll_length taken
      | _ => cases taken
  | .list patterns none _, value, _, taken => by
      cases value with
      | list elements => exact partsOfAll_length taken
      | _ => cases taken
  | .list patterns (some tail) _, value, _, taken => by
      cases value with
      | list elements =>
          simp only [parts] at taken
          split at taken
          · cases taken
          · rcases Option.bind_eq_some_iff.mp taken with ⟨first, takenFirst, taken⟩
            rcases Option.bind_eq_some_iff.mp taken with ⟨rest, takenRest, taken⟩
            cases taken
            rw [names_listWithTail, List.length_append, List.length_append,
              partsOfAll_length takenFirst, parts_length takenRest]
      | _ => cases taken
  | .map patterns _, value, _, taken => by
      simp only [parts] at taken
      rcases Option.bind_eq_some_iff.mp taken with ⟨entries, _, taken⟩
      exact partsOfEntries_length taken
  | .record tag patterns _, value, _, taken => by
      cases value with
      | record tag' entries =>
          simp only [parts] at taken
          split at taken
          · exact partsOfEntries_length taken
          · cases taken
      | _ => cases taken
  | .result tag inner _, value, _, taken => by
      cases value with
      | result tag' payload =>
          simp only [parts] at taken
          split at taken
          · change _ = (names inner).length
            exact parts_length taken
          · cases taken
      | _ => cases taken
  | .named inner name _, value, _, taken => by
      simp only [parts] at taken
      rcases Option.bind_eq_some_iff.mp taken with ⟨first, takenFirst, taken⟩
      cases taken
      rw [names_named, List.length_append, List.length_append, parts_length takenFirst]
      rfl

theorem partsOfAll_length : ∀ {patterns : List Pattern} {elements values : List Value},
    partsOfAll patterns elements = some values → values.length = (namesOfAll patterns).length
  | [], elements, _, taken => by
      cases elements with
      | nil => cases taken; rfl
      | cons => cases taken
  | pattern :: rest, elements, _, taken => by
      cases elements with
      | nil => cases taken
      | cons element others =>
          simp only [partsOfAll] at taken
          rcases Option.bind_eq_some_iff.mp taken with ⟨first, takenFirst, taken⟩
          rcases Option.bind_eq_some_iff.mp taken with ⟨later, takenLater, taken⟩
          cases taken
          rw [namesOfAll_cons, List.length_append, List.length_append, parts_length takenFirst,
            partsOfAll_length takenLater]

theorem partsOfEntries_length : ∀ {patterns : List (String × Pattern)} {entries : Value.Entries}
    {values : List Value},
    partsOfEntries patterns entries = some values →
      values.length = (namesOfEntries patterns).length
  | [], _, _, taken => by cases taken; rfl
  | (key, pattern) :: rest, entries, _, taken => by
      simp only [partsOfEntries] at taken
      rcases Option.bind_eq_some_iff.mp taken with ⟨value, _, taken⟩
      rcases Option.bind_eq_some_iff.mp taken with ⟨first, takenFirst, taken⟩
      rcases Option.bind_eq_some_iff.mp taken with ⟨later, takenLater, taken⟩
      cases taken
      rw [namesOfEntries_cons, List.length_append, List.length_append, parts_length takenFirst,
        partsOfEntries_length takenLater]

end

/-! ## Fitting is taking apart and binding -/

/-- Fitting two patterns in a row, the second one only if the first one fits. -/
theorem fit_then_fit {first? later? : Option (List Value)} {names names' : List String}
    (sameLength : ∀ first, first? = some first → first.length = names.length)
    (bindings : Bindings) :
    ((first?.bind fun first => bindings.bindAll (names.zip first)).bind fun extended =>
        later?.bind fun later => extended.bindAll (names'.zip later)) =
      (first?.bind fun first => later?.bind fun later => some (first ++ later)).bind fun values =>
        bindings.bindAll ((names ++ names').zip values) := by
  cases first? with
  | none => rfl
  | some first =>
      have zipped (later : List Value) :
          (names ++ names').zip (first ++ later) = names.zip first ++ names'.zip later :=
        List.zip_append (sameLength first rfl).symm
      cases later? with
      | none => cases bound : bindings.bindAll (names.zip first) <;> simp [bound]
      | some later => simp only [Option.bind_some, zipped, Bindings.bindAll_append]

mutual

/-- A pattern that fits binds its names to the parts of the value. -/
theorem fit_eq_bindAll : ∀ (pattern : Pattern) (value : Value) (bindings : Bindings),
    fit pattern value bindings =
      (parts pattern value).bind fun values => bindings.bindAll ((names pattern).zip values)
  | .wildcard _, _, _ => rfl
  | .binding name _, value, bindings => by
      change bindings.bind name value = (bindings.bind name value).bind some
      cases bindings.bind name value <;> rfl
  | .literal constant _, value, bindings => by
      simp only [fit, parts]
      split <;> rfl
  | .tuple patterns _, value, bindings => by
      cases value with
      | tuple elements => exact fitAll_eq_bindAll patterns elements bindings
      | _ => rfl
  | .list patterns none _, value, bindings => by
      cases value with
      | list elements => exact fitAll_eq_bindAll patterns elements bindings
      | _ => rfl
  | .list patterns (some tail) _, value, bindings => by
      cases value with
      | list elements =>
          simp only [fit, parts, names_listWithTail]
          split
          · rfl
          · refine Eq.trans ?_ (fit_then_fit (fun _ => partsOfAll_length) bindings)
            rw [← fitAll_eq_bindAll patterns]
            cases fitAll patterns (elements.take patterns.length) bindings with
            | none => rfl
            | some extended => exact fit_eq_bindAll tail _ extended
      | _ => rfl
  | .map patterns _, value, bindings => by
      simp only [fit, parts]
      cases entriesOf? value with
      | none => rfl
      | some entries => exact fitEntries_eq_bindAll patterns entries bindings
  | .record tag patterns _, value, bindings => by
      cases value with
      | record tag' entries =>
          simp only [fit, parts]
          split
          · exact fitEntries_eq_bindAll patterns entries bindings
          · rfl
      | _ => rfl
  | .result tag inner _, value, bindings => by
      cases value with
      | result tag' payload =>
          simp only [fit, parts]
          split
          · exact fit_eq_bindAll inner payload bindings
          · rfl
      | _ => rfl
  | .named inner name _, value, bindings => by
      simp only [fit, parts, names_named]
      have whole (extended : Bindings) : extended.bind name value =
          (some [value]).bind fun later => extended.bindAll ([name].zip later) := by
        change extended.bind name value = (extended.bind name value).bind some
        cases extended.bind name value <;> rfl
      refine Eq.trans ?_ (@fit_then_fit (parts inner value) (some [value]) (names inner) [name]
        (fun _ => parts_length) bindings)
      rw [← fit_eq_bindAll inner]
      cases fit inner value bindings with
      | none => rfl
      | some extended => exact whole extended

theorem fitAll_eq_bindAll : ∀ (patterns : List Pattern) (elements : List Value)
    (bindings : Bindings),
    fitAll patterns elements bindings =
      (partsOfAll patterns elements).bind fun values =>
        bindings.bindAll ((namesOfAll patterns).zip values)
  | [], elements, bindings => by
      cases elements with
      | nil => rfl
      | cons => rfl
  | pattern :: rest, elements, bindings => by
      cases elements with
      | nil => rfl
      | cons element others =>
          simp only [fitAll, partsOfAll, namesOfAll_cons]
          refine Eq.trans ?_ (fit_then_fit (fun _ => parts_length) bindings)
          rw [← fit_eq_bindAll pattern]
          cases fit pattern element bindings with
          | none => rfl
          | some extended => exact fitAll_eq_bindAll rest others extended

theorem fitEntries_eq_bindAll : ∀ (patterns : List (String × Pattern)) (entries : Value.Entries)
    (bindings : Bindings),
    fitEntries patterns entries bindings =
      (partsOfEntries patterns entries).bind fun values =>
        bindings.bindAll ((namesOfEntries patterns).zip values)
  | [], _, _ => rfl
  | (key, pattern) :: rest, entries, bindings => by
      simp only [fitEntries, partsOfEntries, namesOfEntries_cons]
      cases Value.field? key entries with
      | none => rfl
      | some value =>
          refine Eq.trans ?_ (fit_then_fit (fun _ => parts_length) bindings)
          rw [← fit_eq_bindAll pattern]
          cases fitted : fit pattern value bindings with
          | none => simp [fitted]
          | some extended =>
              simp only [fitted]
              exact fitEntries_eq_bindAll rest entries extended

end

/-- Parameters that fit bind their names, in a row, to the parts of the arguments. -/
theorem fitParams_eq_bindAll (params : List Pattern) (arguments : List Value) :
    fitParams params arguments =
      (partsOfAll params arguments).bind fun values =>
        Bindings.bindAll [] ((namesOfAll params).zip values) :=
  fitAll_eq_bindAll params arguments []

/-- Parameters that fit bind every name in them that is not anonymous. -/
theorem isSome_lookup_of_fitParams {params : List Pattern} {arguments : List Value}
    {bindings : Bindings} (fits : fitParams params arguments = some bindings) {name : String}
    (member : name ∈ namesOfAll params) (named : isAnonymous name = false) :
    (bindings.lookup name).isSome := by
  rw [fitParams_eq_bindAll] at fits
  rcases Option.bind_eq_some_iff.mp fits with ⟨values, taken, bound⟩
  have sameLength := partsOfAll_length taken
  rw [Bindings.lookup_of_bindAll_nil bound named, List.isSome_head?]
  rcases List.getElem_of_mem member with ⟨index, inside, rfl⟩
  have paired : ((namesOfAll params)[index], values[index]) ∈ (namesOfAll params).zip values := by
    rw [← List.getElem_zip]
    exact List.getElem_mem (by rw [List.length_zip]; omega)
  exact List.ne_nil_of_mem (Bindings.mem_valuesOf.mpr paired)

end Pattern
end ClauseFlow

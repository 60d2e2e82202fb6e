import ClauseFlow.Proofs.Clause.Ordering
import ClauseFlow.Proofs.Clause.Renaming

/-!
# Unwrapping clauses

An unwrapping clause fits a success exactly if the patterns of its declaration after the first one
fit the other arguments. Its guard sees these arguments under the names of the declaration, and
nothing under the names of the first pattern; its body hands all arguments on as they are.
-/

namespace ClauseFlow

namespace Pattern

/-! ## A parameter that keeps its argument -/

/-- Whether a parameter is another one that also keeps the whole argument under a name. -/
structure Keeps (supply supply' : NameSupply) (param param' : Pattern) (name : String) : Prop where
  supplies : Supplies supply supply' (names param) (names param')
  unfit : ∀ value, parts param value = none → parts param' value = none
  fits : ∀ value values, parts param value = some values →
    ∃ values', parts param' value = some values' ∧
      (∀ asked ∈ supply.taken, isAnonymous asked = false →
        Bindings.valuesOf ((names param').zip values') asked =
          Bindings.valuesOf ((names param).zip values) asked) ∧
      (name, value) ∈ (names param').zip values'

variable {base : String} {supply supply' : NameSupply} {param pattern : Pattern}

/-- A pattern whose last name is that of the whole keeps the argument under it. -/
theorem keeps_of_named (named : Named supply supply' param pattern) {name : String}
    (whole : ∀ value values, parts pattern value = some values →
      (name, value) ∈ (names pattern).zip values) :
    Keeps supply supply' param pattern name where
  supplies := named.supplies
  unfit value unfit := by rw [named.parts, unfit]
  fits value values taken := by
    have taken' : parts pattern value = some values := by rw [named.parts, taken]
    exact ⟨values, taken', fun asked known nonAnonymous =>
      named.renamed.valuesOf_zip known nonAnonymous values, whole value values taken'⟩

theorem mem_zip_binding {name : String} {span : Span} {value : Value} {values : List Value}
    (taken : parts (.binding name span) value = some values) :
    (name, value) ∈ (names (.binding name span)).zip values := by
  cases taken
  exact .head _

/-- The last name of a named pattern is that of the whole value. -/
theorem zip_named {inner : Pattern} {name : String} {span : Span} {value : Value}
    {values : List Value} (taken : parts (.named inner name span) value = some values) :
    ∃ first, parts inner value = some first ∧
      (names (.named inner name span)).zip values =
        (names inner).zip first ++ [(name, value)] := by
  simp only [parts] at taken
  rcases Option.bind_eq_some_iff.mp taken with ⟨first, takenFirst, taken⟩
  cases taken
  refine ⟨first, takenFirst, ?_⟩
  rw [names_named, List.zip_append (parts_length takenFirst).symm]
  rfl

theorem mem_zip_named {inner : Pattern} {name : String} {span : Span} {value : Value}
    {values : List Value} (taken : parts (.named inner name span) value = some values) :
    (name, value) ∈ (names (.named inner name span)).zip values := by
  rcases zip_named taken with ⟨first, _, zipped⟩
  rw [zipped]
  exact List.mem_append_right _ (.head _)

/-- A pattern with a new name for the whole keeps the argument under it. -/
theorem keeps_new_of_named (named : Named supply supply' param pattern)
    (nonempty : base.toList ≠ []) (baseNamed : isAnonymous base = false) (span : Span) :
    Keeps supply (supply'.numbered base).2 param
      (.named pattern (supply'.numbered base).1 span) (supply'.numbered base).1 where
  supplies := by
    have supplies := named.supplies.append (.new supply' nonempty baseNamed [])
    rw [List.append_nil] at supplies
    rw [names_named]
    exact supplies
  unfit value unfit := by simp [parts, named.parts, unfit]
  fits value values taken := by
    have whole : parts (.named pattern (supply'.numbered base).1 span) value =
        some (values ++ [value]) := by simp [parts, named.parts, taken]
    refine ⟨_, whole, fun asked known nonAnonymous => ?_, mem_zip_named whole⟩
    rcases zip_named whole with ⟨first, takenFirst, zipped⟩
    have same : first = values := by
      rw [named.parts, taken] at takenFirst
      exact (Option.some.inj takenFirst).symm
    have differs : asked ≠ (supply'.numbered base).1 := by
      rintro rfl
      exact NameSupply.numbered_not_mem supply' base (named.supplies.grows _ known)
    rw [zipped, same, Bindings.valuesOf_append, Bindings.valuesOf_cons_of_ne differs,
      named.renamed.valuesOf_zip known nonAnonymous values]
    exact List.append_nil _

/-- A new name keeps any argument. -/
theorem keeps_binding (nonempty : base.toList ≠ []) (baseNamed : isAnonymous base = false)
    (supply : NameSupply) (span : Span) :
    Keeps supply (supply.numbered base).2 (.wildcard span)
      (.binding (supply.numbered base).1 span) (supply.numbered base).1 where
  supplies := .new supply nonempty baseNamed []
  unfit value unfit := by cases unfit
  fits value values taken := by
    refine ⟨[value], rfl, fun asked known _ => ?_, .head _⟩
    have differs : asked ≠ (supply.numbered base).1 := by
      rintro rfl
      exact NameSupply.numbered_not_mem supply base known
    cases taken
    exact Bindings.valuesOf_cons_of_ne differs value []

/-! ## Parameters that keep their arguments -/

/-- Whether parameters, given with names, are other ones that also keep the whole arguments under
these names. -/
structure KeepsAll (supply supply' : NameSupply) (params : List Pattern)
    (named : List (Pattern × String)) : Prop where
  supplies : Supplies supply supply' (namesOfAll params) (namesOfAll (named.map (·.1)))
  unfit : ∀ values, partsOfAll params values = none → partsOfAll (named.map (·.1)) values = none
  fits : ∀ arguments values, partsOfAll params arguments = some values →
    ∃ values', partsOfAll (named.map (·.1)) arguments = some values' ∧
      (∀ asked ∈ supply.taken, isAnonymous asked = false →
        Bindings.valuesOf ((namesOfAll (named.map (·.1))).zip values') asked =
          Bindings.valuesOf ((namesOfAll params).zip values) asked) ∧
      named.length = arguments.length ∧
      ∀ pair ∈ (named.map (·.2)).zip arguments, pair ∈ (namesOfAll (named.map (·.1))).zip values'

theorem KeepsAll.cons {supply'' : NameSupply} {param' : Pattern} {name : String}
    {rest : List Pattern} {named : List (Pattern × String)}
    (first : Keeps supply supply' param param' name)
    (later : KeepsAll supply' supply'' rest named) :
    KeepsAll supply supply'' (param :: rest) ((param', name) :: named) where
  supplies := by
    rw [List.map_cons, namesOfAll_cons, namesOfAll_cons]
    exact first.supplies.append later.supplies
  unfit arguments unfit := by
    cases arguments with
    | nil => rfl
    | cons argument others =>
        simp only [List.map_cons, partsOfAll] at unfit ⊢
        cases taken : parts param argument with
        | none => simp [first.unfit argument taken]
        | some values =>
            cases takenRest : partsOfAll rest others with
            | none => cases parts param' argument <;> simp [later.unfit others takenRest]
            | some valuesRest => simp [taken, takenRest] at unfit
  fits arguments values taken := by
    cases arguments with
    | nil => cases taken
    | cons argument others =>
        simp only [partsOfAll] at taken
        rcases Option.bind_eq_some_iff.mp taken with ⟨own, takenOwn, taken⟩
        rcases Option.bind_eq_some_iff.mp taken with ⟨rest', takenRest, taken⟩
        cases taken
        rcases first.fits argument own takenOwn with ⟨own', takenOwn', sameOwn, kept⟩
        obtain ⟨others', takenOthers', sameOthers, sameLength, keptOthers⟩ :=
          later.fits others rest' takenRest
        have zipped : (namesOfAll (((param', name) :: named).map (·.1))).zip (own' ++ others') =
            (names param').zip own' ++ (namesOfAll (named.map (·.1))).zip others' := by
          rw [List.map_cons, namesOfAll_cons, List.zip_append (parts_length takenOwn').symm]
        refine ⟨own' ++ others', ?_, fun asked known nonAnonymous => ?_, ?_, ?_⟩
        · simp [partsOfAll, takenOwn', takenOthers']
        · rw [zipped, namesOfAll_cons, List.zip_append (parts_length takenOwn).symm,
            Bindings.valuesOf_append, Bindings.valuesOf_append, sameOwn asked known nonAnonymous,
            sameOthers asked (first.supplies.grows asked known) nonAnonymous]
        · rw [List.length_cons, List.length_cons, sameLength]
        · intro pair member
          rw [zipped]
          rcases List.mem_cons.mp member with rfl | member
          · exact List.mem_append_left _ kept
          · exact List.mem_append_right _ (keptOthers pair member)

/-- Patterns do not fit if those after the first one take nothing apart. -/
theorem fitParams_cons_none {rest : List Pattern} {others : List Value}
    (unfit : partsOfAll rest others = none) (param : Pattern) (first : Value) :
    fitParams (param :: rest) (first :: others) = none := by
  rw [fitParams_eq_bindAll]
  simp [partsOfAll, unfit]

/-- A first pattern changes nothing about names that are not its own. -/
theorem lookup_fitParams_cons {param : Pattern} {rest : List Pattern} {first : Value}
    {others : List Value} {bindings restBindings : Bindings}
    (fits : fitParams (param :: rest) (first :: others) = some bindings)
    (restFits : fitParams rest others = some restBindings) {asked : String}
    (elsewhere : asked ∉ names param) : bindings.lookup asked = restBindings.lookup asked := by
  rw [fitParams_eq_bindAll] at fits restFits
  rcases Option.bind_eq_some_iff.mp fits with ⟨values, taken, bound⟩
  rcases Option.bind_eq_some_iff.mp restFits with ⟨restValues, restTaken, restBound⟩
  cases named : isAnonymous asked with
  | true =>
      rw [Bindings.lookup_bindAll_anonymous bound named,
        Bindings.lookup_bindAll_anonymous restBound named]
  | false =>
      simp only [partsOfAll, restTaken] at taken
      rcases Option.bind_eq_some_iff.mp taken with ⟨own, takenOwn, taken⟩
      obtain rfl : own ++ restValues = values := Option.some.inj taken
      have absent : ((names param).zip own).lookup asked = none := by
        apply List.lookup_eq_none_iff.mpr
        intro pair member
        apply bne_iff_ne.mpr
        rintro rfl
        exact elsewhere (List.of_mem_zip member).1
      rw [Bindings.lookup_bindAll bound named, Bindings.lookup_bindAll restBound named,
        namesOfAll_cons, List.zip_append (parts_length takenOwn).symm, List.lookup_append, absent,
        Option.none_or]

end Pattern

namespace Declaration

open Pattern (Keeps KeepsAll)

variable {base : String}

/-- What is done to a parameter whose anonymous names have been named: the whole gets a name, if it
has none. -/
def nameWhole (base : String) (named : Pattern) : Pattern.Naming (Pattern × String) :=
  match named with
  | .binding name _ | .named _ name _ => return (named, name)
  | _ => do
      let name ← Pattern.newName base
      return (.named named name named.span, name)

theorem nameWhole_keeps (nonempty : base.toList ≠ []) (baseNamed : isAnonymous base = false)
    {supply supply' : NameSupply} {param pattern : Pattern}
    (named : Pattern.Named supply supply' param pattern) :
    Keeps supply ((nameWhole base pattern).run supply').2 param
      ((nameWhole base pattern).run supply').1.1 ((nameWhole base pattern).run supply').1.2 := by
  cases pattern with
  | binding name span =>
      exact Pattern.keeps_of_named named fun value values => Pattern.mem_zip_binding
  | named inner name span =>
      exact Pattern.keeps_of_named named fun value values => Pattern.mem_zip_named
  | _ => exact Pattern.keeps_new_of_named named nonempty baseNamed _

theorem namedParam_keeps (nonempty : base.toList ≠ []) (baseNamed : isAnonymous base = false)
    (param : Pattern) (supply : NameSupply) :
    Keeps supply ((namedParam base param).run supply).2 param
      ((namedParam base param).run supply).1.1 ((namedParam base param).run supply).1.2 := by
  have byPattern := nameWhole_keeps nonempty baseNamed
    (Pattern.nameAnonymous_named nonempty baseNamed param supply)
  cases param with
  | wildcard span =>
      exact Pattern.keeps_binding nonempty baseNamed supply span
  | _ => exact byPattern

theorem namedParams_keepsAll (nonempty : base.toList ≠ []) (baseNamed : isAnonymous base = false)
    (params : List Pattern) (supply : NameSupply) :
    KeepsAll supply ((namedParams base params).run supply).2 params
      ((namedParams base params).run supply).1 := by
  induction params generalizing supply with
  | nil =>
      refine ⟨.refl supply, fun _ unfit => unfit, fun arguments values taken => ?_⟩
      cases arguments with
      | nil => exact ⟨values, taken, fun _ _ _ => rfl, rfl, nofun⟩
      | cons => cases taken
  | cons param rest ih =>
      exact KeepsAll.cons (namedParam_keeps nonempty baseNamed param supply) (ih _)

theorem nameWhole_last (base : String) (named : Pattern) (supply : NameSupply) :
    (Pattern.names ((nameWhole base named).run supply).1.1).getLast? =
      some ((nameWhole base named).run supply).1.2 := by
  have own : ∀ (inner : Pattern) (name : String) (span : Span),
      (Pattern.names (.named inner name span)).getLast? = some name := by
    intro inner name span
    rw [Pattern.names_named, List.getLast?_concat]
  cases named with
  | binding name span => rfl
  | _ => exact own _ _ _

/-- The name under which a parameter keeps what it fits is its last one. -/
theorem namedParam_last (base : String) (param : Pattern) (supply : NameSupply) :
    (Pattern.names ((namedParam base param).run supply).1.1).getLast? =
      some ((namedParam base param).run supply).1.2 := by
  have byPattern := nameWhole_last base ((param.nameAnonymous base).run supply).1
    ((param.nameAnonymous base).run supply).2
  cases param with
  | wildcard span => rfl
  | _ => exact byPattern

theorem namedParams_last (base : String) (params : List Pattern) (supply : NameSupply) :
    ∀ named ∈ ((namedParams base params).run supply).1,
      (Pattern.names named.1).getLast? = some named.2 := by
  induction params generalizing supply with
  | nil => nofun
  | cons param rest ih =>
      intro named member
      rcases List.mem_cons.mp member with rfl | later
      · exact namedParam_last base param supply
      · exact ih _ named later

theorem namedParams_mem (base : String) (params : List Pattern) (supply : NameSupply) :
    ∀ name ∈ ((namedParams base params).run supply).1.map (·.2),
      name ∈ Pattern.namesOfAll (((namedParams base params).run supply).1.map (·.1)) := by
  induction params generalizing supply with
  | nil => nofun
  | cons param rest ih =>
      intro name member
      change name ∈ Pattern.namesOfAll (_ :: _)
      rw [Pattern.namesOfAll_cons]
      rcases List.mem_cons.mp member with rfl | later
      · exact List.mem_append_left _ (List.mem_of_getLast? (namedParam_last base param supply))
      · exact List.mem_append_right _ (ih _ name later)

theorem namedParams_length (base : String) (params : List Pattern) (supply : NameSupply) :
    ((namedParams base params).run supply).1.length = params.length := by
  induction params generalizing supply with
  | nil => rfl
  | cons param rest ih => exact congrArg Nat.succ (ih _)

/-! ## Names that occur again -/

/-- Whether no name occurs twice in the patterns after the first one. -/
def OthersDistinct (declaration : Declaration) : Prop :=
  ((Pattern.namesOfAll declaration.params.tail).filter fun name => !isAnonymous name).Nodup

instance (declaration : Declaration) : Decidable declaration.OthersDistinct :=
  inferInstanceAs (Decidable (List.Nodup _))

/-- Whether each name that occurs again in the patterns after the first one meets the very same
value again. -/
def OthersRepeat (declaration : Declaration) (others : List Value) : Prop :=
  ∀ values, Pattern.partsOfAll declaration.params.tail others = some values →
    ∀ name, isAnonymous name = false →
      Bindings.Repeats
        (Bindings.valuesOf ((Pattern.namesOfAll declaration.params.tail).zip values) name)

variable {declaration : Declaration} {others : List Value}

theorem OthersDistinct.repeat (distinct : declaration.OthersDistinct) (others : List Value) :
    declaration.OthersRepeat others := by
  intro values taken name named
  apply Bindings.repeats_of_length_le_one
  have once := List.nodup_iff_count.mp distinct name
  rw [List.count_filter (by simp [named])] at once
  exact Nat.le_trans (Bindings.length_valuesOf_zip_le _ values name) once

/-- Patterns fit whatever they take apart, if the same name always meets the same value. -/
theorem OthersRepeat.partsOfAll_none (repeats : declaration.OthersRepeat others)
    (unfit : Pattern.fitParams declaration.params.tail others = none) :
    Pattern.partsOfAll declaration.params.tail others = none := by
  rw [Pattern.fitParams_eq_bindAll] at unfit
  cases taken : Pattern.partsOfAll declaration.params.tail others with
  | none => rfl
  | some values =>
      have canBind : (Bindings.bindAll []
          ((Pattern.namesOfAll declaration.params.tail).zip values)).isSome :=
        Bindings.isSome_bindAll_iff.mpr fun name named => (repeats values taken name named).admits
      rw [taken, Option.bind_some] at unfit
      rw [unfit] at canBind
      cases canBind

/-- If the patterns after the first one do not fit, neither does the declaration. -/
theorem OthersRepeat.fitParams_none (repeats : declaration.OthersRepeat others) (first : Value)
    (sameLength : declaration.params.length = others.length + 1)
    (unfit : Pattern.fitParams declaration.params.tail others = none) :
    Pattern.fitParams declaration.params (first :: others) = none := by
  rcases List.exists_cons_of_length_eq_add_one sameLength with ⟨param, rest, params⟩
  have unfitRest := repeats.partsOfAll_none unfit
  rw [params, List.tail_cons] at unfitRest
  rw [params]
  exact Pattern.fitParams_cons_none unfitRest param first

/-! ## What an unwrapping clause fits -/

theorem unwrappedName_not_mem (declaration : Declaration) :
    declaration.unwrappedName ∉ declaration.takenNames :=
  NameSupply.fresh_not_mem _ _

theorem isAnonymous_unwrappedName (declaration : Declaration) :
    isAnonymous declaration.unwrappedName = false :=
  (NameSupply.isAnonymous_fresh _ (by decide)).trans (by decide)

theorem mem_takenNames_of_tail {name : String}
    (member : name ∈ Pattern.namesOfAll declaration.params.tail) :
    name ∈ declaration.takenNames := by
  apply List.mem_append_left
  change name ∈ Pattern.namesOfAll declaration.params
  cases params : declaration.params with
  | nil =>
      rw [params] at member
      exact member
  | cons param rest =>
      rw [params] at member
      rw [Pattern.namesOfAll_cons]
      exact List.mem_append_right _ member

theorem mem_takenNames_of_spelled {guard : Expr} (guarded : guard ∈ declaration.guard?)
    {name : String} (spelled : name ∈ guard.spelledNames) : name ∈ declaration.takenNames := by
  have written : declaration.guard? = some guard := guarded
  apply List.mem_append_right
  rw [written]
  exact .tail _ spelled

/-- The names that are taken when the other parameters get theirs. -/
def takenBeforeOthers (declaration : Declaration) : NameSupply :=
  (NameSupply.fresh ⟨declaration.takenNames⟩ unwrappedBase).2

theorem takenBeforeOthers_taken (declaration : Declaration) :
    declaration.takenBeforeOthers.taken =
      declaration.unwrappedName :: declaration.takenNames :=
  congrArg NameSupply.taken (NameSupply.fresh_snd _ _)

/-- The other parameters of an unwrapping clause keep their arguments. -/
theorem namedOthers_keepsAll (declaration : Declaration) :
    ∃ supply', KeepsAll declaration.takenBeforeOthers supply' declaration.params.tail
      declaration.namedOthers :=
  ⟨_, namedParams_keepsAll (by decide) (by decide) _ _⟩

/-- The names of an unwrapping clause, in order. -/
def unwrappingNames (declaration : Declaration) : List String :=
  declaration.unwrappedName :: Pattern.namesOfAll (declaration.namedOthers.map (·.1))

/-- The names that an unwrapping clause gives to its arguments. -/
def argumentNames (declaration : Declaration) : List String :=
  declaration.unwrappedName :: declaration.namedOthers.map (·.2)

/-- An unwrapping clause has a name for each of its arguments. -/
theorem argumentNames_length (hasFirst : declaration.params ≠ []) :
    declaration.argumentNames.length = declaration.params.length := by
  have positive : 0 < declaration.params.length := List.length_pos_iff.mpr hasFirst
  rw [argumentNames, List.length_cons, List.length_map, namedOthers, namedParams_length,
    List.length_tail]
  omega

/-- An unwrapping clause calls its function with the arguments that it has names for. -/
theorem okClause_body (declaration : Declaration) (order : Nat) :
    (declaration.okClause order).body =
      .delegate ⟨declaration.head.name, .generated⟩
        (declaration.argumentNames.map fun name => .ident ⟨name, .generated⟩) .generated := by
  rw [argumentNames, List.map_cons, List.map_map]
  rfl

theorem isAnonymous_unwrappingNames :
    ∀ name ∈ declaration.unwrappingNames, isAnonymous name = false := by
  rcases declaration.namedOthers_keepsAll with ⟨supply', keeps⟩
  intro name member
  rcases List.mem_cons.mp member with rfl | member
  · exact declaration.isAnonymous_unwrappedName
  · exact (keeps.supplies.source _ member).1

/-- A name that the declaration does not use occurs once at most in its unwrapping clause. -/
theorem count_unwrappingNames_le {name : String} (free : name ∉ declaration.takenNames) :
    declaration.unwrappingNames.count name ≤ 1 := by
  rcases declaration.namedOthers_keepsAll with ⟨supply', keeps⟩
  have known : ∀ name ∈ Pattern.namesOfAll declaration.params.tail,
      isAnonymous name = false → name ∈ declaration.takenBeforeOthers.taken := by
    intro name member _
    rw [takenBeforeOthers_taken]
    exact .tail _ (mem_takenNames_of_tail member)
  rw [unwrappingNames]
  by_cases first : name = declaration.unwrappedName
  · subst first
    have absent : declaration.unwrappedName ∉
        Pattern.namesOfAll (declaration.namedOthers.map (·.1)) := by
      intro member
      rcases (keeps.supplies.source _ member).2 with own | ⟨unknown, _⟩
      · exact free (mem_takenNames_of_tail own)
      · rw [takenBeforeOthers_taken] at unknown
        exact unknown (.head _)
    apply Nat.le_of_eq
    rw [List.count_cons_self, List.count_eq_zero_of_not_mem absent]
  · rw [List.count_cons_of_ne (Ne.symm first)]
    apply keeps.supplies.once known
    rw [takenBeforeOthers_taken]
    intro member
    rcases List.mem_cons.mp member with same | taken
    · exact first same
    · exact free taken

/-- What an unwrapping clause makes of a success, beside what the patterns after the first one make
of the other arguments. -/
structure Unwraps (declaration : Declaration) (value : Value) (others values values' : List Value) :
    Prop where
  parts : Pattern.partsOfAll (declaration.namedOthers.map (·.1)) others = some values'
  known : ∀ asked ∈ declaration.takenNames, isAnonymous asked = false →
    Bindings.valuesOf (declaration.unwrappingNames.zip (value :: values')) asked =
      Bindings.valuesOf ((Pattern.namesOfAll declaration.params.tail).zip values) asked
  sameLength : declaration.argumentNames.length = (value :: others).length
  keeps : ∀ pair ∈ declaration.argumentNames.zip (value :: others),
    pair ∈ declaration.unwrappingNames.zip (value :: values')

theorem exists_unwraps (value : Value) {values : List Value}
    (taken : Pattern.partsOfAll declaration.params.tail others = some values) :
    ∃ values', Unwraps declaration value others values values' := by
  rcases declaration.namedOthers_keepsAll with ⟨supply', keeps⟩
  rcases keeps.fits others values taken with ⟨values', taken', same, sameLength, kept⟩
  refine ⟨values', taken', ?_, ?_, ?_⟩
  · intro asked known named
    have differs : asked ≠ declaration.unwrappedName := by
      rintro rfl
      exact declaration.unwrappedName_not_mem known
    rw [unwrappingNames, List.zip_cons_cons, Bindings.valuesOf_cons_of_ne differs]
    apply same asked _ named
    rw [takenBeforeOthers_taken]
    exact .tail _ known
  · rw [argumentNames, List.length_cons, List.length_map, sameLength, List.length_cons]
  · intro pair member
    rcases List.mem_cons.mp member with rfl | member
    · exact .head _
    · exact .tail _ (kept pair member)

namespace Unwraps

variable {value : Value} {values values' : List Value}

/-- A name that the declaration does not use meets one value at most. -/
theorem repeats_of_free (values' : List Value) {asked : String}
    (free : asked ∉ declaration.takenNames) :
    Bindings.Repeats
      (Bindings.valuesOf (declaration.unwrappingNames.zip (value :: values')) asked) :=
  Bindings.repeats_of_length_le_one
    (Nat.le_trans (Bindings.length_valuesOf_zip_le _ _ asked) (count_unwrappingNames_le free))

/-- An unwrapping clause can bind its names if and only if its declaration can without the first
pattern. -/
theorem isSome_bindAll (unwraps : Unwraps declaration value others values values') :
    (Bindings.bindAll [] (declaration.unwrappingNames.zip (value :: values'))).isSome ↔
      (Bindings.bindAll []
        ((Pattern.namesOfAll declaration.params.tail).zip values)).isSome := by
  rw [Bindings.isSome_bindAll_iff, Bindings.isSome_bindAll_iff]
  apply forall_congr'
  intro asked
  apply imp_congr_right
  intro named
  by_cases known : asked ∈ declaration.takenNames
  · rw [unwraps.known asked known named]
  · have unused : Bindings.valuesOf
        ((Pattern.namesOfAll declaration.params.tail).zip values) asked = [] := by
      apply List.eq_nil_iff_forall_not_mem.mpr
      intro met member
      exact known (mem_takenNames_of_tail (List.of_mem_zip (Bindings.mem_valuesOf.mp member)).1)
    rw [unused]
    exact iff_of_true (repeats_of_free values' known).admits trivial

theorem fitParams_okClause (unwraps : Unwraps declaration value others values values')
    (order : Nat) :
    Pattern.fitParams (declaration.okClause order).params (.result .ok value :: others) =
      Bindings.bindAll [] (declaration.unwrappingNames.zip (value :: values')) := by
  rw [Pattern.fitParams_eq_bindAll, okClause_params]
  simp only [Pattern.partsOfAll, Pattern.parts, unwraps.parts, if_true]
  rfl

end Unwraps

/-- An unwrapping clause fits a success if the patterns after the first one fit the other arguments.
It then binds the names of its declaration as these patterns alone do. -/
theorem fitParams_okClause (order : Nat) (value : Value) {tailBindings : Bindings}
    (fits : Pattern.fitParams declaration.params.tail others = some tailBindings) :
    ∃ bindings,
      Pattern.fitParams (declaration.okClause order).params (.result .ok value :: others) =
          some bindings ∧
        ∀ asked ∈ declaration.takenNames,
          bindings.lookup asked = tailBindings.lookup asked := by
  rw [Pattern.fitParams_eq_bindAll] at fits
  rcases Option.bind_eq_some_iff.mp fits with ⟨values, taken, bound⟩
  rcases exists_unwraps value taken with ⟨values', unwraps⟩
  obtain ⟨bindings, bindingsBound⟩ := Option.isSome_iff_exists.mp
    (unwraps.isSome_bindAll.mpr (Option.isSome_of_eq_some bound))
  refine ⟨bindings, (unwraps.fitParams_okClause order).trans bindingsBound, ?_⟩
  intro asked known
  cases named : isAnonymous asked with
  | true =>
      rw [Bindings.lookup_bindAll_anonymous bindingsBound named,
        Bindings.lookup_bindAll_anonymous bound named]
  | false =>
      rw [Bindings.lookup_of_bindAll_nil bindingsBound named,
        Bindings.lookup_of_bindAll_nil bound named, unwraps.known asked known named]

/-- It fits nothing if the patterns after the first one do not fit the other arguments. -/
theorem fitParams_okClause_none (order : Nat) (first : Value)
    (unfit : Pattern.fitParams declaration.params.tail others = none) :
    Pattern.fitParams (declaration.okClause order).params (first :: others) = none := by
  rcases declaration.namedOthers_keepsAll with ⟨supply', keeps⟩
  cases taken : Pattern.partsOfAll declaration.params.tail others with
  | none =>
      rw [okClause_params]
      exact Pattern.fitParams_cons_none (keeps.unfit others taken) _ first
  | some values =>
      rw [Pattern.fitParams_eq_bindAll, taken, Option.bind_some] at unfit
      cases first with
      | result tag value =>
          cases tag with
          | ok =>
              rcases exists_unwraps value taken with ⟨values', unwraps⟩
              rw [unwraps.fitParams_okClause, ← Option.not_isSome_iff_eq_none,
                unwraps.isSome_bindAll, unfit]
              exact Bool.false_ne_true
          | error => rw [okClause_params]; rfl
      | _ => rw [okClause_params]; rfl

/-- An unwrapping clause gives its names to the very arguments, if the same name always meets the
same value. -/
theorem lookup_argumentNames (repeats : declaration.OthersRepeat others) {order : Nat}
    {value : Value} {bindings : Bindings}
    (fits : Pattern.fitParams (declaration.okClause order).params (.result .ok value :: others) =
      some bindings) :
    declaration.argumentNames.length = (value :: others).length ∧
      ∀ pair ∈ declaration.argumentNames.zip (value :: others),
        bindings.lookup pair.1 = some pair.2 := by
  cases taken : Pattern.partsOfAll declaration.params.tail others with
  | none =>
      rcases declaration.namedOthers_keepsAll with ⟨supply', keeps⟩
      rw [okClause_params, Pattern.fitParams_cons_none (keeps.unfit others taken)] at fits
      cases fits
  | some values =>
      rcases exists_unwraps value taken with ⟨values', unwraps⟩
      rw [unwraps.fitParams_okClause] at fits
      refine ⟨unwraps.sameLength, fun pair member => ?_⟩
      have own := unwraps.keeps pair member
      have named := isAnonymous_unwrappingNames pair.1 (List.of_mem_zip own).1
      have repeated : Bindings.Repeats
          (Bindings.valuesOf (declaration.unwrappingNames.zip (value :: values')) pair.1) := by
        by_cases known : pair.1 ∈ declaration.takenNames
        · rw [unwraps.known pair.1 known named]
          exact repeats values taken pair.1 named
        · exact Unwraps.repeats_of_free values' known
      rw [Bindings.lookup_of_bindAll_nil fits named]
      exact repeated.head?_eq (Bindings.mem_valuesOf.mpr own)

/-- If its declaration fits, the patterns after the first one fit by themselves. -/
theorem OthersRepeat.exists_fitParams (repeats : declaration.OthersRepeat others) {first : Value}
    {bindings : Bindings}
    (fits : Pattern.fitParams declaration.params (first :: others) = some bindings)
    (sameLength : declaration.params.length = others.length + 1) :
    ∃ tailBindings, Pattern.fitParams declaration.params.tail others = some tailBindings := by
  cases tailFits : Pattern.fitParams declaration.params.tail others with
  | some tailBindings => exact ⟨tailBindings, rfl⟩
  | none =>
      rw [repeats.fitParams_none first sameLength tailFits] at fits
      cases fits

/-- Names that are not in the first pattern stand for the same with and without it. -/
theorem lookup_of_not_mem_first {first : Value} {others : List Value}
    {bindings tailBindings : Bindings}
    (fits : Pattern.fitParams declaration.params (first :: others) = some bindings)
    (tailFits : Pattern.fitParams declaration.params.tail others = some tailBindings)
    {asked : String} (elsewhere : asked ∉ Pattern.namesOfAll (declaration.params.take 1)) :
    bindings.lookup asked = tailBindings.lookup asked := by
  cases params : declaration.params with
  | nil =>
      rw [params] at fits
      cases fits
  | cons param rest =>
      rw [params] at fits tailFits elsewhere
      apply Pattern.lookup_fitParams_cons fits tailFits
      intro own
      apply elsewhere
      change asked ∈ Pattern.namesOfAll [param]
      rw [Pattern.namesOfAll_cons]
      exact List.mem_append_left _ own

end Declaration
end ClauseFlow

import ClauseFlow.Proofs.Eval.Hygiene
import ClauseFlow.Proofs.Eval.Unwrapping

/-!
# What an unwrapping clause hands on

An unwrapping clause hands its arguments on under names that its patterns give to the whole ones. A
name of its own stands for the very argument. A name that the declaration gives may have met another
value before: that one is handed on. It is strictly equal to the argument, but need not look like it,
since zeros of both signs are equal, and so are maps with their entries in another order.
-/

namespace ClauseFlow

namespace Pattern

/-- The name that a pattern gives to the whole value, unless that name is anonymous. -/
def wholeName? : Pattern → Option String
  | .binding name _ | .named _ name _ => if isAnonymous name then none else some name
  | _ => none

theorem eq_of_wholeName? {name own : String} (whole :
    (if isAnonymous name then none else some name) = some own) :
    name = own ∧ isAnonymous own = false := by
  split at whole
  · cases whole
  · next named =>
      cases whole
      exact ⟨rfl, Bool.eq_false_iff.mpr named⟩

theorem isAnonymous_of_wholeName? {pattern : Pattern} {own : String}
    (whole : pattern.wholeName? = some own) : isAnonymous own = false := by
  cases pattern with
  | binding name span => exact (eq_of_wholeName? whole).2
  | named inner name span => exact (eq_of_wholeName? whole).2
  | _ => cases whole

/-- The name of the whole meets the whole. -/
theorem mem_zip_of_wholeName? {pattern : Pattern} {own : String}
    (whole : pattern.wholeName? = some own) {value : Value} {values : List Value}
    (taken : parts pattern value = some values) : (own, value) ∈ (names pattern).zip values := by
  cases pattern with
  | binding name span =>
      obtain ⟨rfl, _⟩ := eq_of_wholeName? whole
      exact mem_zip_binding taken
  | named inner name span =>
      obtain ⟨rfl, _⟩ := eq_of_wholeName? whole
      exact mem_zip_named taken
  | _ => cases whole

theorem mem_zip_namesOfAll {params : List Pattern} {arguments values : List Value}
    (taken : partsOfAll params arguments = some values) {param : Pattern} {argument : Value}
    (member : (param, argument) ∈ params.zip arguments) {own : String}
    (whole : param.wholeName? = some own) :
    (own, argument) ∈ (namesOfAll params).zip values := by
  induction params generalizing arguments values with
  | nil => cases member
  | cons first rest ih =>
      cases arguments with
      | nil => cases member
      | cons value others =>
          simp only [partsOfAll] at taken
          rcases Option.bind_eq_some_iff.mp taken with ⟨here, takenHere, taken⟩
          rcases Option.bind_eq_some_iff.mp taken with ⟨later, takenLater, taken⟩
          cases taken
          rw [namesOfAll_cons, List.zip_append (parts_length takenHere).symm]
          rcases List.mem_cons.mp member with same | member
          · cases same
            exact List.mem_append_left _ (mem_zip_of_wholeName? whole takenHere)
          · exact List.mem_append_right _ (ih takenLater member)

/-- What is found under the name of a whole is the argument, or an equal value met before. -/
theorem lookup_wholeName? {params : List Pattern} {arguments : List Value} {bindings : Bindings}
    (fits : fitParams params arguments = some bindings) {param : Pattern} {argument : Value}
    (member : (param, argument) ∈ params.zip arguments) {own : String}
    (whole : param.wholeName? = some own) :
    ∃ found, bindings.lookup own = some found ∧
      (found = argument ∨ Value.equal true found argument = true) := by
  rw [fitParams_eq_bindAll] at fits
  rcases Option.bind_eq_some_iff.mp fits with ⟨values, taken, bound⟩
  have named := isAnonymous_of_wholeName? whole
  have met : argument ∈ Bindings.valuesOf ((namesOfAll params).zip values) own :=
    Bindings.mem_valuesOf.mpr (mem_zip_namesOfAll taken member whole)
  have admits := Bindings.isSome_bindAll_iff.mp (Option.isSome_of_eq_some bound) own named
  rw [Bindings.lookup_of_bindAll_nil bound named]
  exact admits.exists_head? met

end Pattern

namespace Declaration

open Pattern (KeepsAll)

variable {base : String}

/-! ## The names that arguments are handed on under -/

/-- Whether a name is the one that a pattern gives to the whole, or, if it gives none, a new one. -/
def NamesWhole (taken : List String) (param : Pattern) (name : String) : Prop :=
  match param.wholeName? with
  | some own => name = own
  | none => name ∉ taken

theorem NamesWhole.mono {taken taken' : List String} {param : Pattern} {name : String}
    (subset : ∀ name ∈ taken', name ∈ taken) (whole : NamesWhole taken param name) :
    NamesWhole taken' param name := by
  rw [NamesWhole] at whole ⊢
  split at whole
  · exact whole
  · exact fun member => whole (subset name member)

/-- A name from a later supply is not taken. -/
theorem numbered_not_mem_of_supplies {supply supply' : NameSupply} {names names' : List String}
    (supplies : Pattern.Supplies supply supply' names names') (base : String) :
    (supply'.numbered base).1 ∉ supply.taken :=
  fun member => NameSupply.numbered_not_mem supply' base (supplies.grows _ member)

theorem namedParam_namesWhole (nonempty : base.toList ≠ []) (baseNamed : isAnonymous base = false)
    (param : Pattern) (supply : NameSupply) :
    NamesWhole supply.taken param ((namedParam base param).run supply).1.2 := by
  have supplies := (Pattern.nameAnonymous_named nonempty baseNamed param supply).supplies
  have here := NameSupply.numbered_not_mem supply base
  have later := numbered_not_mem_of_supplies supplies base
  cases param with
  | wildcard span => exact here
  | binding name span =>
      simp only [NamesWhole, Pattern.wholeName?, namedParam, Pattern.nameAnonymous]
      cases isAnonymous name with
      | true => exact here
      | false => exact rfl
  | named inner name span =>
      simp only [NamesWhole, Pattern.wholeName?, namedParam, Pattern.nameAnonymous]
      cases isAnonymous name with
      | true => exact here
      | false => exact rfl
  | list elements tail? span =>
      cases tail? with
      | none => exact later
      | some tail => exact later
  | _ => exact later

theorem namedParams_namesWhole (nonempty : base.toList ≠ []) (baseNamed : isAnonymous base = false)
    (params : List Pattern) (supply : NameSupply) :
    List.Forall₂ (NamesWhole supply.taken) params
      (((namedParams base params).run supply).1.map (·.2)) := by
  induction params generalizing supply with
  | nil => exact .nil
  | cons param rest ih =>
      have grows := (namedParam_keeps nonempty baseNamed param supply).supplies.grows
      have first := namedParam_namesWhole nonempty baseNamed param supply
      have later := ih ((namedParam base param).run supply).2
      exact .cons first (later.imp fun _ _ whole => whole.mono grows)

variable {declaration : Declaration} {order : Nat} {value : Value} {others : List Value}
  {bindings tailBindings : Bindings}

/-- A name that the declaration does not use is bound to the very part that it is there for. -/
theorem lookup_of_free {values values' : List Value}
    (unwraps : Unwraps declaration value others values values')
    (fits : Pattern.fitParams (declaration.okClause order).params (.result .ok value :: others) =
      some bindings) {name : String} {part : Value} (free : name ∉ declaration.takenNames)
    (member : (name, part) ∈ declaration.unwrappingNames.zip (value :: values')) :
    bindings.lookup name = some part := by
  rw [unwraps.fitParams_okClause] at fits
  rw [Bindings.lookup_of_bindAll_nil fits
    (isAnonymous_unwrappingNames name (List.of_mem_zip member).1)]
  exact (Unwraps.repeats_of_free values' free).head?_eq (Bindings.mem_valuesOf.mpr member)

/-! ## What is handed on -/

/-- What stands for an argument in a call that is handed on: the value found under the name that its
pattern gives to the whole, if it gives one. -/
def standIn (bindings : Bindings) (argument : Pattern × Value) : Value :=
  match argument.1.wholeName? with
  | some own => (bindings.lookup own).getD argument.2
  | none => argument.2

/-- The arguments after the first one, as the unwrapping clause hands them on. -/
def handedOn (declaration : Declaration) (bindings : Bindings) (others : List Value) : List Value :=
  (declaration.params.tail.zip others).map (standIn bindings)

/-- A stand-in is the argument or equal to it, and the argument itself exactly if the name of the
whole met no other value before. -/
theorem standIn_spec
    (tailFits : Pattern.fitParams declaration.params.tail others = some tailBindings)
    {argument : Pattern × Value} (member : argument ∈ declaration.params.tail.zip others) :
    (standIn tailBindings argument = argument.2 ∨
        Value.equal true (standIn tailBindings argument) argument.2 = true) ∧
      (standIn tailBindings argument = argument.2 ↔
        ∀ own ∈ argument.1.wholeName?, tailBindings.lookup own = some argument.2) := by
  rw [standIn]
  cases whole : argument.1.wholeName? with
  | none => exact ⟨.inl rfl, iff_of_true rfl nofun⟩
  | some own =>
      rcases Pattern.lookup_wholeName? tailFits member whole with ⟨found, bound, same⟩
      simp only [bound, Option.getD_some, Option.mem_def, Option.some.injEq, forall_eq']
      exact ⟨same, trivial⟩

/-- The name that an argument is handed on under stands for its stand-in. -/
theorem lookup_standIn {values values' : List Value}
    (unwraps : Unwraps declaration value others values values')
    (fits : Pattern.fitParams (declaration.okClause order).params (.result .ok value :: others) =
      some bindings)
    (tailFits : Pattern.fitParams declaration.params.tail others = some tailBindings)
    {argument : Pattern × Value} (member : argument ∈ declaration.params.tail.zip others)
    {name : String} (whole : NamesWhole declaration.takenNames argument.1 name)
    (kept : (name, argument.2) ∈ declaration.unwrappingNames.zip (value :: values')) :
    bindings.lookup name = some (standIn tailBindings argument) := by
  rw [NamesWhole] at whole
  rw [standIn]
  split at whole
  · next own isOwn =>
      subst whole
      rcases Pattern.lookup_wholeName? tailFits member isOwn with ⟨found, bound, _⟩
      have known : name ∈ declaration.takenNames :=
        mem_takenNames_of_tail (mem_names_of_lookup tailFits (Option.isSome_of_eq_some bound))
      rw [lookup_okClause fits tailFits known, bound]
      rfl
  · exact lookup_of_free unwraps fits whole kept

/-- Names that belong to patterns one by one are looked up one by one. -/
theorem lookup_map_standIn {taken names : List String} {params : List Pattern}
    {arguments : List Value} (whole : List.Forall₂ (NamesWhole taken) params names)
    (each : ∀ argument ∈ params.zip arguments, ∀ name, NamesWhole taken argument.1 name →
      (name, argument.2) ∈ names.zip arguments →
        bindings.lookup name = some (standIn tailBindings argument)) :
    ∀ pair ∈ names.zip ((params.zip arguments).map (standIn tailBindings)),
      bindings.lookup pair.1 = some pair.2 := by
  induction whole generalizing arguments with
  | nil => nofun
  | @cons param name params names here _ ih =>
      cases arguments with
      | nil => nofun
      | cons argument rest =>
          intro pair member
          rcases List.mem_cons.mp member with rfl | member
          · exact each (param, argument) (.head _) name here (.head _)
          · refine ih (fun later laterMember asked askedWhole askedMember => ?_) pair member
            exact each later (.tail _ laterMember) asked askedWhole (.tail _ askedMember)

theorem evaluate_okBody_handedOn
    (fits : Pattern.fitParams (declaration.okClause order).params (.result .ok value :: others) =
      some bindings)
    (tailFits : Pattern.fitParams declaration.params.tail others = some tailBindings)
    (calls : Calls) (setting : Setting) (stamp : Nat) :
    Eval.evaluate calls setting (Eval.clauseEnvironment bindings) (declaration.okClause order).body
        stamp =
      calls.dispatch declaration.head.name (value :: declaration.handedOn tailBindings others)
        stamp := by
  have taken := tailFits
  rw [Pattern.fitParams_eq_bindAll] at taken
  rcases Option.bind_eq_some_iff.mp taken with ⟨values, taken, _⟩
  rcases exists_unwraps value taken with ⟨values', unwraps⟩
  have whole : List.Forall₂ (NamesWhole declaration.takenNames) declaration.params.tail
      (declaration.namedOthers.map (·.2)) := by
    have beforeOthers := @namedParams_namesWhole unwrappedBase (by decide) (by decide)
      declaration.params.tail declaration.takenBeforeOthers
    refine beforeOthers.imp fun _ _ whole => whole.mono ?_
    rw [takenBeforeOthers_taken]
    exact fun name => List.mem_cons_of_mem _
  have sameLength : declaration.argumentNames.length =
      (value :: declaration.handedOn tailBindings others).length := by
    have paired := whole.length_eq
    have all := unwraps.sameLength
    rw [argumentNames, List.length_cons, List.length_cons] at all
    rw [argumentNames, List.length_cons, List.length_cons, handedOn, List.length_map (standIn _),
      List.length_zip, paired, Nat.succ.inj all, Nat.min_self]
  refine Eval.evaluate_okBody sameLength (fun pair member => ?_) stamp
  rcases List.mem_cons.mp member with rfl | member
  · exact lookup_of_free unwraps fits declaration.unwrappedName_not_mem (.head _)
  · refine lookup_map_standIn whole (fun argument isArgument name names kept => ?_) pair member
    exact lookup_standIn unwraps fits tailFits isArgument names
      (unwraps.keeps _ (.tail _ kept))

/-! ## When nothing is lost -/

/-- There is an argument for each of the patterns after the first one. -/
theorem map_snd_zip_others
    (tailFits : Pattern.fitParams declaration.params.tail others = some tailBindings) :
    (declaration.params.tail.zip others).map (·.2) = others := by
  rw [Pattern.fitParams_eq_bindAll] at tailFits
  rcases Option.bind_eq_some_iff.mp tailFits with ⟨values, taken, _⟩
  rcases declaration.namedOthers_keepsAll with ⟨supply', keeps⟩
  rcases keeps.fits others values taken with ⟨_, _, _, sameLength, _⟩
  rw [namedOthers, namedParams_length] at sameLength
  exact List.map_snd_zip (Nat.le_of_eq sameLength.symm)

/-- Whether a clause hands a success and other arguments on, given what the patterns after the first
one bind. -/
structure HandsOn (declaration : Declaration) (clause : Clause) (value : Value)
    (others : List Value) (bindings tailBindings : Bindings) : Prop where
  /-- The body calls the function with what is in the success and with what stands for the other
  arguments. -/
  calls : ∀ (calls : Calls) (setting : Setting) (stamp : Nat),
    Eval.evaluate calls setting (Eval.clauseEnvironment bindings) clause.body stamp =
      calls.dispatch declaration.head.name (value :: declaration.handedOn tailBindings others) stamp
  /-- What stands for an argument is the argument, or equal to it. -/
  equal : List.Forall₂ (fun handed argument => handed = argument ∨ Value.equal true handed argument)
    (declaration.handedOn tailBindings others) others
  /-- Nothing is replaced exactly if each argument is the first value that the name of its whole
  meets. -/
  lossless_iff : declaration.handedOn tailBindings others = others ↔
    ∀ argument ∈ declaration.params.tail.zip others,
      ∀ own ∈ argument.1.wholeName?, tailBindings.lookup own = some argument.2
  /-- This is so if no name occurs twice. -/
  lossless : declaration.OthersDistinct → declaration.handedOn tailBindings others = others

/-- Where each name meets one value only, each argument stands for itself. -/
theorem handedOn_of_repeat (repeats : declaration.OthersRepeat others)
    (tailFits : Pattern.fitParams declaration.params.tail others = some tailBindings) :
    declaration.handedOn tailBindings others = others := by
  have fits := tailFits
  rw [Pattern.fitParams_eq_bindAll] at fits
  rcases Option.bind_eq_some_iff.mp fits with ⟨values, taken, bound⟩
  refine Eq.trans (List.map_congr_left fun argument member => ?_) (map_snd_zip_others tailFits)
  apply (standIn_spec tailFits member).2.mpr
  intro own whole
  have named := Pattern.isAnonymous_of_wholeName? whole
  rw [Bindings.lookup_of_bindAll_nil bound named]
  apply (repeats values taken own named).head?_eq
  exact Bindings.mem_valuesOf.mpr (Pattern.mem_zip_namesOfAll taken member whole)

theorem okClause_handsOn
    (fits : Pattern.fitParams (declaration.okClause order).params (.result .ok value :: others) =
      some bindings)
    (tailFits : Pattern.fitParams declaration.params.tail others = some tailBindings) :
    declaration.HandsOn (declaration.okClause order) value others bindings tailBindings := by
  have whole := map_snd_zip_others tailFits
  constructor
  case calls => exact evaluate_okBody_handedOn fits tailFits
  case equal =>
      conv => arg 3; rw [← whole]
      rw [handedOn, List.forall₂_map_left_iff, List.forall₂_map_right_iff, List.forall₂_same]
      exact fun argument member => (standIn_spec tailFits member).1
  case lossless_iff =>
      conv => lhs; rhs; rw [← whole]
      rw [handedOn, List.map_inj_left]
      exact forall₂_congr fun argument member => (standIn_spec tailFits member).2
  case lossless => exact fun distinct => handedOn_of_repeat (distinct.repeat others) tailFits

/-- A `pipe` declaration with parameters stands for one unwrapping clause. Whenever this clause fits
a success, so do the patterns after the first one, and the call is handed on with an equal argument
in each place. -/
theorem exists_delegating_unwrapping (pipe : declaration.synthesized = true)
    (hasFirst : declaration.params ≠ []) (order : Nat) :
    ∃ clause, (declaration.clauses order).filter (fun clause => clause.kind = .okUnwrap) =
        [clause] ∧
      ∀ (value : Value) (others : List Value) (bindings : Bindings),
        Pattern.fitParams clause.params (.result .ok value :: others) = some bindings →
          ∃ tailBindings,
            Pattern.fitParams declaration.params.tail others = some tailBindings ∧
              declaration.HandsOn clause value others bindings tailBindings := by
  refine ⟨declaration.okClause order, ?_, fun value others bindings fits => ?_⟩
  · have nonempty : declaration.params.isEmpty = false := by simpa using hasFirst
    rw [clauses, pipe, nonempty]
    rfl
  · rcases Option.isSome_iff_exists.mp
      (isSome_fitParams_okClause.mp (Option.isSome_of_eq_some fits)) with ⟨tailBindings, tailFits⟩
    exact ⟨tailBindings, tailFits, okClause_handsOn fits tailFits⟩

/-- `pipe relay(_, low, {_x, :a}, [low | rest] = all) -> Ok(low)`. -/
def relaying : Declaration :=
  let here : Span := .generated
  let pair : Pattern := .tuple [.binding "_x" here, .literal (.atom "a") here] here
  let list : Pattern := .list [.binding "low" here] (some (.binding "rest" here)) here
  ⟨.plain ⟨"relay", [.wildcard here, .binding "low" here, pair, .named list "all" here], here⟩,
    .result .ok (.ident ⟨"low", here⟩) here, true, none, here⟩

/-- A name that occurs again inside a list does no harm: the whole list is handed on, with its own
zero in it. -/
theorem exists_delegating_unwrapping_relaying :
    relaying.synthesized = true ∧ relaying.params ≠ [] ∧
      (∃ clause, (relaying.clauses 0).filter (fun clause => clause.kind = .okUnwrap) = [clause] ∧
        ∀ (value : Value) (others : List Value) (bindings : Bindings),
          Pattern.fitParams clause.params (.result .ok value :: others) = some bindings →
            ∃ tailBindings, Pattern.fitParams relaying.params.tail others = some tailBindings ∧
              relaying.HandsOn clause value others bindings tailBindings) ∧
      (let others : List Value :=
        [.decimal (.signedZero false), .tuple [.nil, .atom "a"],
          .list [.decimal (.signedZero true), .integer 2]]
      (Pattern.fitParams relaying.params.tail others).map (relaying.handedOn · others) =
        some others) :=
  ⟨rfl, by decide, exists_delegating_unwrapping rfl (by decide) 0, rfl⟩

/-- `pipe f(:never, b, b) -> Ok(b)` and `def f(_a, _b, c) -> c`. -/
def repeating : List Declaration :=
  let here : Span := .generated
  [⟨.plain ⟨"f", [.literal (.atom "never") here, .binding "b" here, .binding "b" here], here⟩,
      .result .ok (.ident ⟨"b", here⟩) here, true, none, here⟩,
    ⟨.plain ⟨"f", [.binding "_a" here, .binding "_b" here, .binding "c" here], here⟩,
      .ident ⟨"c", here⟩, false, none, here⟩]

/-- A name that occurs again as a whole does: `f(Ok(1), 0.0, -0.0)` is handed on as
`f(1, 0.0, 0.0)`, which is `0.0`, whereas `f(1, 0.0, -0.0)` is `-0.0`. -/
theorem delegation_loses_sign :
    (∃ declaration ∈ repeating, declaration.synthesized = true ∧ declaration.params ≠ [] ∧
      ∃ bindings,
        Pattern.fitParams (declaration.okClause 0).params
            [.result .ok (.integer 1), .decimal (.signedZero false), .decimal (.signedZero true)] =
          some bindings ∧
        ¬ ∀ (calls : Calls) (setting : Setting) (stamp : Nat),
          Eval.evaluate calls setting (Eval.clauseEnvironment bindings)
              (declaration.okClause 0).body stamp =
            calls.dispatch "f"
              [.integer 1, .decimal (.signedZero false), .decimal (.signedZero true)] stamp) ∧
      Run.EndsIn (Eval.dispatches ⟨.ofDeclarations repeating, [], 0⟩ "f"
          [.result .ok (.integer 1), .decimal (.signedZero false), .decimal (.signedZero true)]) 0
        (.ok (.decimal (.signedZero false), 0)) ∧
      Run.EndsIn (Eval.dispatches ⟨.ofDeclarations repeating, [], 0⟩ "f"
          [.integer 1, .decimal (.signedZero false), .decimal (.signedZero true)]) 0
        (.ok (.decimal (.signedZero true), 0)) := by
  refine ⟨⟨repeating[0], .head _, rfl, by decide, _, rfl, fun same => ?_⟩, ?_, ?_⟩
  · have differs := same ⟨fun _ arguments stamp => .ok (.list arguments, stamp),
      fun _ _ _ stamp => .ok (.nil, stamp)⟩ ⟨.ofDeclarations [], [], 0⟩ 0
    cases differs
  · exact (Eval.dispatches_deepening _ _ _).endsIn (rfl : Eval.dispatches _ _ _ 2 0 = _) nofun
  · exact (Eval.dispatches_deepening _ _ _).endsIn (rfl : Eval.dispatches _ _ _ 2 0 = _) nofun

end Declaration
end ClauseFlow

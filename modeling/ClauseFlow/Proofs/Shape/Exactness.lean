import ClauseFlow.Proofs.Clause.Unwrapping
import ClauseFlow.Proofs.Shape.Renaming
import ClauseFlow.Proofs.Shape.Rows

/-!
# Shapes are exact

Parameters have one shape exactly if a renaming turns the ones into the others. They then fit the
same arguments, with bindings that agree under the renaming; and where they belong to unwrapping
clauses of one function, the renaming turns the body of the one clause into that of the other.
-/

namespace ClauseFlow

namespace Shape

open Pattern (Renames names namesOfAll distinguish distinguishFrom)

/-! ## One shape and a renaming -/

/-- Telling anonymous names apart does not change a shape. -/
theorem patternTrees_distinguish (params : List Pattern) :
    patternTrees (distinguish params) ⟨[], 0⟩ = patternTrees params ⟨[], 0⟩ := by
  apply patternTrees_relabelAll params 0
  change _ = (Numbering.numberAll _ (namesOfAll (distinguish params))).1
  rw [Pattern.namesOfAll_distinguish, Numbering.numberAll_distinguishFrom]

theorem toldApart_distinguish (params : List Pattern) :
    Pattern.ToldApart (namesOfAll (distinguish params)) := by
  rw [Pattern.namesOfAll_distinguish]
  exact Pattern.toldApart_distinguishFrom 0 _

variable {params params' : List Pattern} {respell : String → String}

/-- A renaming turns the names of the parameters, in a row, into the names of the others. -/
theorem map_namesOfAll_of_renames (renames : Renames respell params params') :
    (namesOfAll (distinguish params)).map respell = namesOfAll (distinguish params') := by
  have rows := congrArg namesOfAll renames.turns
  rw [Pattern.namesOfAll_unsignedAll, Pattern.namesOfAll_unsignedAll,
    Pattern.namesOfAll_renameAll] at rows
  exact rows

theorem patternTrees_eq_of_renames (renames : Renames respell params params') :
    patternTrees params ⟨[], 0⟩ = patternTrees params' ⟨[], 0⟩ := by
  have row := map_namesOfAll_of_renames renames
  have sameNumbers := (Numbering.numberAll_eq_iff (toldApart_distinguish params)
    (toldApart_distinguish params')).mpr ⟨respell, renames.bijective, row⟩
  rw [← row, ← Pattern.namesOfAll_renameAll] at sameNumbers
  have renamed := patternTrees_relabelAll (distinguish params) () sameNumbers
  calc
    patternTrees params ⟨[], 0⟩ = patternTrees (distinguish params) ⟨[], 0⟩ :=
      (patternTrees_distinguish params).symm
    _ = patternTrees (Pattern.renameAll respell (distinguish params)) ⟨[], 0⟩ := renamed.symm
    _ = patternTrees (distinguish params') ⟨[], 0⟩ := by
      rw [← patternTrees_unsignedAll, renames.turns, patternTrees_unsignedAll]
    _ = patternTrees params' ⟨[], 0⟩ := patternTrees_distinguish params'

theorem exists_renames_of_patternTrees_eq
    (same : patternTrees params ⟨[], 0⟩ = patternTrees params' ⟨[], 0⟩) :
    ∃ respell, Renames respell params params' := by
  rw [← patternTrees_distinguish params, ← patternTrees_distinguish params'] at same
  have alike := allAlike_of_trees_eq same
  rcases (Numbering.numberAll_eq_iff (toldApart_distinguish params)
    (toldApart_distinguish params')).mp alike.numbers with ⟨respell, bijective, row⟩
  exact ⟨respell, bijective, alike.turned respell row⟩

theorem shapeKey_eq_iff {clause clause' : Clause} (unguarded : clause.guard? = none)
    (unguarded' : clause'.guard? = none) (sameFunction : clause.signature = clause'.signature)
    (sameKind : clause.kind = clause'.kind) :
    clause.shapeKey = clause'.shapeKey ↔
      patternTrees clause.params ⟨[], 0⟩ = patternTrees clause'.params ⟨[], 0⟩ := by
  constructor
  · exact fun same => (trees_eq_of_shapeKey_eq same).1
  · intro same
    have sameTree : (treeOf clause.params clause.guard?).unsigned =
        (treeOf clause'.params clause'.guard?).unsigned := by
      rw [unsigned_treeOf, unsigned_treeOf, same, unguarded, unguarded']
      rfl
    rw [Clause.shapeKey, Clause.shapeKey, Clause.shape, Clause.shape, unsigned, unsigned, sameTree,
      sameFunction, sameKind]

/-! ## The same arguments -/

theorem isSome_fitParams_of_renames (renames : Renames respell params params')
    (arguments : List Value) :
    (Pattern.fitParams params arguments).isSome = (Pattern.fitParams params' arguments).isSome := by
  have agree := fitParams_agree (patternTrees_eq_of_renames renames) arguments
  generalize Pattern.fitParams params arguments = fitted at agree
  generalize Pattern.fitParams params' arguments = fitted' at agree
  cases agree with
  | none => rfl
  | some _ => rfl

/-- A name is bound to what the name that it turns into is bound to. -/
theorem exists_lookup_of_renames (renames : Renames respell params params')
    {arguments : List Value} {bindings bindings' : Bindings}
    (fits : Pattern.fitParams params arguments = some bindings)
    (fits' : Pattern.fitParams params' arguments = some bindings') {name : String}
    (member : name ∈ namesOfAll params) (named : isAnonymous name = false)
    (named' : isAnonymous (respell name) = false) :
    ∃ value, bindings.lookup name = some value ∧ bindings'.lookup (respell name) = some value := by
  have alike := allAlike_of_trees_eq (patternTrees_eq_of_renames renames)
  rcases Option.isSome_iff_exists.mp (Pattern.isSome_lookup_of_fitParams fits member named) with
    ⟨value, found⟩
  rw [Pattern.fitParams_eq_bindAll] at fits fits'
  rcases Option.bind_eq_some_iff.mp fits with ⟨values, taken, bound⟩
  rcases Option.bind_eq_some_iff.mp fits' with ⟨values', taken', bound'⟩
  obtain rfl : values = values' := by
    rw [alike.parts, taken'] at taken
    exact (Option.some.inj taken).symm
  have known : name ∈ namesOfAll (distinguish params) := by
    rw [Pattern.namesOfAll_distinguish]
    exact Pattern.mem_distinguishFrom_of_named member named 0
  have sameValues : Bindings.valuesOf ((namesOfAll params').zip values) (respell name) =
      Bindings.valuesOf ((namesOfAll params).zip values) name := by
    rw [← Pattern.valuesOf_distinguishFrom named' 0, ← Pattern.valuesOf_distinguishFrom named 0,
      ← Pattern.namesOfAll_distinguish, ← Pattern.namesOfAll_distinguish,
      ← map_namesOfAll_of_renames renames]
    exact Pattern.valuesOf_map renames.bijective.injOn known values
  refine ⟨value, found, ?_⟩
  rw [Bindings.lookup_of_bindAll_nil bound' named', sameValues,
    ← Bindings.lookup_of_bindAll_nil bound named]
  exact found

end Shape

/-! ## Bodies of unwrapping clauses -/

namespace Expr

/-- An identifier spelled in another way. -/
def renameIdent (respell : String → String) : Expr → Expr
  | .ident identifier => .ident ⟨respell identifier.name, identifier.span⟩
  | other => other

/-- The arguments of a call that is handed on, with their names spelled in another way. The function
that is called is no variable and keeps its name. -/
def renameHandedOn (respell : String → String) : Expr → Expr
  | .delegate callee arguments span =>
      .delegate callee (arguments.map (renameIdent respell)) span
  | other => other

end Expr

namespace Declaration

open Pattern (Renames names namesOfAll distinguish)

variable {declaration declaration' : Declaration} {respell : String → String}

/-- An argument is handed on under the last name of its pattern. -/
theorem map_getLast?_okClause (declaration : Declaration) (order : Nat) :
    ((declaration.okClause order).params.map names).map List.getLast? =
      declaration.argumentNames.map some := by
  rw [okClause_params, argumentNames, List.map_cons, List.map_cons, List.map_cons, List.map_map,
    List.map_map, List.map_map]
  exact congrArg (some declaration.unwrappedName :: ·)
    (List.map_congr_left (namedParams_last _ _ _))

/-- No name of an unwrapping clause is anonymous. -/
theorem isAnonymous_namesOfAll_okClause (declaration : Declaration) (order : Nat) :
    ∀ name ∈ namesOfAll (declaration.okClause order).params, isAnonymous name = false := by
  rw [okClause_params]
  exact isAnonymous_unwrappingNames

/-- Without anonymous names, a renaming turns the names of each pattern into those of its
counterpart. -/
theorem map_names_of_renames {params params' : List Pattern}
    (renames : Renames respell params params')
    (named : ∀ name ∈ namesOfAll params, isAnonymous name = false)
    (named' : ∀ name ∈ namesOfAll params', isAnonymous name = false) :
    (params.map names).map (List.map respell) = params'.map names := by
  have rows := congrArg (List.map names) renames.turns
  rw [Pattern.map_names_unsignedAll, Pattern.map_names_unsignedAll, Pattern.map_names_renameAll,
    distinguish, Pattern.map_names_relabelAll named, distinguish,
    Pattern.map_names_relabelAll named'] at rows
  exact rows

/-- A renaming of the patterns of unwrapping clauses turns the names of the arguments into each
other. -/
theorem map_argumentNames {order order' : Nat}
    (renames : Renames respell (declaration.okClause order).params
      (declaration'.okClause order').params) :
    declaration.argumentNames.map respell = declaration'.argumentNames := by
  have rows := map_names_of_renames renames (isAnonymous_namesOfAll_okClause declaration order)
    (isAnonymous_namesOfAll_okClause declaration' order')
  apply (List.map_inj_right fun _ _ => Option.some.inj).mp
  calc
    (declaration.argumentNames.map respell).map some =
        (declaration.argumentNames.map some).map (Option.map respell) := by
      rw [List.map_map, List.map_map]
      rfl
    _ = (((declaration.okClause order).params.map names).map (List.map respell)).map
        List.getLast? := by
      rw [← map_getLast?_okClause declaration order]
      simp only [List.map_map]
      exact List.map_congr_left fun param _ => List.getLast?_map.symm
    _ = declaration'.argumentNames.map some := by
      rw [rows, map_getLast?_okClause]

/-- It turns the bodies into each other as well. -/
theorem renameHandedOn_okBody {order order' : Nat}
    (renames : Renames respell (declaration.okClause order).params
      (declaration'.okClause order').params)
    (sameName : declaration.head.name = declaration'.head.name) :
    (declaration.okClause order).body.renameHandedOn respell =
      (declaration'.okClause order').body := by
  rw [okClause_body, okClause_body, Expr.renameHandedOn, sameName, ← map_argumentNames renames,
    List.map_map, List.map_map]
  rfl

end Declaration

namespace Shape

open Pattern (Renames)

/-! ## Exactness -/

/-- What a renaming of parameters entails. -/
structure Twinned (respell : String → String) (params params' : List Pattern) : Prop where
  /-- The same arguments are fitted. -/
  fits : ∀ arguments : List Value,
    (Pattern.fitParams params arguments).isSome = (Pattern.fitParams params' arguments).isSome
  /-- A name and the one that it turns into are bound to the same value. -/
  agree : ∀ (arguments : List Value) (bindings bindings' : Bindings),
    Pattern.fitParams params arguments = some bindings →
    Pattern.fitParams params' arguments = some bindings' →
      ∀ name ∈ Pattern.namesOfAll params, isAnonymous name = false →
        isAnonymous (respell name) = false →
          ∃ value, bindings.lookup name = some value ∧
            bindings'.lookup (respell name) = some value
  /-- Unwrapping clauses of one function with these patterns have bodies that turn into each
  other. -/
  bodies : ∀ (declaration declaration' : Declaration) (order order' : Nat),
    declaration.head.name = declaration'.head.name →
    (declaration.okClause order).params = params →
    (declaration'.okClause order').params = params' →
      (declaration.okClause order).body.renameHandedOn respell =
        (declaration'.okClause order').body

/-- Clauses without guards, of one function and one kind, have one shape exactly if a renaming turns
the parameters of the one into those of the other. Whatever renaming does this, the parameters fit
the same arguments with bindings that agree under it, and it turns the bodies of unwrapping clauses
with these parameters into each other. -/
theorem shapeKey_exact (params params' : List Pattern) :
    (∀ clause clause' : Clause, clause.params = params → clause'.params = params' →
      clause.guard? = none → clause'.guard? = none → clause.signature = clause'.signature →
      clause.kind = clause'.kind →
        (clause.shapeKey = clause'.shapeKey ↔ ∃ respell, Renames respell params params')) ∧
      ∀ respell, Renames respell params params' → Twinned respell params params' := by
  constructor
  · rintro clause clause' rfl rfl unguarded unguarded' sameFunction sameKind
    rw [shapeKey_eq_iff unguarded unguarded' sameFunction sameKind]
    constructor
    · exact exists_renames_of_patternTrees_eq
    · intro ⟨respell, renames⟩
      exact patternTrees_eq_of_renames renames
  · intro respell renames
    constructor
    case fits => exact isSome_fitParams_of_renames renames
    case agree =>
        intro arguments bindings bindings' fits fits' name member named named'
        exact exists_lookup_of_renames renames fits fits' member named named'
    case bodies =>
        rintro declaration declaration' order order' sameName rfl rfl
        exact Declaration.renameHandedOn_okBody renames sameName

/-- The parameters `first, {left, right}, [first, 0.0 | rest] = whole`, or with `-0.0`. -/
def spelled (first left right rest whole : String) (negative : Bool) : List Pattern :=
  let here : Span := .generated
  let bind (name : String) : Pattern := .binding name here
  let zero : Pattern := .literal (.decimal (.signedZero negative)) here
  [bind first, .tuple [bind left, bind right] here,
    .named (.list [bind first, zero] (some (bind rest)) here) whole here]

/-- A clause of a function `f` that returns `nil`. -/
def idle (params : List Pattern) : Clause :=
  ⟨.default, ⟨"f", 3⟩, .plain ⟨"f", params, .generated⟩, .nil .generated, 0⟩

/-- An anonymous name that occurs twice turns into two names, a name that occurs twice does not turn
into an anonymous one that does. -/
theorem shapeKey_exact_spelled :
    (∃ respell, Renames respell (spelled "x" "y" "_a" "_a" "_b" true)
      (spelled "n" "_k" "m" "r" "z" false)) ∧
      ¬∃ respell, Renames respell (spelled "x" "y" "y" "r" "z" true)
        (spelled "x" "_y" "_y" "r" "z" true) := by
  have iffRenames (params params' : List Pattern) :=
    (shapeKey_exact params params').1 (idle params) (idle params') rfl rfl rfl rfl rfl rfl
  constructor
  · exact (iffRenames _ _).mp (by decide +kernel)
  · rw [← iffRenames]
    decide +kernel

end Shape
end ClauseFlow

import ClauseFlow.Proofs.Clause.Unwrapping
import ClauseFlow.Proofs.Format.Preservation

/-!
# Clauses that can be listed

A part of a clause can be listed if it is what the reader finds and all its numbers are finite and
have a numeral. Naming anonymous names, giving names to whole arguments and calling the function
again keep it so: the clauses of declarations that can be listed can be listed as well.
-/

namespace ClauseFlow

/-! ## Names that are made up -/

/-- Whether a base is a name of the language, alone and with every number. -/
structure IsNameBase (base : String) : Prop where
  nonempty : base.toList ≠ []
  named : isAnonymous base = false
  alone : isName base = true
  candidate : ∀ number, isName (NameSupply.candidate base number) = true

namespace IsNameBase

variable {base : String}

theorem isName_numbered (isBase : IsNameBase base) (supply : NameSupply) :
    isName (supply.numbered base).1 = true :=
  isBase.candidate _

theorem isName_fresh (isBase : IsNameBase base) (supply : NameSupply) :
    isName (supply.fresh base).1 = true := by
  rw [NameSupply.fresh]
  split
  · exact isBase.isName_numbered supply
  · exact isBase.alone

theorem numbered_ne_wildcard (isBase : IsNameBase base) (supply : NameSupply) :
    (supply.numbered base).1 ≠ "_" := by
  intro same
  have anonymous := NameSupply.isAnonymous_numbered supply isBase.nonempty
  rw [same, isBase.named] at anonymous
  cases anonymous

end IsNameBase

theorem CharClass.isNamePart_of_isDigit {c : Char} (digit : c.isDigit = true) :
    isNamePart c = true := by
  have ascii : isAscii c = true := by
    simp only [Char.isDigit, Bool.and_eq_true, decide_eq_true_eq] at digit
    have small : c.toNat ≤ 57 := digit.2
    exact decide_eq_true (Nat.lt_of_le_of_lt small (by decide))
  simp [isNamePart, isAlphanumeric, ascii, Char.isAlphanum, digit]

namespace Declaration

/-- No keyword begins like the names that an unwrapping clause makes up. -/
theorem isName_candidate (number : Nat) :
    isName (NameSupply.candidate unwrappedBase number) = true := by
  have written : (NameSupply.candidate unwrappedBase number).toList =
      'x' :: Nat.toDigits 10 number := by
    rw [NameSupply.candidate, String.toList_append, Numeral.natText, String.toList_ofList]
    rfl
  have digits : (Nat.toDigits 10 number).all CharClass.isNamePart = true :=
    List.all_eq_true.mpr fun c member =>
      CharClass.isNamePart_of_isDigit (Numeral.allDigits_toDigits number c member)
  have differs {keyword : String} (begins : keyword.toList.head? ≠ some 'x') :
      String.ofList ('x' :: Nat.toDigits 10 number) ≠ keyword := by
    rintro rfl
    rw [String.toList_ofList] at begins
    exact begins rfl
  have noKeyword : TokenKind.ofKeyword? ('x' :: Nat.toDigits 10 number) = none := by
    rw [TokenKind.ofKeyword?.eq_def]
    split
    case h_16 => rfl
    all_goals
      rename_i same
      exact absurd same (differs (by decide))
  apply isName_iff.mpr
  constructor
  · rw [isWord, written]
    simp only [digits, Bool.and_true]
    decide +kernel
  · have lower : CharClass.isUpper 'x' = false := by decide +kernel
    simp [wordKind, written, noKeyword, lower]

theorem isNameBase_unwrappedBase : IsNameBase unwrappedBase where
  nonempty := by decide
  named := by decide
  alone := by decide +kernel
  candidate := isName_candidate

end Declaration

/-! ## Patterns -/

namespace Pattern

/-- Whether a constant has a notation. -/
def isShortPart : Pattern → Bool
  | .literal value _ => value.hasNotation
  | _ => true

mutual

theorem hasNotation_eq_every : ∀ pattern : Pattern,
    pattern.hasNotation = pattern.every isShortPart
  | .literal .. | .wildcard _ | .binding .. => rfl
  | .tuple elements _ | .list elements none _ => by
      simp only [hasNotation, every, isShortPart, Bool.true_and, allHaveNotation_eq_every elements]
  | .list elements (some tail) _ => by
      simp only [hasNotation, every, isShortPart, Bool.true_and, allHaveNotation_eq_every elements,
        hasNotation_eq_every tail]
  | .map entries _ | .record _ entries _ => by
      simp only [hasNotation, every, isShortPart, Bool.true_and,
        entriesHaveNotation_eq_every entries]
  | .result _ inner _ | .named inner _ _ => by
      simp only [hasNotation, every, isShortPart, Bool.true_and, hasNotation_eq_every inner]

theorem allHaveNotation_eq_every : ∀ patterns : List Pattern,
    allHaveNotation patterns = everyOfAll isShortPart patterns
  | [] => rfl
  | pattern :: rest => by
      simp only [allHaveNotation, everyOfAll, hasNotation_eq_every pattern,
        allHaveNotation_eq_every rest]

theorem entriesHaveNotation_eq_every : ∀ entries : List (String × Pattern),
    entriesHaveNotation entries = everyOfEntries isShortPart entries
  | [] => rfl
  | (_, pattern) :: rest => by
      simp only [entriesHaveNotation, everyOfEntries, hasNotation_eq_every pattern,
        entriesHaveNotation_eq_every rest]

end

def isListablePart (part : Pattern) : Bool :=
  part.isSpelledPart && (part.isFinitePart && part.isShortPart)

/-- Whether a pattern is one that the reader finds, with numbers that are finite and have a
numeral. -/
def isListable (pattern : Pattern) : Bool :=
  pattern.every isListablePart

theorem isListable_iff {pattern : Pattern} :
    pattern.isListable = true ↔
      pattern.isSpelled = true ∧ pattern.isFinite = true ∧ pattern.hasNotation = true := by
  rw [hasNotation_eq_every]
  constructor
  · intro listable
    have both {part : Pattern} (holds : part.isListablePart = true) :
        part.isSpelledPart = true ∧ part.isFinitePart = true ∧ part.isShortPart = true := by
      rw [isListablePart, Bool.and_eq_true, Bool.and_eq_true] at holds
      exact holds
    exact ⟨every_mono (fun _ holds => (both holds).1) listable,
      every_mono (fun _ holds => (both holds).2.1) listable,
      every_mono (fun _ holds => (both holds).2.2) listable⟩
  · rintro ⟨spelled, finite, short⟩
    exact every_and spelled (every_and finite short)

variable {base : String}

/-- A name from a supply can be listed. -/
theorem isListable_numbered (isBase : IsNameBase base) (supply : NameSupply) (span : Span) :
    (Pattern.binding (supply.numbered base).1 span).isListable = true := by
  simp [isListable, every, isListablePart, isSpelledPart, isFinitePart, isShortPart,
    isBase.isName_numbered supply, isBase.numbered_ne_wildcard supply]

/-- A name for the whole of a pattern that has none can be listed with it. -/
theorem isListable_named {inner : Pattern} (listable : inner.isListable = true)
    (single : inner.isNamed = false) {name : String} (isName : isName name = true) (span : Span) :
    (Pattern.named inner name span).isListable = true := by
  simp only [isListable, every, isListablePart, isSpelledPart, isFinitePart, isShortPart, isName,
    single, Bool.not_false, Bool.and_true, Bool.true_and]
  exact listable

/-! ## Patterns with real names -/

theorem isNamed_nameAnonymous (base : String) (pattern : Pattern) (supply : NameSupply) :
    ((nameAnonymous base pattern).run supply).1.isNamed = pattern.isNamed := by
  cases pattern with
  | binding name span | named inner name span =>
      simp only [nameAnonymous]
      split <;> rfl
  | list elements tail span => cases tail <;> rfl
  | _ => rfl

theorem isEmpty_nameAnonymousAll (base : String) (patterns : List Pattern) (supply : NameSupply) :
    ((nameAnonymousAll base patterns).run supply).1.isEmpty = patterns.isEmpty := by
  cases patterns <;> rfl

theorem keys_nameAnonymousEntries (base : String) (entries : List (String × Pattern))
    (supply : NameSupply) :
    ((nameAnonymousEntries base entries).run supply).1.map (·.1) = entries.map (·.1) := by
  induction entries generalizing supply with
  | nil => rfl
  | cons entry rest ih => exact congrArg (entry.1 :: ·) (ih _)

mutual

/-- Naming the anonymous names of a pattern keeps it one that can be listed. -/
theorem isListable_nameAnonymous (isBase : IsNameBase base) :
    ∀ (pattern : Pattern) (supply : NameSupply), pattern.every isListablePart = true →
      ((nameAnonymous base pattern).run supply).1.every isListablePart = true
  | .literal .., _, listable | .wildcard _, _, listable => listable
  | .binding name span, supply, listable => by
      cases anonymous : isAnonymous name with
      | true =>
          have outcome : ((nameAnonymous base (.binding name span)).run supply).1 =
              .binding (supply.numbered base).1 span := by
            simp only [nameAnonymous, anonymous, if_true]
            rfl
          rw [outcome]
          exact isListable_numbered isBase supply span
      | false =>
          have outcome : ((nameAnonymous base (.binding name span)).run supply).1 =
              .binding name span := by
            simp only [nameAnonymous, anonymous]
            rfl
          rw [outcome]
          exact listable
  | .tuple elements span, supply, listable => by
      simp only [every, Bool.and_eq_true] at listable
      have inside := isListable_nameAnonymousAll isBase elements supply listable.2
      exact Bool.and_eq_true_iff.mpr ⟨rfl, inside⟩
  | .list elements none span, supply, listable => by
      simp only [every, Bool.and_eq_true] at listable
      have inside := isListable_nameAnonymousAll isBase elements supply listable.2
      exact Bool.and_eq_true_iff.mpr ⟨rfl, inside⟩
  | .list elements (some tail) span, supply, listable => by
      simp only [every, Bool.and_eq_true] at listable
      have tailInside := isListable_nameAnonymous isBase tail supply listable.2
      have inside := isListable_nameAnonymousAll isBase elements
        ((nameAnonymous base tail).run supply).2 listable.1.2
      have whole : isListablePart (.list ((nameAnonymousAll base elements).run
          ((nameAnonymous base tail).run supply).2).1
          (some ((nameAnonymous base tail).run supply).1) span) = true := by
        rw [← listable.1.1]
        simp only [isListablePart, isSpelledPart, isEmpty_nameAnonymousAll]
        rfl
      exact Bool.and_eq_true_iff.mpr ⟨Bool.and_eq_true_iff.mpr ⟨whole, inside⟩, tailInside⟩
  | .map entries span, supply, listable => by
      simp only [every, Bool.and_eq_true] at listable
      have inside := isListable_nameAnonymousEntries isBase entries supply listable.2
      have whole : isListablePart (.map ((nameAnonymousEntries base entries).run supply).1 span) =
          true := by
        rw [← listable.1]
        simp only [isListablePart, isSpelledPart, keys_nameAnonymousEntries]
        rfl
      exact Bool.and_eq_true_iff.mpr ⟨whole, inside⟩
  | .record tag entries span, supply, listable => by
      simp only [every, Bool.and_eq_true] at listable
      have inside := isListable_nameAnonymousEntries isBase entries supply listable.2
      have whole : isListablePart
          (.record tag ((nameAnonymousEntries base entries).run supply).1 span) = true := by
        rw [← listable.1]
        simp only [isListablePart, isSpelledPart, keys_nameAnonymousEntries]
        rfl
      exact Bool.and_eq_true_iff.mpr ⟨whole, inside⟩
  | .result tag inner span, supply, listable => by
      simp only [every, Bool.and_eq_true] at listable
      have inside := isListable_nameAnonymous isBase inner supply listable.2
      exact Bool.and_eq_true_iff.mpr ⟨rfl, inside⟩
  | .named inner name span, supply, listable => by
      simp only [every, isListablePart, isSpelledPart, Bool.and_eq_true, Bool.not_eq_true']
        at listable
      have single (supply' : NameSupply) :
          ((nameAnonymous base inner).run supply').1.isNamed = false :=
        (isNamed_nameAnonymous base inner supply').trans listable.1.1.2
      cases anonymous : isAnonymous name with
      | true =>
          have outcome : ((nameAnonymous base (.named inner name span)).run supply).1 =
              .named ((nameAnonymous base inner).run (supply.numbered base).2).1
                (supply.numbered base).1 span := by
            simp only [nameAnonymous, anonymous, if_true]
            rfl
          rw [outcome]
          exact isListable_named (isListable_nameAnonymous isBase inner _ listable.2) (single _)
            (isBase.isName_numbered supply) span
      | false =>
          have outcome : ((nameAnonymous base (.named inner name span)).run supply).1 =
              .named ((nameAnonymous base inner).run supply).1 name span := by
            simp only [nameAnonymous, anonymous]
            rfl
          rw [outcome]
          exact isListable_named (isListable_nameAnonymous isBase inner _ listable.2) (single _)
            listable.1.1.1 span

theorem isListable_nameAnonymousAll (isBase : IsNameBase base) :
    ∀ (patterns : List Pattern) (supply : NameSupply), everyOfAll isListablePart patterns = true →
      everyOfAll isListablePart ((nameAnonymousAll base patterns).run supply).1 = true
  | [], _, _ => rfl
  | pattern :: rest, supply, listable => by
      simp only [everyOfAll, Bool.and_eq_true] at listable
      have first := isListable_nameAnonymous isBase pattern supply listable.1
      have later := isListable_nameAnonymousAll isBase rest
        ((nameAnonymous base pattern).run supply).2 listable.2
      exact Bool.and_eq_true_iff.mpr ⟨first, later⟩

theorem isListable_nameAnonymousEntries (isBase : IsNameBase base) :
    ∀ (entries : List (String × Pattern)) (supply : NameSupply),
      everyOfEntries isListablePart entries = true →
        everyOfEntries isListablePart ((nameAnonymousEntries base entries).run supply).1 = true
  | [], _, _ => rfl
  | (_, pattern) :: rest, supply, listable => by
      simp only [everyOfEntries, Bool.and_eq_true] at listable
      have first := isListable_nameAnonymous isBase pattern supply listable.1
      have later := isListable_nameAnonymousEntries isBase rest
        ((nameAnonymous base pattern).run supply).2 listable.2
      exact Bool.and_eq_true_iff.mpr ⟨first, later⟩

end

end Pattern

/-! ## Expressions, heads and declarations -/

namespace Expr

/-- Whether an expression is one that the reader finds, with numbers that are finite and have a
numeral. -/
def isListable (expr : Expr) : Bool :=
  expr.isSpelled && expr.isFinite && expr.hasNotation

/-- A name can be listed. -/
theorem isListable_ident {identifier : Identifier} (isName : isName identifier.name = true) :
    (Expr.ident identifier).isListable = true := by
  simp [isListable, isSpelled, isFinite, every, isSpelledPart, isFinitePart, hasNotation, isName]

/-- A call of a name with names can be listed. -/
theorem isListable_call {callee : Identifier} (isName : isName callee.name = true)
    {arguments : List Expr} (listable : ∀ argument ∈ arguments, argument.isListable = true)
    (span : Span) : (Expr.call callee arguments span).isListable = true := by
  have all : everyOfAll isSpelledPart arguments = true ∧
      everyOfAll isFinitePart arguments = true ∧ allHaveNotation arguments = true := by
    induction arguments with
    | nil => exact ⟨rfl, rfl, rfl⟩
    | cons argument rest ih =>
        rcases List.forall_mem_cons.mp listable with ⟨here, others⟩
        simp only [isListable, isSpelled, isFinite, Bool.and_eq_true] at here
        simp only [everyOfAll, allHaveNotation, here, ih others, Bool.true_and, and_self]
  simp [isListable, isSpelled, isFinite, every, isSpelledPart, isFinitePart, hasNotation, isName,
    all]

/-- An expression that calls the local names over by an ordinary call. Only the body of a clause
passes them over, and only as a whole. -/
def called : Expr → Expr
  | .delegate callee arguments span => .call callee arguments span
  | other => other

theorem called_of_isSpelled {expr : Expr} (spelled : expr.isSpelled = true) :
    expr.called = expr := by
  cases expr with
  | delegate => cases spelled
  | _ => rfl

theorem print_called (expr : Expr) (asked : Nat) : expr.called.print asked = expr.print asked := by
  cases expr <;> rfl

theorem hasNotation_called (expr : Expr) : expr.called.hasNotation = expr.hasNotation := by
  cases expr <;> rfl

end Expr

namespace Head

/-- Whether all parts of a head can be listed. -/
def isListable (head : Head) : Bool :=
  isName head.name && head.params.all Pattern.isListable && head.guard?.all Expr.isListable

theorem isListable_iff {head : Head} :
    head.isListable = true ↔
      head.isSpelled = true ∧ head.isFinite = true ∧ head.hasNotation = true := by
  have params : (∀ pattern ∈ head.params, pattern.isListable = true) ↔
      (∀ pattern ∈ head.params, pattern.isSpelled = true) ∧
        (∀ pattern ∈ head.params, pattern.isFinite = true) ∧
          ∀ pattern ∈ head.params, pattern.hasNotation = true := by
    simp only [Pattern.isListable_iff, imp_and, forall_and]
  have guard : head.guard?.all Expr.isListable = true ↔
      (head.guard?.map Expr.isSpelled).getD true = true ∧
        (head.guard?.map Expr.isFinite).getD true = true ∧
          (head.guard?.map Expr.hasNotation).getD true = true := by
    cases head.guard? with
    | none => simp
    | some guard =>
        simp only [Option.all_some, Expr.isListable, Bool.and_eq_true, and_assoc]
        rfl
  simp only [isListable, isSpelled, isFinite, hasNotation, Bool.and_eq_true, List.all_eq_true,
    Parse.allHaveNotation_iff, params, guard]
  constructor
  · rintro ⟨⟨name, spelled, finite, short⟩, spelled', finite', short'⟩
    exact ⟨⟨⟨name, spelled⟩, spelled'⟩, ⟨finite, finite'⟩, short, short'⟩
  · rintro ⟨⟨⟨name, spelled⟩, spelled'⟩, ⟨finite, finite'⟩, short, short'⟩
    exact ⟨⟨name, spelled, finite, short⟩, spelled', finite', short'⟩

@[simp] theorem withParams_name (head : Head) (params : List Pattern) :
    (head.withParams params).name = head.name := by
  cases head <;> rfl

/-- A head can be listed with any parameters that can be. -/
theorem isListable_withParams {head : Head} (listable : head.isListable = true)
    {params : List Pattern} (each : ∀ pattern ∈ params, pattern.isListable = true) :
    (head.withParams params).isListable = true := by
  simp only [isListable, Bool.and_eq_true] at listable
  simp only [isListable, withParams_name, withParams_params, withParams_guard?, listable.1.1,
    listable.2, List.all_eq_true.mpr each, Bool.and_self]

end Head

namespace Declaration

variable {declaration : Declaration}

/-- Whether all parts of a declaration can be listed. -/
def isListable (declaration : Declaration) : Bool :=
  declaration.head.isListable && declaration.body.isListable

theorem isListable_iff :
    declaration.isListable = true ↔
      declaration.isSpelled = true ∧ declaration.isFinite = true ∧
        declaration.hasNotation = true := by
  simp only [isListable, isSpelled, isFinite, hasNotation, Bool.and_eq_true, Head.isListable_iff,
    Expr.isListable]
  constructor
  · rintro ⟨⟨spelled, finite, short⟩, ⟨spelled', finite'⟩, short'⟩
    exact ⟨⟨spelled, spelled'⟩, ⟨finite, finite'⟩, short, short'⟩
  · rintro ⟨⟨spelled, spelled'⟩, ⟨finite, finite'⟩, short, short'⟩
    exact ⟨⟨spelled, finite, short⟩, ⟨spelled', finite'⟩, short'⟩

/-! ## Unwrapping clauses -/

/-- Naming a whole argument keeps its pattern one that can be listed. -/
theorem nameWhole_listable {base : String} (isBase : IsNameBase base) {pattern : Pattern}
    (listable : pattern.isListable = true) (supply : NameSupply) :
    ((nameWhole base pattern).run supply).1.1.isListable = true ∧
      isName ((nameWhole base pattern).run supply).1.2 = true := by
  have new (single : pattern.isNamed = false) :
      (Pattern.named pattern (supply.numbered base).1 pattern.span).isListable = true ∧
        isName (supply.numbered base).1 = true :=
    ⟨Pattern.isListable_named listable single (isBase.isName_numbered supply) _,
      isBase.isName_numbered supply⟩
  cases pattern with
  | binding name span =>
      have part : isName name = true := by
        simp only [Pattern.isListable, Pattern.every, Pattern.isListablePart,
          Pattern.isSpelledPart, Bool.and_eq_true] at listable
        exact listable.1.1
      exact ⟨listable, part⟩
  | named inner name span =>
      have part : isName name = true := by
        simp only [Pattern.isListable, Pattern.every, Pattern.isListablePart,
          Pattern.isSpelledPart, Bool.and_eq_true] at listable
        exact listable.1.1.1
      exact ⟨listable, part⟩
  | _ => exact new rfl

theorem namedParam_listable {base : String} (isBase : IsNameBase base) {param : Pattern}
    (listable : param.isListable = true) (supply : NameSupply) :
    ((namedParam base param).run supply).1.1.isListable = true ∧
      isName ((namedParam base param).run supply).1.2 = true := by
  have byPattern := nameWhole_listable isBase
    (Pattern.isListable_nameAnonymous isBase param supply listable)
    ((param.nameAnonymous base).run supply).2
  cases param with
  | wildcard span =>
      exact ⟨Pattern.isListable_numbered isBase supply span, isBase.isName_numbered supply⟩
  | _ => exact byPattern

theorem namedParams_listable {base : String} (isBase : IsNameBase base) {params : List Pattern}
    (listable : ∀ param ∈ params, param.isListable = true) (supply : NameSupply) :
    ∀ named ∈ ((namedParams base params).run supply).1,
      named.1.isListable = true ∧ isName named.2 = true := by
  induction params generalizing supply with
  | nil => nofun
  | cons param rest ih =>
      rcases List.forall_mem_cons.mp listable with ⟨here, others⟩
      exact List.forall_mem_cons.mpr ⟨namedParam_listable isBase here supply, ih others _⟩

end Declaration

/-! ## Clauses as declarations -/

namespace Clause

/-- The declaration that a clause is listed as: a `def`, which calls its function again by an
ordinary call. -/
def declaration (clause : Clause) : Declaration where
  head := clause.head
  body := clause.body.called
  synthesized := false
  doc? := none
  span := .generated

end Clause

namespace Declaration

variable {declaration : Declaration}

theorem isListable_defaultClause (listable : declaration.isListable = true) (order : Nat) :
    (declaration.defaultClause order).declaration.isListable = true := by
  simp only [isListable, Bool.and_eq_true] at listable ⊢
  constructor
  · apply Head.isListable_withParams listable.1
    have head := listable.1
    simp only [Head.isListable, Bool.and_eq_true, List.all_eq_true] at head
    exact head.1.2
  · have spelled : declaration.body.isSpelled = true := by
      have body := listable.2
      simp only [Expr.isListable, Bool.and_eq_true] at body
      exact body.1.1
    change declaration.body.called.isListable = true
    rw [Expr.called_of_isSpelled spelled]
    exact listable.2

theorem isListable_errorClause (listable : declaration.isListable = true) (order : Nat) :
    (declaration.errorClause order).declaration.isListable = true := by
  simp only [isListable, Head.isListable, Bool.and_eq_true] at listable
  have first : (Pattern.result .error (.binding payloadName .generated) .generated).isListable =
      true := by decide +kernel
  have others : ∀ pattern ∈ declaration.params.tail.map fun _ => Pattern.wildcard .generated,
      pattern.isListable = true := by
    intro pattern member
    rcases List.mem_map.mp member with ⟨_, _, rfl⟩
    rfl
  have body : (Expr.result .error (.ident ⟨payloadName, .generated⟩) .generated).isListable =
      true := by decide +kernel
  have params := List.all_eq_true.mpr (List.forall_mem_cons.mpr ⟨first, others⟩)
  rw [isListable, Bool.and_eq_true]
  refine ⟨?_, body⟩
  simp only [Head.isListable, Bool.and_eq_true]
  exact ⟨⟨listable.1.1.1, params⟩, rfl⟩

theorem isListable_okClause (listable : declaration.isListable = true) (order : Nat) :
    (declaration.okClause order).declaration.isListable = true := by
  simp only [isListable, Bool.and_eq_true] at listable
  have head := listable.1
  simp only [Head.isListable, Bool.and_eq_true, List.all_eq_true] at head
  have others : ∀ named ∈ declaration.namedOthers,
      named.1.isListable = true ∧ isName named.2 = true :=
    namedParams_listable isNameBase_unwrappedBase
      (fun param member => head.1.2 param (List.mem_of_mem_tail member)) _
  have unwrapped : isName declaration.unwrappedName = true :=
    isNameBase_unwrappedBase.isName_fresh _
  have differs : declaration.unwrappedName ≠ "_" := by
    intro same
    have named := declaration.isAnonymous_unwrappedName
    rw [same] at named
    cases named
  have first : (Pattern.result .ok (.binding declaration.unwrappedName .generated)
      .generated).isListable = true := by
    simp [Pattern.isListable, Pattern.every, Pattern.isListablePart, Pattern.isSpelledPart,
      Pattern.isFinitePart, Pattern.isShortPart, unwrapped, differs]
  have arguments : ∀ name ∈ declaration.argumentNames, isName name = true := by
    rw [argumentNames, List.forall_mem_cons]
    exact ⟨unwrapped, List.forall_mem_map.mpr fun named member => (others named member).2⟩
  rw [isListable, Bool.and_eq_true]
  constructor
  · have sameHead : (declaration.okClause order).head = declaration.head.withParams
        (.result .ok (.binding declaration.unwrappedName .generated) .generated ::
          declaration.namedOthers.map (·.1)) := rfl
    change (declaration.okClause order).head.isListable = true
    rw [sameHead]
    apply Head.isListable_withParams listable.1
    rw [List.forall_mem_cons]
    exact ⟨first, List.forall_mem_map.mpr fun named member => (others named member).1⟩
  · change (declaration.okClause order).body.called.isListable = true
    rw [okClause_body, Expr.called]
    apply Expr.isListable_call
    · exact head.1.1
    · exact List.forall_mem_map.mpr fun name member => Expr.isListable_ident (arguments name member)

theorem isListable_clauseOf (listable : declaration.isListable = true) (kind : ClauseKind)
    (order : Nat) : (declaration.clauseOf kind order).declaration.isListable = true := by
  cases kind with
  | default => exact isListable_defaultClause listable order
  | errorPassthrough => exact isListable_errorClause listable order
  | okUnwrap => exact isListable_okClause listable order

end Declaration

/-- The clauses of declarations that can be listed can be listed. -/
theorem Clause.isListable_ofDeclarations {declarations : List Declaration}
    (listable : ∀ declaration ∈ declarations, declaration.isListable = true) :
    ∀ clause ∈ Clause.ofDeclarations declarations, clause.declaration.isListable = true := by
  intro clause member
  rcases exists_of_mem_ofDeclarations member with ⟨kind, declaration, declared, _, order, rfl⟩
  exact Declaration.isListable_clauseOf (listable declaration declared) kind order

/-- The declarations of a module that has been read can be listed, if their numbers can. -/
theorem Module.isListable_of_read {file text : String} {module : Module}
    (read : Module.read file text = .ok module) (finite : module.isFinite = true)
    (short : module.hasNotation = true) :
    ∀ declaration ∈ module.declarations, declaration.isListable = true := fun declaration member =>
  Declaration.isListable_iff.mpr
    ⟨List.all_eq_true.mp (isSpelled_of_read read) declaration member,
      List.all_eq_true.mp finite declaration member, List.all_eq_true.mp short declaration member⟩

end ClauseFlow

import ClauseFlow.Proofs.Declaration.Lexemes
import ClauseFlow.Proofs.Parse.Finding

/-!
# What is read is spelled

The patterns, expressions and declarations of a text that is read without an error are ones that
their own printed text spells: names are names, keys are different, no number has a sign that the
grammar does not write.
-/

namespace ClauseFlow

theorem Binary64.isNaN_ofQuotient (negative : Bool) (numerator denominator : Nat) :
    (ofQuotient negative numerator denominator).isNaN = false := by
  have ofParts (mantissa : Nat) (exponent : Int) :
      (ofParts negative mantissa exponent).isNaN = false := by
    rw [Binary64.ofParts]
    split <;> rfl
  rw [ofQuotient]
  split
  · rfl
  · simp only
    split <;> exact ofParts _ _

namespace Parse

/-! ## Numbers -/

theorem decimalOf_finds (token : Token) :
    Finds (fun value => value.isNegative = false ∧ value.isNaN = false) (decimalOf token) := by
  apply Finds.numeral.mono
  intro value read
  refine ⟨isNegative_of_readDecimal? read, ?_⟩
  rcases exists_ofQuotient_of_readDecimal? read with ⟨numerator, denominator, rfl⟩
  exact Binary64.isNaN_ofQuotient _ _ _

/-! ## Patterns -/

/-- Whether a pattern is spelled and has no name for the whole. -/
def IsPrimary (pattern : Pattern) : Prop :=
  pattern.isSpelled = true ∧ pattern.isNamed = false

theorem literal_finds {token : Token} {read : Parse Literal} (found : literal? token = some read) :
    Finds (fun value => token.IsLegible → value.isSpelled = true ∧
      (negated value).isSpelled = true) read := by
  rw [literal?] at found
  split at found
  all_goals cases found
  · apply Finds.bind .numeral
    intro value
    exact .answer fun _ _ => ⟨rfl, rfl⟩
  · apply Finds.bind (decimalOf_finds token)
    intro value
    apply Finds.answer
    intro read _
    have negNaN : value.neg.isNaN = value.isNaN := by cases value <;> rfl
    simp only [Literal.isSpelled, negated, negNaN, read.2, Bool.not_false, and_self]
  · exact .answer fun _ => ⟨rfl, rfl⟩
  · rename_i kind
    exact .answer fun legible => ⟨legible.isAtomName kind, legible.isAtomName kind⟩
  · exact .answer fun _ => ⟨rfl, rfl⟩
  · exact .answer fun _ => ⟨rfl, rfl⟩

theorem primaryPattern_finds {inner : Parse Pattern}
    (each : Finds (fun pattern => pattern.isSpelled = true) inner) (fuel : Nat) :
    Finds IsPrimary (primaryPattern inner fuel) := by
  rw [primaryPattern]
  apply Finds.bind .current
  intro token
  split
  · rename_i kind
    apply Finds.after (.discard .advance)
    intro _
    apply Finds.answer
    intro legible
    split
    · exact ⟨rfl, rfl⟩
    · rename_i differs
      have name := legible.isName kind
      refine ⟨?_, rfl⟩
      simp [Pattern.isSpelled, Pattern.every, Pattern.isSpelledPart, name, differs]
  -- The constants.
  iterate 6
    apply Finds.after (.discard .advance)
    intro _
    split
    · rename_i found
      apply Finds.bind (literal_finds found)
      intro value
      exact .answer fun holds legible => ⟨(holds legible).1, rfl⟩
    · exact .refuse _
  · apply Finds.bind .following
    intro number
    apply Finds.ite
    · intro _
      apply Finds.after (.discard .advance)
      intro _
      apply Finds.after (.discard .advance)
      intro _
      split
      · rename_i found
        apply Finds.bind (literal_finds found)
        intro value
        exact .answer fun holds legible _ => ⟨(holds legible).2, rfl⟩
      · exact .refuse _
    · exact fun _ => .refuse _
  iterate 2
    apply Finds.after (.discard .advance)
    intro _
    apply Finds.after (.discard (.expect _))
    intro _
    apply Finds.bind each
    intro value
    apply Finds.after (.expect _)
    intro last
    apply Finds.answer
    intro spelled _
    refine ⟨?_, rfl⟩
    simpa [Pattern.isSpelled, Pattern.every, Pattern.isSpelledPart] using spelled
  · apply Finds.after (.discard .advance)
    intro _
    apply Finds.bind (separated_finds each _ _ _)
    intro elements
    apply Finds.after (.expect _)
    intro last
    apply Finds.answer
    intro spelled _
    refine ⟨?_, rfl⟩
    simpa [Pattern.isSpelled, Pattern.every, Pattern.isSpelledPart, Pattern.everyOfAll_iff]
      using spelled
  · apply Finds.after (.discard .advance)
    intro _
    apply Finds.bind (separatedWithTail_finds each _ _)
    rintro ⟨elements, tail⟩
    apply Finds.after (.expect _)
    intro last
    apply Finds.answer
    intro spelled _
    refine ⟨?_, rfl⟩
    cases tail with
    | none =>
        simpa [Pattern.isSpelled, Pattern.every, Pattern.isSpelledPart, Pattern.everyOfAll_iff]
          using spelled
    | some tail =>
        rcases spelled with ⟨inRow, isTail, nonempty⟩
        simp only [Pattern.isSpelled, Pattern.every, Pattern.isSpelledPart, Bool.and_eq_true,
          Bool.not_eq_true', List.isEmpty_eq_false_iff, Pattern.everyOfAll_iff]
        exact ⟨⟨nonempty rfl, inRow⟩, isTail tail rfl⟩
  · apply Finds.after (.discard .advance)
    intro _
    apply Finds.bind (entries_finds each _ _)
    intro found
    apply Finds.after (.expect _)
    intro last
    apply Finds.answer
    intro spelled _
    refine ⟨?_, rfl⟩
    simp only [Pattern.isSpelled, Pattern.every, Pattern.isSpelledPart, Bool.and_eq_true,
      Pattern.everyOfEntries_iff]
    exact ⟨spelled.areKeys, spelled.each⟩
  · rename_i kind
    apply Finds.after (.discard .advance)
    intro _
    apply Finds.after (.at? _)
    intro braced
    apply Finds.ite
    · intro _
      apply Finds.after (.discard .advance)
      intro _
      apply Finds.bind (entries_finds each _ _)
      intro found
      apply Finds.after (.expect _)
      intro last
      apply Finds.answer
      intro spelled legible
      refine ⟨?_, rfl⟩
      simp only [Pattern.isSpelled, Pattern.every, Pattern.isSpelledPart, Bool.and_eq_true,
        Pattern.everyOfEntries_iff]
      exact ⟨⟨legible.isTag kind, spelled.areKeys⟩, spelled.each⟩
    · exact fun _ => .refuse _
  · exact .refuse _

/-- The patterns of a legible text are spelled. -/
theorem pattern_finds (depth : Nat) :
    Finds (fun pattern => pattern.isSpelled = true) (pattern depth) := by
  induction depth with
  | zero => exact .stop (by decide)
  | succ depth ih =>
      rw [pattern]
      apply Finds.bind (primaryPattern_finds ih depth)
      intro whole
      apply Finds.after (.at? _)
      intro assigned
      apply Finds.ite
      · intro _
        apply Finds.after (.discard .advance)
        intro _
        apply Finds.bind (.expect .name)
        intro name
        apply Finds.answer
        intro legible primary
        simp only [Pattern.isSpelled, Pattern.every, Pattern.isSpelledPart, Bool.and_eq_true,
          Bool.not_eq_true']
        exact ⟨⟨legible.1.isName legible.2, primary.2⟩, primary.1⟩
      · exact fun _ => .answer fun primary => primary.1

/-! ## Expressions -/

/-- Whether every expression that a step answers from legible tokens on is spelled. -/
abbrev FindsSpelled (step : Parse Expr) : Prop :=
  Finds (fun expr => expr.isSpelled = true) step

theorem combine_finds (kind : TokenKind) (left right : Expr) :
    Finds (fun whole => right.isSpelled = true → left.isSpelled = true →
      whole.isSpelled = true) (combine kind left right) := by
  simp only [combine]
  split
  · split
    · apply Finds.answer
      intro rightSpelled leftSpelled
      simp only [Expr.isSpelled, Expr.every, Expr.isSpelledPart, Bool.and_eq_true]
        at rightSpelled leftSpelled ⊢
      exact ⟨rightSpelled, leftSpelled⟩
    · apply Finds.answer
      intro rightSpelled leftSpelled
      simp only [Expr.isSpelled, Expr.every, Expr.isSpelledPart, Bool.and_eq_true]
        at rightSpelled leftSpelled ⊢
      exact ⟨⟨rightSpelled.1, leftSpelled⟩, rightSpelled.2⟩
    · exact .refuse _
  all_goals
    apply Finds.answer
    intro rightSpelled leftSpelled
    simp only [Expr.isSpelled, Expr.every, Expr.isSpelledPart, Bool.and_eq_true, true_and]
      at rightSpelled leftSpelled ⊢
    exact ⟨leftSpelled, rightSpelled⟩

theorem operand_finds {inner : Nat → Parse Expr} (each : ∀ power, FindsSpelled (inner power))
    (fuel : Nat) : FindsSpelled (operand inner fuel) := by
  rw [operand]
  apply Finds.bind .current
  intro token
  split
  -- A sign before an operand.
  iterate 2
    apply Finds.after (.discard .advance)
    intro _
    apply Finds.bind (each _)
    intro value
    apply Finds.answer
    intro spelled _
    simpa [Expr.isSpelled, Expr.every, Expr.isSpelledPart] using spelled
  · apply Finds.after (.discard .advance)
    intro _
    apply Finds.bind .numeral
    intro value
    exact .answer fun _ _ => rfl
  · apply Finds.after (.discard .advance)
    intro _
    apply Finds.bind (decimalOf_finds token)
    intro value
    apply Finds.answer
    intro read _
    simp [Expr.isSpelled, Expr.every, Expr.isSpelledPart, read.1, read.2]
  · exact .after (.discard .advance) fun _ => .answer fun _ => rfl
  · rename_i kind
    exact .after (.discard .advance) fun _ => .answer fun legible => legible.isAtomName kind
  iterate 2
    exact .after (.discard .advance) fun _ => .answer fun _ => rfl
  · apply Finds.after (.discard .advance)
    intro _
    apply Finds.bind (each 0)
    intro value
    apply Finds.after (.discard (.expect _))
    intro _
    exact .answer fun spelled _ => spelled
  iterate 2
    apply Finds.after (.discard .advance)
    intro _
    apply Finds.after (.discard (.expect _))
    intro _
    apply Finds.bind (each 0)
    intro value
    apply Finds.after (.expect _)
    intro last
    apply Finds.answer
    intro spelled _
    simpa [Expr.isSpelled, Expr.every, Expr.isSpelledPart] using spelled
  · apply Finds.after (.discard .advance)
    intro _
    apply Finds.bind (separated_finds (each 0) _ _ _)
    intro elements
    apply Finds.after (.expect _)
    intro last
    apply Finds.answer
    intro spelled _
    simpa [Expr.isSpelled, Expr.every, Expr.isSpelledPart, Expr.everyOfAll_iff] using spelled
  · apply Finds.after (.discard .advance)
    intro _
    apply Finds.bind (separatedWithTail_finds (each 0) _ _)
    rintro ⟨elements, tail⟩
    apply Finds.after (.expect _)
    intro last
    apply Finds.answer
    intro spelled _
    cases tail with
    | none =>
        simpa [Expr.isSpelled, Expr.every, Expr.isSpelledPart, Expr.everyOfAll_iff] using spelled
    | some tail =>
        rcases spelled with ⟨inRow, isTail, nonempty⟩
        simp only [Expr.isSpelled, Expr.every, Expr.isSpelledPart, Bool.and_eq_true,
          Bool.not_eq_true', List.isEmpty_eq_false_iff, Expr.everyOfAll_iff]
        exact ⟨⟨nonempty rfl, inRow⟩, isTail tail rfl⟩
  · apply Finds.after (.discard .advance)
    intro _
    apply Finds.bind (entries_finds (each 0) _ _)
    intro found
    apply Finds.after (.expect _)
    intro last
    apply Finds.answer
    intro spelled _
    simp only [Expr.isSpelled, Expr.every, Expr.isSpelledPart, Bool.and_eq_true,
      Expr.everyOfEntries_iff]
    exact ⟨spelled.areKeys, spelled.each⟩
  · apply Finds.after (.discard .advance)
    intro _
    apply Finds.bind (each 0)
    intro condition
    apply Finds.after (.discard (.expect _))
    intro _
    apply Finds.bind (each 0)
    intro thenBranch
    apply Finds.after (.discard (.expect _))
    intro _
    apply Finds.bind (each 0)
    intro elseBranch
    apply Finds.answer
    intro elseSpelled thenSpelled spelled _
    simp only [Expr.isSpelled] at elseSpelled thenSpelled spelled
    simp [Expr.isSpelled, Expr.every, Expr.isSpelledPart, spelled, thenSpelled, elseSpelled]
  · apply Finds.after (.discard .advance)
    intro _
    apply Finds.after (.discard (.expect _))
    intro _
    apply Finds.bind (separated_finds (.expect .name) _ _ _)
    intro params
    apply Finds.after (.discard (.expect _))
    intro _
    apply Finds.after (.discard (.expect _))
    intro _
    apply Finds.bind (each 0)
    intro body
    apply Finds.answer
    intro spelled names _
    simp only [Expr.isSpelled, Expr.every, Expr.isSpelledPart, Bool.and_eq_true,
      List.all_eq_true]
    exact ⟨List.forall_mem_map.mpr fun param member =>
      (names param member).1.isName (names param member).2, spelled⟩
  · rename_i kind
    exact .after (.discard .advance) fun _ => .answer fun legible => legible.isName kind
  · rename_i kind
    apply Finds.after (.discard .advance)
    intro _
    apply Finds.after (.at? _)
    intro braced
    apply Finds.ite
    · intro _
      apply Finds.after (.discard .advance)
      intro _
      apply Finds.bind (entries_finds (each 0) _ _)
      intro found
      apply Finds.after (.expect _)
      intro last
      apply Finds.answer
      intro spelled legible
      simp only [Expr.isSpelled, Expr.every, Expr.isSpelledPart, Bool.and_eq_true,
        Expr.everyOfEntries_iff]
      exact ⟨⟨legible.isTag kind, spelled.areKeys⟩, spelled.each⟩
    · exact fun _ => .answer fun legible => legible.isTag kind
  · exact .refuse _

theorem operators_finds {inner : Nat → Parse Expr} (each : ∀ power, FindsSpelled (inner power))
    (power fuel : Nat) (left : Expr) :
    Finds (fun whole => left.isSpelled = true → whole.isSpelled = true)
      (operators inner power fuel left) := by
  induction fuel generalizing left with
  | zero => exact .stop (by decide)
  | succ fuel ih =>
      rw [operators]
      apply Finds.after .current
      intro token
      split
      · apply Finds.after (.discard .advance)
        intro _
        apply Finds.bind (.expect .name)
        intro field
        apply (ih _).mono
        intro whole holds legible spelled
        apply holds
        simp only [Expr.isSpelled, Expr.every, Expr.isSpelledPart, Bool.and_eq_true] at spelled ⊢
        exact ⟨legible.1.isName legible.2, spelled⟩
      · apply Finds.after (.discard .advance)
        intro _
        apply Finds.bind (separated_finds (each 0) _ _ _)
        intro arguments
        apply Finds.after (.expect _)
        intro last
        apply (ih _).mono
        intro whole holds argumentsSpelled spelled
        apply holds
        simp only [Expr.isSpelled, Expr.every, Expr.isSpelledPart, Bool.and_eq_true,
          Expr.everyOfAll_iff] at spelled ⊢
        exact ⟨spelled, argumentsSpelled⟩
      · split
        · exact .answer fun spelled => spelled
        · apply Finds.ite
          · exact fun _ => .answer fun spelled => spelled
          · intro _
            apply Finds.after (.discard .advance)
            intro _
            apply Finds.bind (each _)
            intro right
            apply Finds.bind (combine_finds _ _ _)
            intro combined
            apply (ih _).mono
            exact fun whole holds made rightSpelled spelled => holds (made rightSpelled spelled)

/-- The expressions of a legible text are spelled. -/
theorem expression_finds (depth power : Nat) : FindsSpelled (expression depth power) := by
  induction depth generalizing power with
  | zero => exact .stop (by decide)
  | succ depth ih =>
      rw [expression]
      apply Finds.bind (operand_finds ih depth)
      intro left
      exact operators_finds ih power depth left

/-! ## Modules -/

theorem head_finds (depth : Nat) : Finds (fun head => head.isSpelled = true) (head depth) := by
  rw [head]
  apply Finds.bind (.expect .name)
  intro name
  apply Finds.after (.discard (.expect _))
  intro _
  apply Finds.bind (separated_finds (pattern_finds depth) _ _ _)
  intro params
  apply Finds.after (.expect _)
  intro last
  apply Finds.after (.at? _)
  intro guarded
  apply Finds.ite
  · intro _
    apply Finds.after (.discard .advance)
    intro _
    apply Finds.bind (expression_finds depth 0)
    intro guard
    apply Finds.answer
    intro guardSpelled spelled legible
    simp only [Head.isSpelled, Bool.and_eq_true, List.all_eq_true]
    exact ⟨⟨legible.1.isName legible.2, spelled⟩, guardSpelled⟩
  · intro _
    apply Finds.answer
    intro spelled legible
    simp only [Head.isSpelled, Bool.and_eq_true, List.all_eq_true]
    exact ⟨⟨legible.1.isName legible.2, spelled⟩, rfl⟩

theorem docComments_finds (fuel : Nat) : Finds (fun _ => True) (docComments fuel) := by
  induction fuel with
  | zero => exact .stop (by decide)
  | succ fuel ih =>
      rw [docComments]
      apply Finds.after (.at? _)
      intro commented
      apply Finds.ite
      · intro _
        apply Finds.after .advance
        intro comment
        apply Finds.after .skipNewlines
        intro _
        apply Finds.after ih
        intro rest
        exact .answer trivial
      · exact fun _ => .answer trivial

/-- Whether the declaration, if there is one, is spelled. -/
def IsSpelled? (found? : Option Declaration) : Prop :=
  ∀ declaration ∈ found?, declaration.isSpelled = true

theorem isSpelled?_none : IsSpelled? none := by
  intro declaration member
  cases member

theorem declaration_finds (depth : Nat) : Finds IsSpelled? (declaration depth) := by
  rw [declaration]
  apply Finds.after .skipNewlines
  intro _
  apply Finds.after (docComments_finds depth)
  intro comments
  simp only
  apply Finds.after .current
  intro keyword
  split
  · exact .answer isSpelled?_none
  iterate 2
    apply Finds.after (.discard .advance)
    intro _
    apply Finds.bind (head_finds depth)
    intro head
    apply Finds.after (.discard (.expect _))
    intro _
    apply Finds.bind (expression_finds depth 0)
    intro body
    apply Finds.after .current
    intro next
    apply Finds.ite
    · intro _
      apply Finds.answer
      rintro bodySpelled headSpelled found ⟨⟩
      simp only [Declaration.isSpelled, headSpelled, bodySpelled, Bool.and_self]
    · exact fun _ => .refuse _
  · exact .refuse _

/-- A declaration with an error is passed over, but the error stays. -/
theorem recoveringDeclaration_finds (depth : Nat) :
    Finds IsSpelled? (recoveringDeclaration depth) := by
  intro cursor legible
  have finds := declaration_finds depth cursor legible
  cases outcome : declaration depth cursor with
  | ok found? next =>
      have same : recoveringDeclaration depth cursor = .ok found? next := by
        rw [recoveringDeclaration, outcome]
      rwa [same, ← outcome]
  | error stop next =>
      cases stop with
      | syntaxError =>
          rcases finds.2 next outcome with ⟨legible', some⟩
          have passes : recoveringDeclaration depth cursor =
              (skipDeclaration *> pure none : Parse (Option Declaration)) next := by
            rw [recoveringDeclaration, outcome]
          have skips : Finds IsSpelled? (skipDeclaration *> pure none) := by
            rw [seqRight_eq_bind]
            exact .after .skipDeclaration fun _ => .answer isSpelled?_none
          rw [passes]
          constructor
          · intro value last outcome'
            rcases (skips next legible').1 value last outcome' with ⟨legible'', holds⟩
            exact ⟨legible'', fun clean => absurd (holds clean).1 some⟩
          · exact (skips next legible').2
      | unreadableNumeral =>
          have same : recoveringDeclaration depth cursor = .error .unreadableNumeral next := by
            rw [recoveringDeclaration, outcome]
          rwa [same, ← outcome]
      | tooDeep =>
          have same : recoveringDeclaration depth cursor = .error .tooDeep next := by
            rw [recoveringDeclaration, outcome]
          rwa [same, ← outcome]

/-- Whether all declarations are spelled. -/
def AreSpelled (found : List Declaration) : Prop :=
  ∀ declaration ∈ found, declaration.isSpelled = true

theorem declarations_finds (depth fuel : Nat) : Finds AreSpelled (declarations depth fuel) := by
  induction fuel with
  | zero => exact .stop (by decide)
  | succ fuel ih =>
      rw [declarations]
      apply Finds.after (.at? _)
      intro finished
      apply Finds.ite
      · exact fun _ => .answer (List.forall_mem_nil _)
      · intro _
        apply Finds.bind (recoveringDeclaration_finds depth)
        intro found?
        apply Finds.after .skipNewlines
        intro _
        apply Finds.bind ih
        intro rest
        apply Finds.answer
        intro others here declaration member
        rcases List.mem_append.mp member with isFirst | later
        · exact here declaration (by simpa using isFirst)
        · exact others declaration later

theorem wholeModule_finds (limit : Nat) :
    Finds (fun module => AreSpelled module.declarations) (wholeModule limit) := by
  rw [wholeModule]
  apply Finds.after .skipNewlines
  intro _
  apply Finds.bind (declarations_finds _ _)
  intro found
  apply Finds.after .current
  intro last
  exact .answer fun spelled => spelled

/-- A text that is read without an error gives what its steps find. -/
theorem Finds.run {α : Type} {good : α → Prop} {step : Parse α} (finds : Finds good step)
    {stream : TokenStream} (legible : (Cursor.ofStream stream).IsLegible) {value : α}
    (outcome : run step stream = .ok value) : good value := by
  rcases exists_of_run outcome with ⟨cursor, stepped, clean⟩
  have holds := ((finds _ legible).1 _ _ stepped).2 clean
  exact holds.2

end Parse

/-- A module that has been read is spelled. -/
theorem Module.isSpelled_of_read {file text : String} {module : Module}
    (read : Module.read file text = .ok module) : module.isSpelled = true := by
  rcases Module.exists_run_of_read read with ⟨stream, streamed, outcome⟩
  exact List.all_eq_true.mpr
    ((Parse.wholeModule_finds _).run (TokenStream.ofText_legible streamed) outcome)

end ClauseFlow

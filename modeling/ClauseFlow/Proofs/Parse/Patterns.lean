import ClauseFlow.Parse.Pattern
import ClauseFlow.Proofs.Parse.Reading
import ClauseFlow.Proofs.Pattern.Lexemes
import ClauseFlow.Proofs.Pattern.Places

/-!
# Reading printed patterns

The lexemes that a pattern is printed as are read as this pattern, settled and up to places.
-/

namespace ClauseFlow

namespace Parse

/-! ## Numbers -/

theorem integerOf_natText {n : Nat} (short : Numeral.hasNumeral n = true) (kind : TokenKind)
    (span : Span) : integerOf ⟨kind, Numeral.natText n, span⟩ = pure n := by
  simp only [integerOf, Numeral.readInteger?_natText short]
  rfl

theorem decimalOf_text {x : Binary64} (finite : x.isFinite = true)
    (positive : x.isNegative = false) (kind : TokenKind) (span : Span) :
    decimalOf ⟨kind, x.text, span⟩ = pure x := by
  simp only [decimalOf, Binary64.readDecimal?_text finite positive]
  rfl

end Parse

namespace Pattern

/-- Whether the second pattern is what the first one is read as again, up to places. -/
def ReadsAs (pattern pattern' : Pattern) : Prop :=
  pattern'.unplaced = pattern.settled

theorem rebuildAll_of_readsAs {patterns patterns' : List Pattern}
    (each : List.Forall₂ ReadsAs patterns patterns') :
    rebuildAll ofDecimal patterns' = rebuildAll settledDecimal patterns := by
  induction each with
  | nil => rfl
  | cons here _ ih =>
      rw [rebuildAll, rebuildAll, ih]
      exact congrArg (· :: _) here

theorem rebuildEntries_of_readsAs {entries entries' : List (String × Pattern)}
    (each : List.Forall₂ (fun entry entry' => entry.1 = entry'.1 ∧ ReadsAs entry.2 entry'.2)
      entries entries') :
    rebuildEntries ofDecimal entries' = rebuildEntries settledDecimal entries := by
  induction each with
  | nil => rfl
  | @cons entry entry' rest rest' here _ ih =>
      rcases entry with ⟨key, pattern⟩
      rcases entry' with ⟨key', pattern'⟩
      rcases here with ⟨sameKey, here⟩
      cases sameKey
      rw [rebuildEntries, rebuildEntries, ih]
      exact congrArg (fun found => (key, found) :: _) here

def isReadablePart : Pattern → Bool
  | literal (.decimal value) _ => value.isFinite || !value.isNegative
  | _ => true

/-- Whether no constant in a pattern is negative infinity, which has no notation. -/
def isReadable (pattern : Pattern) : Bool :=
  pattern.every isReadablePart

/-- A pattern without the name for the whole. -/
def core : Pattern → Pattern
  | named inner _ _ => inner
  | other => other

theorem core_of_not_named {pattern : Pattern} (unnamed : pattern.isNamed = false) :
    pattern.core = pattern := by
  cases pattern with
  | named => cases unnamed
  | _ => rfl

end Pattern

namespace Parse

open Pattern (ReadsAs)

variable {excuse : Prop}

/-- What may come after a pattern: no name for the whole. -/
abbrev EndsPattern (kind : TokenKind) : Prop :=
  kind ≠ .assign

/-- Whether the reader finds a pattern without the name for the whole in its lexemes. -/
abbrev ReadsCore (excuse : Prop) (pattern : Pattern) : Prop :=
  ∀ depth, pattern.core.lexemes.length ≤ depth →
    Reads excuse (primaryPattern (Parse.pattern depth) depth) pattern.core.lexemes (fun _ => True)
      (ReadsAs pattern.core)

/-- Whether the reader finds a pattern in its lexemes. -/
abbrev ReadsWhole (excuse : Prop) (pattern : Pattern) : Prop :=
  ∀ depth, pattern.lexemes.length < depth →
    Reads excuse (Parse.pattern depth) pattern.lexemes EndsPattern (ReadsAs pattern)

/-- The name for the whole is read after the pattern. -/
theorem ReadsCore.whole {pattern : Pattern} (core : ReadsCore excuse pattern) : ReadsWhole excuse pattern := by
  intro depth enough
  cases depth with
  | zero => cases enough
  | succ depth =>
      rw [Parse.pattern]
      cases pattern with
      | named inner name span =>
          have shorter : inner.lexemes.length ≤ depth := by
            rw [Pattern.lexemes, List.length_append] at enough
            omega
          rw [Pattern.lexemes]
          apply Reads.bind (core depth shorter) Meets.any
          intro value holds
          apply Reads.at_head
          simp only [decide_true, if_true]
          apply Reads.skip
          apply Reads.expected
          intro span
          exact .answer (congrArg (fun found => Pattern.named found name .generated) holds)
      | _ =>
          apply Reads.bind_last ((core depth (Nat.le_of_lt_succ enough)).narrow fun _ _ => trivial)
          intro value holds
          apply Reads.at_end
          intro kind noAssign
          simp only [noAssign, decide_false, Bool.false_eq_true, if_false]
          exact .answer holds

/-! ## Constants -/

theorem readsAs_integer {value found : Int} (same : found = value) (span place : Span) :
    ReadsAs (.literal (.integer value) span) (.literal (.integer found) place) := by
  rw [same]
  rfl

theorem readsAs_decimal {value : Binary64} (finite : value.isFinite = true) (span place : Span) :
    ReadsAs (.literal (.decimal value) span) (.literal (.decimal value) place) :=
  (if_pos finite).symm

theorem readsAs_infinite {value : Binary64} (infinite : value.isFinite = false)
    (span place : Span) : ReadsAs (.literal (.decimal value) span) (.binding value.text place) := by
  have settled : Pattern.settledDecimal value = .binding value.text .generated := by
    rw [Pattern.settledDecimal, infinite]
    rfl
  exact settled.symm

theorem neg_abs {value : Binary64} (negative : value.isNegative = true) :
    value.abs.neg = value := by
  cases value with
  | nan => cases negative
  | infinite sign =>
      obtain rfl : sign = true := negative
      rfl
  | finite sign =>
      obtain rfl : sign = true := negative
      rfl

theorem literal_reads {value : Literal} (span : Span) (spelled : value.isSpelled = true)
    (readable : (Pattern.literal value span).isReadablePart = true ∨ excuse)
    (short : value.hasNotation = true) (inner : Parse Pattern) (fuel : Nat) :
    Reads excuse (primaryPattern inner fuel) value.lexemes (fun _ => True)
      (ReadsAs (.literal value span)) := by
  rw [primaryPattern]
  cases value with
  | boolean value =>
      cases value
      all_goals
        apply Reads.peek
        intro place
        apply Reads.skip
        exact .answer rfl
  | nil | text value | atom value =>
      apply Reads.peek
      intro place
      apply Reads.skip
      exact .answer rfl
  | integer value =>
      have digits : Numeral.hasNumeral (value.natAbs : Int) = true := short
      rw [Literal.lexemes]
      split
      · rename_i negative
        apply Reads.peek
        intro place
        apply Reads.peek_second
        intro place'
        simp only [decide_true, Bool.true_or, if_true]
        apply Reads.skip
        apply Reads.skip
        simp only [literal?, integerOf_natText digits, pure_bind, negated]
        exact .answer (readsAs_integer (by omega) _ _)
      · rename_i positive
        apply Reads.peek
        intro place
        apply Reads.skip
        simp only [literal?, integerOf_natText digits, pure_bind]
        exact .answer (readsAs_integer (by omega) _ _)
  | decimal value =>
      rw [Literal.lexemes]
      cases negative : value.isNegative with
      | true =>
          rw [if_pos rfl, Binary64.lexeme]
          split
          · rename_i finite'
            have finite : value.isFinite = true := by
              cases value with
              | finite => rfl
              | _ => cases finite'
            apply Reads.peek
            intro place
            apply Reads.peek_second
            intro place'
            simp only [decide_true, Bool.or_true, if_true]
            apply Reads.skip
            apply Reads.skip
            simp only [literal?, decimalOf_text finite' value.isNegative_abs, pure_bind, negated,
              neg_abs negative]
            exact .answer (readsAs_decimal finite _ _)
          · rename_i infinite'
            have infinite : value.isFinite = false := by
              cases value with
              | finite => exact absurd rfl infinite'
              | _ => rfl
            have excused : excuse := by
              simpa [Pattern.isReadablePart, negative, infinite] using readable
            -- A minus sign before the name of infinity is no constant.
            apply Reads.peek
            intro place
            apply Reads.peek_second
            intro place'
            simp only [reduceCtorEq, decide_false, Bool.or_false, Bool.false_eq_true, if_false]
            exact .refuse excused _
      | false =>
          rw [if_neg Bool.false_ne_true, Binary64.lexeme]
          split
          · rename_i finite
            apply Reads.peek
            intro place
            apply Reads.skip
            simp only [literal?, decimalOf_text finite negative, pure_bind]
            exact .answer (readsAs_decimal finite _ _)
          · rename_i infinite
            rw [Bool.not_eq_true] at infinite
            apply Reads.peek
            intro place
            apply Reads.skip
            have named : value.text ≠ "_" := by
              cases value with
              | nan => decide
              | infinite sign =>
                  obtain rfl : sign = false := negative
                  decide
              | finite => cases infinite
            simp only [named, if_false]
            exact .answer (readsAs_infinite infinite _ _)

/-! ## Constructs -/

/-- A pattern may stand before a comma, a bar or a closing mark. -/
theorem endsPattern_marks : EndsPattern .comma ∧ EndsPattern .bar ∧ EndsPattern .rightParen ∧
    EndsPattern .rightBrace ∧ EndsPattern .rightBracket := by
  decide

/-- The inner patterns of a construct are read within its depth. -/
theorem whole_within {patterns : List Pattern} (each : ∀ pattern ∈ patterns, ReadsCore excuse pattern)
    (depth : Nat) : ∀ pattern ∈ patterns, pattern.lexemes.length < depth →
      Reads excuse (Parse.pattern depth) pattern.lexemes EndsPattern (ReadsAs pattern) :=
  fun pattern member => (each pattern member).whole depth

theorem wildcard_reads (span : Span) : ReadsCore excuse (.wildcard span) := by
  intro depth _
  rw [primaryPattern]
  apply Reads.peek
  intro place
  apply Reads.skip
  exact .answer rfl

theorem binding_reads {name : String} (differs : name ≠ "_") (span : Span) :
    ReadsCore excuse (.binding name span) := by
  intro depth _
  rw [primaryPattern]
  apply Reads.peek
  intro place
  apply Reads.skip
  simp only [differs, if_false]
  exact .answer rfl

theorem tuple_reads {elements : List Pattern} (span : Span)
    (starts : ∀ pattern ∈ elements, Starts pattern.lexemes)
    (each : ∀ pattern ∈ elements, ReadsCore excuse pattern) : ReadsCore excuse (.tuple elements span) := by
  intro depth fits
  simp only [Pattern.core, Pattern.lexemes, Pattern.lexemesOfAll_eq] at fits ⊢
  simp only [Lexeme.braced, Lexeme.enclosed, List.cons_append, List.length_cons,
    List.length_append] at fits ⊢
  rw [primaryPattern]
  apply Reads.peek
  intro place
  apply Reads.skip
  have closes : Meets (fun kind => kind = .rightBrace) [⟨.rightBrace, "\x7d"⟩] fun _ => True := rfl
  have inside := separated_within rfl starts endsPattern_marks.1 endsPattern_marks.2.2.2.1
    (whole_within each depth) (Nat.lt_of_lt_of_le (by omega) fits)
  apply Reads.bind inside closes
  intro found allRead
  apply Reads.expected
  intro place'
  apply Reads.answer
  exact congrArg (fun found => Pattern.tuple found .generated)
    (Pattern.rebuildAll_of_readsAs allRead)

theorem list_reads {elements : List Pattern} (span : Span) {tail? : Option Pattern}
    (starts : ∀ pattern ∈ elements, Starts pattern.lexemes)
    (each : ∀ pattern ∈ elements ++ tail?.toList, ReadsCore excuse pattern)
    (nonempty : tail?.isSome = true → elements ≠ []) : ReadsCore excuse (.list elements tail? span) := by
  intro depth fits
  have shape : (Pattern.list elements tail? span).core.lexemes =
      Lexeme.bracketed (Lexeme.listed (elements.map Pattern.lexemes) ++
        tailLexemes Pattern.lexemes tail?) := by
    cases tail? with
    | none => simp only [Pattern.core, Pattern.lexemes, Pattern.lexemesOfAll_eq, tailLexemes,
        List.append_nil]
    | some tail => simp only [Pattern.core, Pattern.lexemes, Pattern.lexemesOfAll_eq, tailLexemes]
  rw [shape, Lexeme.bracketed, Lexeme.enclosed, List.cons_append] at fits ⊢
  rw [List.length_cons, List.length_append, List.length_singleton] at fits
  rw [primaryPattern]
  apply Reads.peek
  intro place
  apply Reads.skip
  have closes : Meets (fun kind => kind = .rightBracket) [⟨.rightBracket, "]"⟩] fun _ => True :=
    rfl
  have inside := separatedWithTail_within starts endsPattern_marks.1 endsPattern_marks.2.1
    endsPattern_marks.2.2.2.2 (whole_within each depth) nonempty
    (Nat.lt_of_lt_of_le (by omega) fits)
  apply Reads.bind inside closes
  rintro ⟨elements', tail?'⟩ ⟨allRead, tailRead⟩
  apply Reads.expected
  intro place'
  apply Reads.answer
  have same := Pattern.rebuildAll_of_readsAs allRead
  cases tailRead with
  | none => exact congrArg (fun found => Pattern.list found none .generated) same
  | some tailRead =>
      have both := congrArg₂ (fun found tail => Pattern.list found (some tail) .generated) same
        tailRead
      exact both

theorem map_reads {items : List (String × Pattern)} (span : Span)
    (each : ∀ entry ∈ items, ReadsCore excuse entry.2)
    (distinct : areKeys (items.map (·.1)) = true) : ReadsCore excuse (.map items span) := by
  intro depth fits
  simp only [Pattern.core, Pattern.lexemes, Pattern.lexemesOfEntries_eq] at fits ⊢
  simp only [Lexeme.mapped, Lexeme.enclosed, List.cons_append, List.length_cons,
    List.length_append] at fits ⊢
  rw [primaryPattern]
  apply Reads.peek
  intro place
  apply Reads.skip
  have closes : Meets (fun kind => kind = .rightBrace) [⟨.rightBrace, "\x7d"⟩] fun _ => True := rfl
  have inside := entries_within endsPattern_marks.1 endsPattern_marks.2.2.2.1
    (fun entry member => (each entry member).whole depth) (nodup_of_areKeys distinct)
    (Nat.lt_of_lt_of_le (by omega) fits)
  apply Reads.bind inside closes
  intro found allRead
  apply Reads.expected
  intro place'
  apply Reads.answer
  exact congrArg (fun found => Pattern.map found .generated)
    (Pattern.rebuildEntries_of_readsAs allRead)

theorem record_reads (tag : String) {items : List (String × Pattern)} (span : Span)
    (each : ∀ entry ∈ items, ReadsCore excuse entry.2)
    (distinct : areKeys (items.map (·.1)) = true) : ReadsCore excuse (.record tag items span) := by
  intro depth fits
  simp only [Pattern.core, Pattern.lexemes, Pattern.lexemesOfEntries_eq] at fits ⊢
  simp only [Lexeme.braced, Lexeme.enclosed, List.cons_append, List.length_cons,
    List.length_append] at fits ⊢
  rw [primaryPattern]
  apply Reads.peek
  intro place
  apply Reads.skip
  apply Reads.at_head
  simp only [decide_true, if_true]
  apply Reads.skip
  have closes : Meets (fun kind => kind = .rightBrace) [⟨.rightBrace, "\x7d"⟩] fun _ => True := rfl
  have inside := entries_within endsPattern_marks.1 endsPattern_marks.2.2.2.1
    (fun entry member => (each entry member).whole depth) (nodup_of_areKeys distinct)
    (Nat.lt_of_lt_of_le (by omega) fits)
  apply Reads.bind inside closes
  intro found allRead
  apply Reads.expected
  intro place'
  apply Reads.answer
  exact congrArg (fun found => Pattern.record tag found .generated)
    (Pattern.rebuildEntries_of_readsAs allRead)

theorem result_reads (tag : ResultTag) {inner : Pattern} (span : Span)
    (core : ReadsCore excuse inner) : ReadsCore excuse (.result tag inner span) := by
  intro depth fits
  simp only [Pattern.core, Pattern.lexemes, Lexeme.parenthesized, Lexeme.enclosed,
    List.cons_append, List.length_cons, List.length_append] at fits ⊢
  have shorter : inner.lexemes.length < depth := by omega
  have ends : Meets EndsPattern [⟨.rightParen, ")"⟩] fun _ => True := endsPattern_marks.2.2.1
  rw [primaryPattern]
  cases tag
  all_goals
    apply Reads.peek
    intro place
    apply Reads.skip
    apply Reads.skip_expected
    apply Reads.bind (core.whole depth shorter) ends
    intro found read
    apply Reads.expected
    intro place'
    apply Reads.answer
    exact congrArg (fun found => Pattern.result _ found .generated) read

/-! ## Patterns -/

theorem starts_of_allSpelled {patterns : List Pattern}
    (spelled : Pattern.everyOfAll Pattern.isSpelledPart patterns = true) :
    ∀ pattern ∈ patterns, Starts pattern.lexemes :=
  fun pattern member =>
    (Pattern.printed (Pattern.everyOfAll_iff.mp spelled pattern member)).starts

mutual

/-- A pattern without the name for the whole is read from its lexemes. -/
theorem core_reads : ∀ {pattern : Pattern}, pattern.isSpelled = true →
    pattern.isReadable = true ∨ excuse → pattern.hasNotation = true → ReadsCore excuse pattern
  | .literal value span, spelled, readable, short => by
      intro depth _
      exact literal_reads span spelled readable short _ _
  | .wildcard span, _, _, _ => wildcard_reads span
  | .binding name span, spelled, _, _ => by
      simp only [Pattern.isSpelled, Pattern.every, Pattern.isSpelledPart, Bool.and_eq_true,
        decide_eq_true_eq] at spelled
      exact binding_reads spelled.2 span
  | .tuple elements span, spelled, readable, short => by
      simp only [Pattern.isSpelled, Pattern.isReadable, Pattern.every, Pattern.isSpelledPart,
        Pattern.isReadablePart, Bool.true_and] at spelled readable
      exact tuple_reads span (starts_of_allSpelled spelled) (all_read spelled readable short)
  | .list elements none span, spelled, readable, short => by
      simp only [Pattern.isSpelled, Pattern.isReadable, Pattern.every, Pattern.isSpelledPart,
        Pattern.isReadablePart, Bool.true_and] at spelled readable
      have noTail : (none : Option Pattern).isSome = true → elements ≠ [] := nofun
      apply list_reads span (starts_of_allSpelled spelled) ?_ noTail
      rw [Option.toList_none, List.append_nil]
      exact all_read spelled readable short
  | .list elements (some tail) span, spelled, readable, short => by
      simp only [Pattern.isSpelled, Pattern.isReadable, Pattern.every, Pattern.isSpelledPart,
        Pattern.isReadablePart, Pattern.hasNotation, Bool.true_and, Bool.and_eq_true,
        Bool.not_eq_true', List.isEmpty_eq_false_iff] at spelled readable short
      apply list_reads span (starts_of_allSpelled spelled.1.2) ?_ fun _ => spelled.1.1
      intro pattern member
      rcases List.mem_append.mp member with inRow | isTail
      · exact all_read spelled.1.2 (readable.imp_left And.left) short.1 pattern inRow
      · rw [List.mem_singleton.mp isTail]
        exact core_reads spelled.2 (readable.imp_left And.right) short.2
  | .map items span, spelled, readable, short => by
      simp only [Pattern.isSpelled, Pattern.isReadable, Pattern.every, Pattern.isSpelledPart,
        Pattern.isReadablePart, Bool.true_and, Bool.and_eq_true] at spelled readable
      exact map_reads span (entries_read spelled.2 readable short) spelled.1
  | .record tag items span, spelled, readable, short => by
      simp only [Pattern.isSpelled, Pattern.isReadable, Pattern.every, Pattern.isSpelledPart,
        Pattern.isReadablePart, Bool.true_and, Bool.and_eq_true] at spelled readable
      exact record_reads tag span (entries_read spelled.2 readable short) spelled.1.2
  | .result tag inner span, spelled, readable, short => by
      simp only [Pattern.isSpelled, Pattern.isReadable, Pattern.every, Pattern.isSpelledPart,
        Pattern.isReadablePart, Bool.true_and] at spelled readable
      exact result_reads tag span (core_reads spelled readable short)
  | .named inner name span, spelled, readable, short => by
      simp only [Pattern.isSpelled, Pattern.isReadable, Pattern.every, Pattern.isSpelledPart,
        Pattern.isReadablePart, Bool.true_and, Bool.and_eq_true, Bool.not_eq_true']
        at spelled readable
      have core := core_reads spelled.2 readable short
      rwa [ReadsCore, Pattern.core_of_not_named spelled.1.2] at core

theorem all_read : ∀ {patterns : List Pattern},
    Pattern.everyOfAll Pattern.isSpelledPart patterns = true →
      Pattern.everyOfAll Pattern.isReadablePart patterns = true ∨ excuse →
        Pattern.allHaveNotation patterns = true → ∀ pattern ∈ patterns, ReadsCore excuse pattern
  | [], _, _, _ => nofun
  | pattern :: rest, spelled, readable, short => by
      simp only [Pattern.everyOfAll, Pattern.allHaveNotation, Bool.and_eq_true]
        at spelled readable short
      exact List.forall_mem_cons.mpr ⟨core_reads spelled.1 (readable.imp_left And.left) short.1,
        all_read spelled.2 (readable.imp_left And.right) short.2⟩

theorem entries_read : ∀ {items : List (String × Pattern)},
    Pattern.everyOfEntries Pattern.isSpelledPart items = true →
      Pattern.everyOfEntries Pattern.isReadablePart items = true ∨ excuse →
        Pattern.entriesHaveNotation items = true → ∀ entry ∈ items, ReadsCore excuse entry.2
  | [], _, _, _ => nofun
  | (key, pattern) :: rest, spelled, readable, short => by
      simp only [Pattern.everyOfEntries, Pattern.entriesHaveNotation, Bool.and_eq_true]
        at spelled readable short
      exact List.forall_mem_cons.mpr ⟨core_reads spelled.1 (readable.imp_left And.left) short.1,
        entries_read spelled.2 (readable.imp_left And.right) short.2⟩

end

end Parse
end ClauseFlow

import ClauseFlow.Pattern.Print
import ClauseFlow.Proofs.Pattern.Every
import ClauseFlow.Proofs.Token.Fragments

/-!
# Lexemes of patterns

The lexemes that a pattern is printed as. A pattern with names and keys as the reader finds them
spells just these.
-/

namespace ClauseFlow

/-! ## Names -/

/-- Whether a text is a name, and not a keyword or a tag. -/
def isName (text : String) : Bool :=
  isWord text && wordKind text = .name

/-- Whether a text is the tag of a record. -/
def isTag (text : String) : Bool :=
  isWord text && wordKind text = .typeName

theorem isName_iff {text : String} :
    isName text = true ↔ isWord text = true ∧ wordKind text = .name := by
  simp [isName]

theorem isTag_iff {text : String} :
    isTag text = true ↔ isWord text = true ∧ wordKind text = .typeName := by
  simp [isTag]

/-- Whether keys are names, no two of them the same. -/
def areKeys (keys : List String) : Bool :=
  keys.all isName && keys.Nodup

theorem areKeys_cons {key : String} {keys : List String} (distinct : areKeys (key :: keys) = true) :
    isName key = true ∧ areKeys keys = true := by
  simp only [areKeys, List.all_cons, Bool.and_eq_true, decide_eq_true_eq, List.nodup_cons]
    at distinct ⊢
  exact ⟨distinct.1.1, distinct.1.2, distinct.2.2⟩

theorem nodup_of_areKeys {keys : List String} (distinct : areKeys keys = true) : keys.Nodup := by
  simp only [areKeys, Bool.and_eq_true, decide_eq_true_eq] at distinct
  exact distinct.2

theorem Printed.name {text : String} (name : isName text = true) :
    Printed text [.name text] :=
  .word (isName_iff.mp name).1 (isName_iff.mp name).2 rfl rfl rfl

theorem ResultTag.isWord_text (tag : ResultTag) : isWord tag.text = true := by
  cases tag <;> decide +kernel

def ResultTag.kind : ResultTag → TokenKind
  | ok => .okTag
  | error => .errorTag

theorem ResultTag.wordKind_text (tag : ResultTag) : wordKind tag.text = tag.kind := by
  cases tag <;> decide +kernel

/-! ## Numbers -/

/-- A text that begins with a digit and is a single lexeme. -/
theorem Printed.number {text : String} {lexeme : Lexeme} {c : Char} {more : List Char}
    (spells : ∀ {rest : List Char}, Apart rest → Spells text [lexeme] rest)
    (opens : lexeme.kind.opens = false) (starts : lexeme.kind.starts = true)
    (expects : lexeme.kind.expectsMore = false) (written : text.toList = c :: more)
    (digit : c.isDigit = true) : Printed text [lexeme] := by
  have differs : ∀ other : Char, other.isDigit = false → c ≠ other :=
    fun other => Numeral.isDigit_ne digit
  apply Printed.single spells opens starts expects
  · refine ⟨c, by rw [written]; rfl, ?_⟩
    simp [Piece.isGap, differs ' ' (by decide), differs '\t' (by decide),
      differs '\r' (by decide)]
  · rw [written]
    exact fun same => differs '>' (by decide) (Option.some.inj same)

namespace Binary64

/-- The lexeme of a number without a sign; what is not finite is printed as a name. -/
def lexeme (x : Binary64) : Lexeme :=
  if x.isFinite then ⟨.decimal, x.text⟩ else .name x.text

theorem text_of_isNegative {x : Binary64} (negative : x.isNegative = true) :
    x.text = "-" ++ x.abs.text := by
  cases x with
  | nan => cases negative
  | infinite sign =>
      obtain rfl : sign = true := negative
      rfl
  | finite sign mantissa exponent canonical =>
      obtain rfl : sign = true := negative
      apply String.toList_inj.mp
      simp [text, textWith, isNegative, abs, isZero, units]

theorem isNegative_abs (x : Binary64) : x.abs.isNegative = false := by
  cases x <;> rfl

theorem printed_text {x : Binary64} (positive : x.isNegative = false) :
    Printed x.text [x.lexeme] := by
  cases x with
  | nan => exact Printed.name (by decide +kernel : isName "nan" = true)
  | infinite sign =>
      obtain rfl : sign = false := positive
      exact Printed.name (by decide +kernel : isName "inf" = true)
  | finite sign mantissa exponent canonical =>
      have pointed := pointed_text rfl positive
      have digits := pointed
      rcases digits with ⟨whole, fraction, written, wholeSome, _, wholeDigits, _⟩
      cases whole with
      | nil => exact absurd rfl wholeSome
      | cons c whole =>
          exact Printed.number (Spells.decimal pointed) rfl rfl rfl written
            (wholeDigits c (.head _))

end Binary64

theorem Printed.integer (n : Nat) :
    Printed (Numeral.natText n) [⟨.integer, Numeral.natText n⟩] := by
  have digits := Numeral.allDigits_toDigits n
  have text : (Numeral.natText n).toList = Nat.toDigits 10 n := String.toList_ofList
  cases written : Nat.toDigits 10 n with
  | nil => exact absurd written Nat.toDigits_ne_nil
  | cons c more =>
      rw [written] at digits text
      exact .number (Spells.integer n) rfl rfl rfl text (digits c (.head _))

/-! ## Constants -/

def Lexeme.minus : Lexeme :=
  ⟨.minus, "-"⟩

namespace Literal

def lexemes : Literal → List Lexeme
  | .nil => [⟨.nil, "nil"⟩]
  | .boolean value => [⟨.boolean, if value then "true" else "false"⟩]
  | .integer value =>
      if value < 0 then [.minus, ⟨.integer, Numeral.natText value.natAbs⟩]
      else [⟨.integer, Numeral.natText value.natAbs⟩]
  | .decimal value =>
      if value.isNegative then [.minus, value.abs.lexeme] else [value.lexeme]
  | .text value => [⟨.text, value⟩]
  | .atom name => [⟨.atom, name⟩]

/-- Whether a constant is one that the reader finds. -/
def isSpelled : Literal → Bool
  | .decimal value => !value.isNaN
  | .atom name => isAtomName name
  | _ => true

end Literal

theorem Printed.boolean (value : Bool) :
    Printed (if value then "true" else "false")
      [⟨.boolean, if value then "true" else "false"⟩] := by
  cases value
  · exact .word (by decide +kernel) (by decide +kernel) rfl rfl rfl
  · exact .word (by decide +kernel) (by decide +kernel) rfl rfl rfl

theorem Printed.nil : Printed "nil" [⟨.nil, "nil"⟩] :=
  .word (by decide +kernel) (by decide +kernel) rfl rfl rfl

theorem Printed.text (value : String) : Printed (Text.literal value) [⟨.text, value⟩] := by
  have first : (Text.literal value).toList.head? = some '"' := by
    rw [Text.literal, String.toList_ofList]
    rfl
  apply Printed.single (fun _ => Spells.text value _) rfl rfl rfl ⟨'"', first, by decide⟩
  rw [first]
  decide

theorem Printed.atom {name : String} (spelled : isAtomName name = true) :
    Printed (":" ++ name) [⟨.atom, name⟩] := by
  have first : (":" ++ name).toList.head? = some ':' := by
    rw [String.toList_append]
    rfl
  apply Printed.single (Spells.atom spelled) rfl rfl rfl ⟨':', first, by decide⟩
  rw [first]
  decide

theorem Literal.printed {value : Literal} (spelled : value.isSpelled = true) :
    Printed value.print value.lexemes := by
  cases value with
  | nil => exact .nil
  | boolean value => exact .boolean value
  | integer value =>
      simp only [print, lexemes, Numeral.intText]
      split
      · exact (Printed.integer _).negated
      · exact .integer _
  | decimal value =>
      simp only [print, lexemes]
      cases negative : value.isNegative with
      | true =>
          rw [Binary64.text_of_isNegative negative, if_pos rfl]
          exact (Binary64.printed_text value.isNegative_abs).negated
      | false => exact Binary64.printed_text negative
  | text value => exact .text value
  | atom name => exact .atom spelled

/-! ## Patterns -/

namespace Pattern

def isNamed : Pattern → Bool
  | named .. => true
  | _ => false

mutual

/-- The lexemes that a pattern is printed as. -/
def lexemes : Pattern → List Lexeme
  | .literal value _ => value.lexemes
  | .wildcard _ => [.name "_"]
  | .binding name _ => [.name name]
  | .tuple elements _ => Lexeme.braced (Lexeme.listed (lexemesOfAll elements))
  | .list elements none _ => Lexeme.bracketed (Lexeme.listed (lexemesOfAll elements))
  | .list elements (some tail) _ =>
      Lexeme.bracketed (Lexeme.listed (lexemesOfAll elements) ++ ⟨.bar, "|"⟩ :: lexemes tail)
  | .map entries _ => Lexeme.mapped (Lexeme.listed (lexemesOfEntries entries))
  | .record tag entries _ =>
      ⟨.typeName, tag⟩ :: Lexeme.braced (Lexeme.listed (lexemesOfEntries entries))
  | .result tag inner _ => ⟨tag.kind, tag.text⟩ :: Lexeme.parenthesized (lexemes inner)
  | .named inner name _ => lexemes inner ++ ⟨.assign, "="⟩ :: [.name name]

def lexemesOfAll : List Pattern → List (List Lexeme)
  | [] => []
  | pattern :: rest => lexemes pattern :: lexemesOfAll rest

def lexemesOfEntries : List (String × Pattern) → List (List Lexeme)
  | [] => []
  | (key, pattern) :: rest => Lexeme.entry key (lexemes pattern) :: lexemesOfEntries rest

end

theorem lexemesOfAll_eq (patterns : List Pattern) :
    lexemesOfAll patterns = patterns.map lexemes := by
  induction patterns with
  | nil => rfl
  | cons pattern rest ih => rw [lexemesOfAll, ih, List.map_cons]

theorem lexemesOfEntries_eq (entries : List (String × Pattern)) :
    lexemesOfEntries entries =
      entries.map fun entry => Lexeme.entry entry.1 (lexemes entry.2) := by
  induction entries with
  | nil => rfl
  | cons entry rest ih => rw [lexemesOfEntries, ih, List.map_cons]

def isSpelledPart : Pattern → Bool
  | .literal value _ => value.isSpelled
  | .binding name _ => isName name && name ≠ "_"
  | .list elements (some _) _ => !elements.isEmpty
  | .map entries _ => areKeys (entries.map (·.1))
  | .record tag entries _ => isTag tag && areKeys (entries.map (·.1))
  | .named inner name _ => isName name && !inner.isNamed
  | _ => true

/-- Whether a pattern is one that the reader finds: its names are names, its keys are different, and
no pattern has two names in a row for the whole. -/
def isSpelled (pattern : Pattern) : Bool :=
  pattern.every isSpelledPart

mutual

/-- A pattern is printed as its lexemes. -/
theorem printed : ∀ {pattern : Pattern}, pattern.isSpelled = true →
    Printed pattern.print pattern.lexemes
  | .literal value _, spelled => Literal.printed spelled
  | .wildcard _, _ => Printed.name (show isName "_" = true by decide +kernel)
  | .binding name _, spelled => by
      simp only [isSpelled, every, isSpelledPart, Bool.and_eq_true] at spelled
      exact Printed.name spelled.1
  | .tuple elements _, spelled => by
      simp only [isSpelled, every, isSpelledPart, Bool.true_and] at spelled
      exact .braced (.listed (allPrinted spelled))
  | .list elements none _, spelled => by
      simp only [isSpelled, every, isSpelledPart, Bool.true_and] at spelled
      exact .bracketed (.listed (allPrinted spelled))
  | .list elements (some tail) _, spelled => by
      simp only [isSpelled, every, Bool.and_eq_true] at spelled
      exact .bracketedWithTail (.listed (allPrinted spelled.1.2)) (printed spelled.2)
  | .map entries _, spelled => by
      simp only [isSpelled, every, isSpelledPart, Bool.and_eq_true] at spelled
      exact .mapped (.listed (entriesPrinted spelled.1 spelled.2))
  | .record tag entries _, spelled => by
      simp only [isSpelled, every, isSpelledPart, Bool.and_eq_true] at spelled
      exact .record (isTag_iff.mp spelled.1.1).1 (isTag_iff.mp spelled.1.1).2 rfl rfl
        (.listed (entriesPrinted spelled.1.2 spelled.2))
  | .result tag inner _, spelled => by
      simp only [isSpelled, every, isSpelledPart, Bool.true_and] at spelled
      exact .call tag.isWord_text tag.wordKind_text (by cases tag <;> rfl) (by cases tag <;> rfl)
        (printed spelled).toSpelled
  | .named inner name _, spelled => by
      simp only [isSpelled, every, isSpelledPart, Bool.and_eq_true] at spelled
      have assign : (⟨.assign, "="⟩ : Lexeme) ∈ spacedMarks := by decide
      have whole := (printed spelled.2).infixed assign (Printed.name spelled.1.1)
      rw [print, show " = " = " " ++ "=" ++ " " from rfl, ← String.append_assoc,
        ← String.append_assoc]
      exact whole

theorem allPrinted : ∀ {patterns : List Pattern}, everyOfAll isSpelledPart patterns = true →
    List.Forall₂ Printed (printAll patterns) (lexemesOfAll patterns)
  | [], _ => .nil
  | pattern :: rest, spelled => by
      simp only [everyOfAll, Bool.and_eq_true] at spelled
      exact .cons (printed spelled.1) (allPrinted spelled.2)

theorem entriesPrinted : ∀ {entries : List (String × Pattern)},
    areKeys (entries.map (·.1)) = true → everyOfEntries isSpelledPart entries = true →
      List.Forall₂ Printed ((printEntries entries).map fun entry => entry.1 ++ ": " ++ entry.2)
        (lexemesOfEntries entries)
  | [], _, _ => .nil
  | (key, pattern) :: rest, distinct, spelled => by
      simp only [everyOfEntries, Bool.and_eq_true] at spelled
      have keys := areKeys_cons distinct
      have key := isName_iff.mp keys.1
      exact .cons ((printed spelled.1).entry key.1 key.2) (entriesPrinted keys.2 spelled.2)

end

end Pattern
end ClauseFlow

import ClauseFlow.Proofs.Token.Spelling
import ClauseFlow.Text.Listing

/-!
# Printed fragments

What the printers put together: words, operators and brackets around fragments that are printed
already. A printed fragment spells its lexemes before anything that keeps apart, closes the brackets
it opens, begins with no blank, and does not end where more is expected.
-/

namespace ClauseFlow

/-! ## Rows of lexemes -/

namespace Lexeme

/-- The number of open brackets after a row of lexemes. -/
def depthAfter (depth : Nat) (lexemes : List Lexeme) : Nat :=
  lexemes.foldl (fun depth lexeme => lexeme.kind.depthAfter depth) depth

def name (text : String) : Lexeme :=
  ⟨.name, text⟩

/-- A row of lexemes between brackets. -/
def enclosed (opening closing : Lexeme) (inner : List Lexeme) : List Lexeme :=
  opening :: inner ++ [closing]

def parenthesized : List Lexeme → List Lexeme :=
  enclosed ⟨.leftParen, "("⟩ ⟨.rightParen, ")"⟩

def braced : List Lexeme → List Lexeme :=
  enclosed ⟨.leftBrace, "\x7b"⟩ ⟨.rightBrace, "\x7d"⟩

def mapped : List Lexeme → List Lexeme :=
  enclosed ⟨.mapOpen, "%\x7b"⟩ ⟨.rightBrace, "\x7d"⟩

def bracketed : List Lexeme → List Lexeme :=
  enclosed ⟨.leftBracket, "["⟩ ⟨.rightBracket, "]"⟩

def comma : Lexeme :=
  ⟨.comma, ","⟩

/-- Rows of lexemes with commas between them. -/
def listed : List (List Lexeme) → List Lexeme
  | [] => []
  | [last] => last
  | first :: rest => first ++ comma :: listed rest

/-- An entry of a map or a record. -/
def entry (key : String) (value : List Lexeme) : List Lexeme :=
  name key :: ⟨.colon, ":"⟩ :: value

end Lexeme

/-- Whether a row of lexemes closes the brackets it opens and no others. -/
def Balanced (lexemes : List Lexeme) : Prop :=
  ∀ depth, Lexeme.depthAfter depth lexemes = depth

namespace Balanced

variable {lexemes lexemes' : List Lexeme}

theorem nil : Balanced [] := fun _ => rfl

theorem append (first : Balanced lexemes) (second : Balanced lexemes') :
    Balanced (lexemes ++ lexemes') := by
  intro depth
  have after := second (Lexeme.depthAfter depth lexemes)
  rw [first depth] at after
  rw [Lexeme.depthAfter, List.foldl_append]
  exact (congrArg (Lexeme.depthAfter · lexemes') (first depth)).trans after

theorem single {lexeme : Lexeme} (opens : lexeme.kind.opens = false)
    (closes : lexeme.kind.closes = false) : Balanced [lexeme] := by
  intro depth
  simp [Lexeme.depthAfter, TokenKind.depthAfter, opens, closes]

theorem cons {lexeme : Lexeme} (opens : lexeme.kind.opens = false)
    (closes : lexeme.kind.closes = false) (rest : Balanced lexemes) :
    Balanced (lexeme :: lexemes) :=
  (single opens closes).append rest

theorem enclosed {opening closing : Lexeme} (opens : opening.kind.opens = true)
    (noOpening : closing.kind.opens = false) (closes : closing.kind.closes = true)
    (inner : Balanced lexemes) : Balanced (Lexeme.enclosed opening closing lexemes) := by
  intro depth
  have inside := inner (depth + 1)
  rw [Lexeme.depthAfter] at inside
  simp only [Lexeme.enclosed, Lexeme.depthAfter, List.cons_append, List.foldl_cons,
    List.foldl_append, List.foldl_nil]
  rw [show opening.kind.depthAfter depth = depth + 1 from if_pos opens, inside]
  simp [TokenKind.depthAfter, noOpening, closes]

end Balanced

/-- Whether a declaration may end after a row of lexemes. -/
def MayEnd (lexemes : List Lexeme) : Prop :=
  ∃ front last, lexemes = front ++ [last] ∧ last.kind.expectsMore = false

theorem MayEnd.single {lexeme : Lexeme} (ends : lexeme.kind.expectsMore = false) :
    MayEnd [lexeme] :=
  ⟨[], lexeme, rfl, ends⟩

theorem MayEnd.append {lexemes : List Lexeme} (ends : MayEnd lexemes) (before : List Lexeme) :
    MayEnd (before ++ lexemes) := by
  rcases ends with ⟨front, last, rfl, closed⟩
  exact ⟨before ++ front, last, (List.append_assoc ..).symm, closed⟩

/-- Whether an operand, an element or an entry can begin with a token of some kind. -/
def TokenKind.starts (kind : TokenKind) : Bool :=
  !kind.closes && kind ≠ .endOfText

theorem TokenKind.closes_of_starts {kind : TokenKind} (starts : kind.starts = true) :
    kind.closes = false := by
  simp only [TokenKind.starts, Bool.and_eq_true, Bool.not_eq_true'] at starts
  exact starts.1

/-- Whether a row of lexemes can be an operand, an element or an entry by how it begins. -/
def Starts (lexemes : List Lexeme) : Prop :=
  ∃ first more, lexemes = first :: more ∧ first.kind.starts = true

theorem Starts.cons {lexeme : Lexeme} (starts : lexeme.kind.starts = true)
    (more : List Lexeme) : Starts (lexeme :: more) :=
  ⟨lexeme, more, rfl, starts⟩

theorem Starts.append {lexemes : List Lexeme} (starts : Starts lexemes) (after : List Lexeme) :
    Starts (lexemes ++ after) := by
  rcases starts with ⟨first, more, rfl, begins⟩
  exact ⟨first, more ++ after, rfl, begins⟩

theorem Starts.ne_nil {lexemes : List Lexeme} (starts : Starts lexemes) : lexemes ≠ [] := by
  rcases starts with ⟨first, more, rfl, _⟩
  exact List.cons_ne_nil first more

/-! ## How texts begin -/

/-- Whether a text begins with a character that is no blank. -/
def Leads (text : String) : Prop :=
  ∃ c, text.toList.head? = some c ∧ Piece.isGap c = false

theorem head?_append_of_leads {text : String} (leads : Leads text) (rest : List Char) :
    (text.toList ++ rest).head? = text.toList.head? := by
  rcases leads with ⟨c, first, _⟩
  rw [List.head?_append, first]
  rfl

theorem Leads.append {text : String} (leads : Leads text) (text' : String) :
    Leads (text ++ text') := by
  rcases leads with ⟨c, first, noGap⟩
  refine ⟨c, ?_, noGap⟩
  rw [String.toList_append, head?_append_of_leads ⟨c, first, noGap⟩, first]

theorem Leads.noGap {text : String} (leads : Leads text) (rest : List Char) :
    ∀ c ∈ (text.toList ++ rest).head?, Piece.isGap c = false := by
  intro c first
  rw [head?_append_of_leads leads] at first
  rcases leads with ⟨d, same, noGap⟩
  rw [same] at first
  obtain rfl := Option.some.inj first
  exact noGap

/-! ## Fragments -/

/-- A text that may be empty and spells lexemes before anything that keeps apart. -/
structure Spelled (text : String) (lexemes : List Lexeme) : Prop where
  spells : ∀ {rest : List Char}, Apart rest → Spells text lexemes rest
  balanced : Balanced lexemes

/-- A text that spells lexemes before a blank. -/
structure Spaced (text : String) (lexemes : List Lexeme) : Prop where
  spells : ∀ rest : List Char, Spells text lexemes (' ' :: rest)
  balanced : Balanced lexemes
  leads : Leads text

/-- A fragment that can stand for an operand, an element or a whole. -/
structure Printed (text : String) (lexemes : List Lexeme) : Prop
    extends Spelled text lexemes where
  leads : Leads text
  noArrow : text.toList.head? ≠ some '>'
  starts : Starts lexemes
  mayEnd : MayEnd lexemes

/-- A blank after a fragment, before something that is no blank. -/
theorem Spells.then_blank {text : String} {lexemes : List Lexeme} {rest : List Char}
    (spells : Spells text lexemes (' ' :: rest))
    (noGap : ∀ c ∈ rest.head?, Piece.isGap c = false) : Spells (text ++ " ") lexemes rest := by
  have whole := Spells.append spells (Spells.blank noGap)
  rwa [List.append_nil] at whole

theorem Spelled.then_blank {text : String} {lexemes : List Lexeme} (spelled : Spelled text lexemes)
    {rest : List Char} (noGap : ∀ c ∈ rest.head?, Piece.isGap c = false) :
    Spells (text ++ " ") lexemes rest :=
  (spelled.spells (apart_cons (by decide) (by decide))).then_blank noGap

theorem Spelled.empty : Spelled "" [] where
  spells := fun _ _ => ⟨[], rfl, nofun, rfl⟩
  balanced := Balanced.nil

theorem Printed.spaced {text : String} {lexemes : List Lexeme} (printed : Printed text lexemes) :
    Spaced text lexemes where
  spells _ := printed.spells (apart_cons (by decide) (by decide))
  balanced := printed.balanced
  leads := printed.leads

/-- A lexeme by itself. -/
theorem Printed.single {text : String} {lexeme : Lexeme}
    (spells : ∀ {rest : List Char}, Apart rest → Spells text [lexeme] rest)
    (opens : lexeme.kind.opens = false) (starts : lexeme.kind.starts = true)
    (expects : lexeme.kind.expectsMore = false) (leads : Leads text)
    (noArrow : text.toList.head? ≠ some '>') : Printed text [lexeme] where
  spells := spells
  balanced := .single opens (TokenKind.closes_of_starts starts)
  leads := leads
  noArrow := noArrow
  starts := .cons starts []
  mayEnd := .single expects

namespace Spaced

variable {text text' : String} {lexemes lexemes' : List Lexeme}

theorem mark {lexeme : Lexeme} (isMark : lexeme ∈ spacedMarks) : Spaced lexeme.value [lexeme] where
  spells := Spells.spaced isMark
  balanced := by
    have plain : ∀ lexeme ∈ spacedMarks,
        lexeme.kind.opens = false ∧ lexeme.kind.closes = false := by decide
    exact .single (plain lexeme isMark).1 (plain lexeme isMark).2
  leads := by
    have first : ∀ lexeme ∈ spacedMarks,
        lexeme.value.toList.head?.any (fun c => !Piece.isGap c) = true := by decide
    have here := first lexeme isMark
    cases found : lexeme.value.toList.head? with
    | none => simp [found] at here
    | some c => exact ⟨c, found, by simpa [found] using here⟩

theorem append (first : Spaced text lexemes) (second : Spaced text' lexemes') :
    Spaced (text ++ " " ++ text') (lexemes ++ lexemes') where
  spells rest := ((first.spells _).then_blank (second.leads.noGap _)).append (second.spells rest)
  balanced := first.balanced.append second.balanced
  leads := (first.leads.append " ").append text'

theorem append_printed (first : Spaced text lexemes) (noArrow : text.toList.head? ≠ some '>')
    (starts : Starts lexemes) (second : Printed text' lexemes') : Printed (text ++ " " ++ text') (lexemes ++ lexemes') where
  spells apart := ((first.spells _).then_blank (second.leads.noGap _)).append (second.spells apart)
  balanced := first.balanced.append second.balanced
  leads := (first.leads.append " ").append text'
  noArrow := by
    rw [String.append_assoc, String.toList_append, head?_append_of_leads first.leads]
    exact noArrow
  starts := starts.append lexemes'
  mayEnd := second.mayEnd.append lexemes

end Spaced

namespace Printed

variable {text text' : String} {lexemes lexemes' : List Lexeme}

/-- Two operands and the operator between them. -/
theorem infixed (left : Printed text lexemes) {kind : TokenKind} {op : String}
    (isMark : ⟨kind, op⟩ ∈ spacedMarks) (right : Printed text' lexemes') :
    Printed (text ++ " " ++ op ++ " " ++ text') (lexemes ++ ⟨kind, op⟩ :: lexemes') := by
  have before := left.spaced.append (Spaced.mark isMark)
  have noArrow : (text ++ " " ++ op).toList.head? ≠ some '>' := by
    rw [String.append_assoc, String.toList_append, head?_append_of_leads left.leads]
    exact left.noArrow
  have whole := before.append_printed noArrow (left.starts.append _) right
  rwa [List.append_assoc, List.singleton_append] at whole

end Printed

/-! ## Brackets -/

/-- Whether a lexeme opens a bracket, whatever follows. -/
structure Opening (lexeme : Lexeme) : Prop where
  isMark : lexeme ∈ standaloneMarks
  opens : lexeme.kind.opens = true
  starts : lexeme.kind.starts = true
  leads : Leads lexeme.value
  noArrow : lexeme.value.toList.head? ≠ some '>'

/-- Whether a lexeme closes a bracket. -/
structure Closing (lexeme : Lexeme) : Prop where
  isMark : lexeme ∈ standaloneMarks
  noOpening : lexeme.kind.opens = false
  closes : lexeme.kind.closes = true
  apart : ∀ rest, Apart (lexeme.value.toList ++ rest)
  mayEnd : lexeme.kind.expectsMore = false

theorem opening_paren : Opening ⟨.leftParen, "("⟩ :=
  ⟨by decide, rfl, rfl, ⟨'(', rfl, by decide⟩, by decide⟩

theorem closing_paren : Closing ⟨.rightParen, ")"⟩ :=
  ⟨by decide, rfl, rfl, fun _ => apart_cons (by decide : ')' ∈ delimiters) (by decide), rfl⟩

theorem opening_brace : Opening ⟨.leftBrace, "\x7b"⟩ :=
  ⟨by decide, rfl, rfl, ⟨'{', rfl, by decide⟩, by decide⟩

theorem opening_map : Opening ⟨.mapOpen, "%\x7b"⟩ :=
  ⟨by decide, rfl, rfl, ⟨'%', rfl, by decide⟩, by decide⟩

theorem closing_brace : Closing ⟨.rightBrace, "\x7d"⟩ :=
  ⟨by decide, rfl, rfl, fun _ => apart_cons (by decide : '}' ∈ delimiters) (by decide), rfl⟩

theorem opening_bracket : Opening ⟨.leftBracket, "["⟩ :=
  ⟨by decide, rfl, rfl, ⟨'[', rfl, by decide⟩, by decide⟩

theorem closing_bracket : Closing ⟨.rightBracket, "]"⟩ :=
  ⟨by decide, rfl, rfl, fun _ => apart_cons (by decide : ']' ∈ delimiters) (by decide), rfl⟩

namespace Printed

variable {text text' : String} {lexemes lexemes' : List Lexeme}

/-- A fragment between brackets. -/
theorem enclosed {opening closing : Lexeme} (opens : Opening opening)
    (inner : Spelled text lexemes) (closes : Closing closing) :
    Printed (opening.value ++ text ++ closing.value)
      (Lexeme.enclosed opening closing lexemes) where
  spells {rest} _ :=
    ((Spells.standalone opens.isMark _).append (inner.spells (closes.apart rest))).append
      (Spells.standalone closes.isMark rest)
  balanced := inner.balanced.enclosed opens.opens closes.noOpening closes.closes
  leads := (opens.leads.append text).append _
  noArrow := by
    rw [String.append_assoc, String.toList_append, head?_append_of_leads opens.leads]
    exact opens.noArrow
  starts := .cons opens.starts _
  mayEnd := MayEnd.append (.single closes.mayEnd) (opening :: lexemes)

theorem parenthesized (inner : Spelled text lexemes) :
    Printed ("(" ++ text ++ ")") (Lexeme.parenthesized lexemes) :=
  enclosed opening_paren inner closing_paren

theorem braced (inner : Spelled text lexemes) :
    Printed (Text.braced text) (Lexeme.braced lexemes) :=
  enclosed opening_brace inner closing_brace

theorem mapped (inner : Spelled text lexemes) :
    Printed ("%" ++ Text.braced text) (Lexeme.mapped lexemes) := by
  have whole := enclosed opening_map inner closing_brace
  rw [Text.braced, ← String.append_assoc, ← String.append_assoc]
  exact whole

/-- Items of a list between brackets, with the rest of the list after a bar. -/
theorem bracketed (inner : Spelled text lexemes) :
    Printed (Text.bracketed text none) (Lexeme.bracketed lexemes) := by
  rw [Text.bracketed, String.append_empty]
  exact enclosed opening_bracket inner closing_bracket

theorem bracketedWithTail (items : Spelled text lexemes) (tail : Printed text' lexemes') :
    Printed (Text.bracketed text (some text'))
      (Lexeme.bracketed (lexemes ++ ⟨.bar, "|"⟩ :: lexemes')) := by
  have bar : Spaced "|" [⟨.bar, "|"⟩] :=
    Spaced.mark (by decide : (⟨.bar, "|"⟩ : Lexeme) ∈ spacedMarks)
  have later := bar.append_printed (by decide) (.cons rfl []) tail
  have inner : Spelled (text ++ " " ++ ("|" ++ " " ++ text'))
      (lexemes ++ ⟨.bar, "|"⟩ :: lexemes') := by
    constructor
    · intro rest apart
      exact (items.then_blank (later.leads.noGap _)).append (later.spells apart)
    · exact items.balanced.append later.balanced
  have sameText : "[" ++ text ++ (" | " ++ text') ++ "]" =
      "[" ++ (text ++ " " ++ ("|" ++ " " ++ text')) ++ "]" := by
    rw [show " | " = " " ++ "|" ++ " " from rfl]
    simp only [String.append_assoc]
  rw [Text.bracketed, sameText]
  exact enclosed opening_bracket inner closing_bracket

end Printed

/-! ## Words, entries and lists -/

theorem leads_of_isWord {text : String} (word : isWord text = true) :
    Leads text ∧ text.toList.head? ≠ some '>' ∧
      ∀ c ∈ text.toList.head?, CharClass.isDigit c = false := by
  rw [isWord] at word
  cases written : text.toList with
  | nil => simp [written] at word
  | cons c further =>
      simp only [written, Bool.and_eq_true, Bool.not_eq_true'] at word
      rcases word with ⟨⟨starts, noDigit⟩, _⟩
      have differs : ∀ other : Char, CharClass.isNameStart other = false → c ≠ other := by
        rintro other none rfl
        rw [starts] at none
        cases none
      refine ⟨⟨c, by rw [written]; rfl, ?_⟩, ?_, ?_⟩
      · simp [Piece.isGap, differs ' ' (by decide), differs '\t' (by decide),
          differs '\r' (by decide)]
      · exact fun same => differs '>' (by decide) (Option.some.inj same)
      · intro d first
        obtain rfl := Option.some.inj first
        exact noDigit

/-- A word that is written before a blank. -/
theorem Spaced.word {text : String} (word : isWord text = true) {kind : TokenKind}
    (isKind : wordKind text = kind) (opens : kind.opens = false) (closes : kind.closes = false) :
    Spaced text [⟨kind, text⟩] where
  spells rest := by
    rw [← isKind]
    exact .of_lexes (Lexes.word word (apart_cons (by decide) (by decide)))
  balanced := .single opens closes
  leads := (leads_of_isWord word).1

namespace Printed

variable {text text' : String} {lexemes lexemes' : List Lexeme}

/-- A word that may end a declaration. -/
theorem word (word : isWord text = true) {kind : TokenKind} (isKind : wordKind text = kind)
    (opens : kind.opens = false) (starts : kind.starts = true)
    (expects : kind.expectsMore = false) : Printed text [⟨kind, text⟩] := by
  rcases leads_of_isWord word with ⟨leads, noArrow, _⟩
  apply Printed.single ?_ opens starts expects leads noArrow
  intro rest apart
  rw [← isKind]
  exact .of_lexes (Lexes.word word apart)

/-- A word before a bracket. -/
theorem prefixed (word : isWord text' = true) {kind : TokenKind} (isKind : wordKind text' = kind)
    (opens : kind.opens = false) (starts : kind.starts = true) (printed : Printed text lexemes)
    (apart : ∀ rest, Apart (text.toList ++ rest)) :
    Printed (text' ++ text) (⟨kind, text'⟩ :: lexemes) where
  spells {rest} ends := by
    have first := Spells.of_lexes (Lexes.word word (apart rest))
    rw [isKind] at first
    exact first.append (printed.spells ends)
  balanced := printed.balanced.cons opens (TokenKind.closes_of_starts starts)
  leads := (leads_of_isWord word).1.append text
  noArrow := by
    rw [String.toList_append, head?_append_of_leads (leads_of_isWord word).1]
    exact (leads_of_isWord word).2.1
  starts := .cons starts _
  mayEnd := printed.mayEnd.append [⟨kind, text'⟩]

/-- A name before parentheses. -/
theorem call (word : isWord text' = true) {kind : TokenKind} (isKind : wordKind text' = kind)
    (opens : kind.opens = false) (starts : kind.starts = true) (inner : Spelled text lexemes) :
    Printed (text' ++ "(" ++ text ++ ")") (⟨kind, text'⟩ :: Lexeme.parenthesized lexemes) := by
  have apart (rest : List Char) : Apart (("(" ++ text ++ ")").toList ++ rest) := by
    rw [String.append_assoc, String.toList_append, List.append_assoc]
    exact apart_cons (by decide : '(' ∈ delimiters) (by decide)
  have whole := prefixed word isKind opens starts (parenthesized inner) apart
  rwa [← String.append_assoc, ← String.append_assoc] at whole

/-- A fragment before parentheses. -/
theorem applied (callee : Printed text' lexemes') (inner : Spelled text lexemes) :
    Printed (text' ++ "(" ++ text ++ ")") (lexemes' ++ Lexeme.parenthesized lexemes) := by
  have arguments := parenthesized inner
  have apart (rest : List Char) : Apart (("(" ++ text ++ ")").toList ++ rest) := by
    rw [String.append_assoc, String.toList_append, List.append_assoc]
    exact apart_cons (by decide : '(' ∈ delimiters) (by decide)
  have sameText : text' ++ "(" ++ text ++ ")" = text' ++ ("(" ++ text ++ ")") := by
    simp only [String.append_assoc]
  rw [sameText]
  exact {
    spells := fun ends => (callee.spells (apart _)).append (arguments.spells ends)
    balanced := callee.balanced.append arguments.balanced
    leads := callee.leads.append _
    noArrow := by
      rw [String.toList_append, head?_append_of_leads callee.leads]
      exact callee.noArrow
    starts := callee.starts.append _
    mayEnd := arguments.mayEnd.append lexemes' }

/-- A tag before braces. -/
theorem record (word : isWord text' = true) {kind : TokenKind} (isKind : wordKind text' = kind)
    (opens : kind.opens = false) (starts : kind.starts = true) (inner : Spelled text lexemes) :
    Printed (text' ++ Text.braced text) (⟨kind, text'⟩ :: Lexeme.braced lexemes) := by
  apply prefixed word isKind opens starts (braced inner)
  intro rest
  rw [Text.braced, String.append_assoc, String.toList_append, List.append_assoc]
  exact apart_cons (by decide : '{' ∈ delimiters) (by decide)

/-- A name after a point. -/
theorem field (printed : Printed text lexemes) (word : isWord text' = true)
    (isName : wordKind text' = .name) :
    Printed (text ++ "." ++ text') (lexemes ++ ⟨.dot, "."⟩ :: [.name text']) where
  spells {rest} apart := by
    have name : Spells text' [.name text'] rest := by
      rw [Lexeme.name, ← isName]
      exact .of_lexes (Lexes.word word apart)
    have point : Apart (".".toList ++ (text'.toList ++ rest)) := by
      rcases leads_of_isWord word with ⟨leads, _, noDigit⟩
      refine ⟨by decide, fun _ d first => noDigit d ?_⟩
      change d ∈ (text'.toList ++ rest).head? at first
      rwa [head?_append_of_leads leads] at first
    have dot : (⟨.dot, "."⟩ : Lexeme) ∈ standaloneMarks := by decide
    have whole := ((printed.spells point).append (Spells.standalone dot _)).append name
    rwa [List.append_assoc] at whole
  balanced := printed.balanced.append (.cons rfl rfl (.single rfl rfl))
  leads := (printed.leads.append ".").append text'
  noArrow := by
    rw [String.append_assoc, String.toList_append, head?_append_of_leads printed.leads]
    exact printed.noArrow
  starts := printed.starts.append _
  mayEnd := MayEnd.append (.append (.single rfl) [⟨.dot, "."⟩]) lexemes

/-- A minus sign before an operand. -/
theorem negated (printed : Printed text lexemes) :
    Printed ("-" ++ text) (⟨.minus, "-"⟩ :: lexemes) where
  spells {rest} apart := by
    have noArrow : (text.toList ++ rest).head? ≠ some '>' := by
      rw [head?_append_of_leads printed.leads]
      exact printed.noArrow
    exact (Spells.minus noArrow).append (printed.spells apart)
  balanced := printed.balanced.cons rfl rfl
  leads := ⟨'-', by rw [String.toList_append]; rfl, by decide⟩
  noArrow := by
    rw [String.toList_append]
    exact fun same => absurd (Option.some.inj same) (by decide)
  starts := .cons rfl _
  mayEnd := printed.mayEnd.append [⟨.minus, "-"⟩]

/-- A key before a value. -/
theorem entry (printed : Printed text lexemes) (word : isWord text' = true)
    (isName : wordKind text' = .name) :
    Printed (text' ++ ": " ++ text) (Lexeme.entry text' lexemes) := by
  have colon : Spaced ":" [⟨.colon, ":"⟩] :=
    Spaced.mark (by decide : (⟨.colon, ":"⟩ : Lexeme) ∈ spacedMarks)
  have later := colon.append_printed (by decide) (.cons rfl []) printed
  have whole := prefixed word isName rfl rfl later <| by
    intro rest
    rw [String.append_assoc, String.toList_append, List.append_assoc]
    exact apart_cons (by decide : ':' ∈ delimiters) (by decide)
  rwa [show (":" ++ " " : String) = ": " from rfl, ← String.append_assoc] at whole

/-- Two fragments with a comma between them. -/
theorem followed (first : Printed text lexemes) (second : Printed text' lexemes') :
    Printed (text ++ ("," ++ " ") ++ text') (lexemes ++ Lexeme.comma :: lexemes') where
  spells {rest} apart := by
    have isMark : Lexeme.comma ∈ standaloneMarks := by decide
    have noGap := second.leads.noGap rest
    have blank := (Spells.standalone isMark _).then_blank noGap
    have start : Apart (("," ++ " ").toList ++ (text'.toList ++ rest)) :=
      apart_cons (by decide : ',' ∈ delimiters) (by decide)
    have whole := ((first.spells start).append blank).append (second.spells apart)
    rwa [List.append_assoc] at whole
  balanced := first.balanced.append (.cons rfl rfl second.balanced)
  leads := (first.leads.append _).append text'
  noArrow := by
    rw [String.append_assoc, String.toList_append, head?_append_of_leads first.leads]
    exact first.noArrow
  starts := first.starts.append _
  mayEnd := MayEnd.append (second.mayEnd.append [Lexeme.comma]) lexemes

/-- Fragments with commas between them. -/
theorem listed {first : String} {firstLexemes : List Lexeme} {texts : List String}
    {rows : List (List Lexeme)} (printed : Printed first firstLexemes)
    (others : List.Forall₂ Printed texts rows) :
    Printed (Text.commas (first :: texts)) (Lexeme.listed (firstLexemes :: rows)) := by
  induction others generalizing first firstLexemes with
  | nil => exact printed
  | cons here _ ih => exact printed.followed (ih here)

end Printed

/-- A row of fragments with commas between them, which may be empty. -/
theorem Spelled.listed {texts : List String} {rows : List (List Lexeme)}
    (printed : List.Forall₂ Printed texts rows) :
    Spelled (Text.commas texts) (Lexeme.listed rows) := by
  cases printed with
  | nil => exact Spelled.empty
  | cons first others => exact (Printed.listed first others).toSpelled

end ClauseFlow

import ClauseFlow.Proofs.Number.ReadBack
import ClauseFlow.Text.Literal
import ClauseFlow.Token.Piece

/-!
# Spelled lexemes

A text spells a row of lexemes if cutting it into pieces gives just these, with blanks between some
of them and without faults, whatever the text after it. What follows has to keep apart from the last
lexeme, since a word, a number or an operator goes on as far as it can.
-/

namespace ClauseFlow

/-- A token without its place. -/
structure Lexeme where
  kind : TokenKind
  value : String
  deriving DecidableEq

def Token.lexeme (token : Token) : Lexeme :=
  ⟨token.kind, token.value⟩

namespace Piece

/-- The lexeme of a piece that is one. -/
def lexeme? (piece : Piece) : Option Lexeme :=
  match piece.kind with
  | .lexeme kind value => some ⟨kind, value⟩
  | _ => none

/-- Whether a piece is a run of spaces. -/
def IsSpaces (piece : Piece) : Prop :=
  piece.kind = .gap ∧ ∀ c ∈ piece.text, c = ' '

/-- Whether pieces are spaces and lexemes without faults. -/
def Clean (pieces : List Piece) : Prop :=
  ∀ piece ∈ pieces, piece.faults = [] ∧ (piece.IsSpaces ∨ piece.lexeme?.isSome)

/-- Cutting a text goes on after the characters that belong to a known piece. -/
theorem splitFrom_append (place : Position) (known rest : List Char) :
    splitFrom place known.length (known ++ rest) = splitFrom place 0 rest := by
  induction known with
  | nil => rfl
  | cons c known ih =>
      rw [List.cons_append, List.length_cons, splitFrom]
      exact ih

/-- The piece at the head of a text. -/
theorem splitFrom_cons {place : Position} {c : Char} {further rest : List Char}
    {kind : PieceKind} {faults : List LexicalFault}
    (recognized : recognize place c (further ++ rest) = ⟨kind, further.length, faults⟩) :
    splitFrom place 0 (c :: (further ++ rest)) =
      ⟨kind, c :: further, place, faults⟩ ::
        splitFrom (place.after (c :: further)) 0 rest := by
  rw [splitFrom, recognized]
  simp only [List.take_left]
  rw [splitFrom_append]

end Piece

/-- Whether a text spells lexemes when a certain text follows. -/
def Spells (text : String) (lexemes : List Lexeme) (rest : List Char) : Prop :=
  ∀ place, ∃ pieces, Piece.splitFrom place 0 (text.toList ++ rest) =
      pieces ++ Piece.splitFrom (place.after text.toList) 0 rest ∧
    Piece.Clean pieces ∧ pieces.filterMap Piece.lexeme? = lexemes

/-- Whether a text is a single lexeme when a certain text follows. -/
def Lexes (text : String) (lexeme : Lexeme) (rest : List Char) : Prop :=
  ∀ place, Piece.splitFrom place 0 (text.toList ++ rest) =
    ⟨.lexeme lexeme.kind lexeme.value, text.toList, place, []⟩ ::
      Piece.splitFrom (place.after text.toList) 0 rest

theorem Lexes.of_recognize {text : String} {c : Char} {further rest : List Char} {lexeme : Lexeme}
    (written : text.toList = c :: further)
    (recognized : ∀ place, Piece.recognize place c (further ++ rest) =
      ⟨.lexeme lexeme.kind lexeme.value, further.length, []⟩) : Lexes text lexeme rest := by
  intro place
  rw [written, List.cons_append]
  exact Piece.splitFrom_cons (recognized place)

namespace Spells

theorem append {text text' : String} {lexemes lexemes' : List Lexeme} {rest : List Char}
    (first : Spells text lexemes (text'.toList ++ rest)) (second : Spells text' lexemes' rest) :
    Spells (text ++ text') (lexemes ++ lexemes') rest := by
  intro place
  rcases first place with ⟨pieces, split, clean, found⟩
  rcases second (place.after text.toList) with ⟨pieces', split', clean', found'⟩
  refine ⟨pieces ++ pieces', ?_, List.forall_mem_append.mpr ⟨clean, clean'⟩, ?_⟩
  · have after : place.after (text.toList ++ text'.toList) =
        (place.after text.toList).after text'.toList := List.foldl_append
    rw [String.toList_append, List.append_assoc, split, split', List.append_assoc, after]
  · rw [List.filterMap_append, found, found']

/-- A text that is a single lexeme spells it. -/
theorem of_lexes {text : String} {lexeme : Lexeme} {rest : List Char}
    (lexes : Lexes text lexeme rest) : Spells text [lexeme] rest := by
  intro place
  refine ⟨[⟨.lexeme lexeme.kind lexeme.value, text.toList, place, []⟩], lexes place, ?_, rfl⟩
  exact List.forall_mem_singleton.mpr ⟨rfl, .inr rfl⟩

/-- A blank before something that is no blank. -/
theorem blank {rest : List Char} (noGap : ∀ c ∈ rest.head?, Piece.isGap c = false) :
    Spells " " [] rest := by
  intro place
  have none : rest.takeWhile Piece.isGap = [] := by
    cases rest with
    | nil => rfl
    | cons c more =>
        rw [List.takeWhile_cons_of_neg]
        rw [noGap c rfl]
        exact Bool.false_ne_true
  have recognized : Piece.recognize place ' ' ([] ++ rest) = ⟨.gap, ([] : List Char).length, []⟩ := by
    have gap : Piece.isGap ' ' = true := by decide
    rw [Piece.recognize.eq_def, if_pos gap, Piece.recognizeGap, List.nil_append, none]
    rfl
  refine ⟨[⟨.gap, [' '], place, []⟩], ?_, ?_, rfl⟩
  · exact Piece.splitFrom_cons recognized
  · exact List.forall_mem_singleton.mpr ⟨rfl, .inl ⟨rfl, List.forall_mem_singleton.mpr rfl⟩⟩

end Spells

/-! ## What keeps apart -/

/-- The characters that end a word or a number, beside the end of the text. -/
def delimiters : List Char :=
  [' ', '\n', '(', ')', '[', ']', '{', '}', ',', ':', '.']

/-- Whether a text does not go on with a lexeme that ends before it: it begins with a delimiter, and
not with a point before a digit. -/
def Apart : List Char → Prop
  | [] => True
  | c :: more => c ∈ delimiters ∧ (c = '.' → ∀ d ∈ more.head?, CharClass.isDigit d = false)

theorem apart_cons {c : Char} {more : List Char} (delimits : c ∈ delimiters)
    (noPoint : c ≠ '.') : Apart (c :: more) :=
  ⟨delimits, fun point => absurd point noPoint⟩

theorem isNamePart_of_mem_delimiters : ∀ c ∈ delimiters, CharClass.isNamePart c = false := by
  have each : delimiters.all (fun c => !CharClass.isNamePart c) = true := by decide
  exact fun c member => Bool.eq_false_of_not_eq_true' (List.all_eq_true.mp each c member)

theorem isNumberPart_of_mem_delimiters : ∀ c ∈ delimiters, Piece.isNumberPart c = false := by
  have each : delimiters.all (fun c => !Piece.isNumberPart c) = true := by decide
  exact fun c member => Bool.eq_false_of_not_eq_true' (List.all_eq_true.mp each c member)

/-- What holds of the end of a text and of all delimiters holds of what keeps apart. -/
theorem Apart.head {rest : List Char} (apart : Apart rest) {holds : Char → Prop}
    (each : ∀ c ∈ delimiters, holds c) : ∀ c ∈ rest.head?, holds c := by
  intro c first
  cases rest with
  | nil => cases first
  | cons d more =>
      obtain rfl := Option.some.inj first
      exact each _ apart.1

/-- A run of characters ends where a text keeps apart. -/
theorem takeWhile_append_of_head {test : Char → Bool} {run rest : List Char}
    (inside : ∀ c ∈ run, test c = true) (outside : ∀ c ∈ rest.head?, test c = false) :
    (run ++ rest).takeWhile test = run ∧ (run ++ rest).dropWhile test = rest := by
  rw [List.takeWhile_append_of_pos inside, List.dropWhile_append_of_pos inside]
  cases rest with
  | nil => simp
  | cons c more =>
      have ends : ¬test c = true := by
        rw [outside c rfl]
        exact Bool.false_ne_true
      rw [List.takeWhile_cons_of_neg ends, List.dropWhile_cons_of_neg ends, List.append_nil]
      exact ⟨rfl, rfl⟩

/-! ## Words -/

/-- Whether a text is a word: it begins as a name begins and goes on as a name goes on. -/
def isWord (text : String) : Bool :=
  match text.toList with
  | [] => false
  | c :: further =>
      CharClass.isNameStart c && !CharClass.isDigit c && further.all CharClass.isNamePart

/-- The kind of a word. -/
def wordKind (text : String) : TokenKind :=
  match TokenKind.ofKeyword? text.toList with
  | some keyword => keyword
  | none => if text.toList.head?.any CharClass.isUpper then .typeName else .name

theorem recognizeWord_eq (c : Char) (rest : List Char) :
    Piece.recognizeWord c rest =
      ⟨.lexeme (wordKind (String.ofList (c :: rest.takeWhile CharClass.isNamePart)))
        (String.ofList (c :: rest.takeWhile CharClass.isNamePart)),
        (rest.takeWhile CharClass.isNamePart).length, []⟩ := by
  rw [wordKind, String.toList_ofList]
  rfl

theorem recognize_word {c : Char} (starts : CharClass.isNameStart c = true)
    (noDigit : CharClass.isDigit c = false) (place : Position) (rest : List Char) :
    Piece.recognize place c rest = Piece.recognizeWord c rest := by
  have differs : ∀ other : Char, CharClass.isNameStart other = false → c ≠ other := by
    rintro other none rfl
    rw [starts] at none
    cases none
  have noGap : Piece.isGap c = false := by
    simp [Piece.isGap, differs ' ' (by decide), differs '\t' (by decide),
      differs '\r' (by decide)]
  have noSlash := differs '/' (by decide)
  have noQuote := differs '"' (by decide)
  have noColon := differs ':' (by decide)
  rw [Piece.recognize.eq_def, noGap, if_neg Bool.false_ne_true, if_neg (differs '\n' (by decide))]
  split
  · exact absurd rfl noSlash
  · exact absurd rfl noSlash
  · exact absurd rfl noQuote
  · simp [noColon, noDigit, starts]

/-- A word is a lexeme. -/
theorem Lexes.word {text : String} (word : isWord text = true) {rest : List Char}
    (apart : Apart rest) : Lexes text ⟨wordKind text, text⟩ rest := by
  rw [isWord] at word
  cases written : text.toList with
  | nil => simp [written] at word
  | cons c further =>
      simp only [written, Bool.and_eq_true, Bool.not_eq_true', List.all_eq_true] at word
      rcases word with ⟨⟨starts, noDigit⟩, parts⟩
      apply Lexes.of_recognize written
      intro place
      have ends := takeWhile_append_of_head parts
        (apart.head isNamePart_of_mem_delimiters)
      have same : String.ofList (c :: further) = text := by
        rw [← written, String.ofList_toList]
      rw [recognize_word starts noDigit, recognizeWord_eq, ends.1, same]

/-- Whether a text can be the name of an atom. -/
def isAtomName (text : String) : Bool :=
  match text.toList with
  | [] => false
  | c :: further => CharClass.isNameStart c && further.all CharClass.isNamePart

theorem isNamePart_of_isNameStart {c : Char} (starts : CharClass.isNameStart c = true) :
    CharClass.isNamePart c = true := by
  by_cases ascii : CharClass.isAscii c = true <;>
    simp [CharClass.isNameStart, CharClass.isLetter, CharClass.isNamePart,
      CharClass.isAlphanumeric, Char.isAlphanum, ascii] at starts ⊢ <;> tauto

/-- A colon begins an atom, or else is a mark. -/
theorem recognize_colon (place : Position) (rest : List Char) :
    Piece.recognize place ':' rest =
      if Piece.beginsAtom rest then Piece.recognizeAtom rest
      else Piece.recognizeMark place ':' rest := by
  cases rest <;> rfl

/-- An atom spells its lexeme. -/
theorem Spells.atom {text : String} (name : isAtomName text = true) {rest : List Char}
    (apart : Apart rest) : Spells (":" ++ text) [⟨.atom, text⟩] rest := by
  rw [isAtomName] at name
  cases written : text.toList with
  | nil => simp [written] at name
  | cons c further =>
      simp only [written, Bool.and_eq_true, List.all_eq_true] at name
      rcases name with ⟨starts, parts⟩
      have inside : ∀ d ∈ c :: further, CharClass.isNamePart d = true := by
        exact List.forall_mem_cons.mpr ⟨isNamePart_of_isNameStart starts, parts⟩
      have ends := takeWhile_append_of_head inside
        (apart.head isNamePart_of_mem_delimiters)
      have colon : (":" ++ text).toList = ':' :: (c :: further) := by
        rw [String.toList_append, written]
        rfl
      apply Spells.of_lexes
      apply Lexes.of_recognize colon
      intro place
      have begins : Piece.beginsAtom (c :: further ++ rest) = true := starts
      rw [recognize_colon, if_pos begins, Piece.recognizeAtom, ends.1, ← written,
        String.ofList_toList]

/-! ## Numbers -/

theorem recognize_number {c : Char} (digit : c.isDigit = true) (place : Position)
    (rest : List Char) : Piece.recognize place c rest = Piece.recognizeNumber place c rest := by
  have differs : ∀ other : Char, other.isDigit = false → c ≠ other :=
    fun other => Numeral.isDigit_ne digit
  have noGap : Piece.isGap c = false := by
    simp [Piece.isGap, differs ' ' (by decide), differs '\t' (by decide),
      differs '\r' (by decide)]
  have isDigit : CharClass.isDigit c = true := by
    rw [CharClass.isDigit, if_pos (Numeral.isAscii_of_isDigit digit), digit]
  rw [Piece.recognize.eq_def, noGap, if_neg Bool.false_ne_true, if_neg (differs '\n' (by decide))]
  split
  · exact absurd rfl (differs '/' (by decide))
  · exact absurd rfl (differs '/' (by decide))
  · exact absurd rfl (differs '"' (by decide))
  · simp [differs ':' (by decide), isDigit]

theorem isNumberPart_of_isDigit {c : Char} (digit : c.isDigit = true) :
    Piece.isNumberPart c = true := by
  rw [Piece.isNumberPart, CharClass.isDigit, if_pos (Numeral.isAscii_of_isDigit digit), digit]
  rfl

theorem marksDigit?_of_isDigit {c : Char} (digit : c.isDigit = true) :
    Piece.marksDigit? c = none := by
  have differs : ∀ other : Char, other.isDigit = false → c ≠ other :=
    fun other => Numeral.isDigit_ne digit
  simp [Piece.marksDigit?, differs 'x' (by decide), differs 'X' (by decide),
    differs 'b' (by decide), differs 'B' (by decide), differs 'o' (by decide),
    differs 'O' (by decide)]

/-- A number is in decimal unless the mark of another base follows its first digit. -/
theorem recognizeNumber_of_unmarked {c : Char} {rest : List Char} (place : Position)
    (unmarked : ∀ mark ∈ rest.head?, Piece.marksDigit? mark = none) :
    Piece.recognizeNumber place c rest = Piece.recognizeDecimal c rest := by
  cases rest with
  | nil => rfl
  | cons mark more => simp [Piece.recognizeNumber, unmarked mark rfl]

/-- Digits spell an integer. -/
theorem Spells.integer (n : Nat) {rest : List Char} (apart : Apart rest) :
    Spells (Numeral.natText n) [⟨.integer, Numeral.natText n⟩] rest := by
  have digits := Numeral.allDigits_toDigits n
  cases written : Nat.toDigits 10 n with
  | nil => exact absurd written Nat.toDigits_ne_nil
  | cons c whole =>
      rw [written] at digits
      rcases List.forall_mem_cons.mp digits with ⟨first, others⟩
      have text : (Numeral.natText n).toList = c :: whole := by
        rw [Numeral.natText, String.toList_ofList, written]
      have same : String.ofList (c :: whole) = Numeral.natText n := by
        rw [Numeral.natText, written]
      apply Spells.of_lexes
      apply Lexes.of_recognize text
      intro place
      have unmarked : ∀ mark ∈ (whole ++ rest).head?, Piece.marksDigit? mark = none := by
        intro mark next
        cases whole with
        | nil =>
            have noMark : delimiters.all (fun d => (Piece.marksDigit? d).isNone) = true := by decide
            have none := apart.head (List.all_eq_true.mp noMark) mark next
            exact Option.isNone_iff_eq_none.mp none
        | cons d whole =>
            obtain rfl := Option.some.inj next
            exact marksDigit?_of_isDigit (others _ (.head _))
      have ends := takeWhile_append_of_head
        (fun d member => isNumberPart_of_isDigit (others d member))
        (apart.head isNumberPart_of_mem_delimiters)
      rw [recognize_number first, recognizeNumber_of_unmarked place unmarked,
        Piece.recognizeDecimal, ends.1, ends.2, same]
      split
      · rename_i d more
        have noDigit : CharClass.isDigit d = false := apart.2 rfl d rfl
        simp only [noDigit, Bool.false_eq_true, if_false]
      · rfl

/-- Digits around a point spell a decimal number. -/
theorem Spells.decimal {text : String} {x : Binary64}
    (pointed : Binary64.Pointed text.toList x) {rest : List Char} (apart : Apart rest) :
    Spells text [⟨.decimal, text⟩] rest := by
  rcases pointed with
    ⟨whole, fraction, written, wholeSome, fractionSome, wholeDigits, fractionDigits, _⟩
  cases whole with
  | nil => exact absurd rfl wholeSome
  | cons c whole =>
      cases fraction with
      | nil => exact absurd rfl fractionSome
      | cons d fraction =>
          rcases List.forall_mem_cons.mp wholeDigits with ⟨first, others⟩
          have digit : d.isDigit = true := fractionDigits d (.head _)
          have isDigit : CharClass.isDigit d = true := by
            rw [CharClass.isDigit, if_pos (Numeral.isAscii_of_isDigit digit), digit]
          have same : String.ofList (c :: whole ++ '.' :: d :: fraction) = text := by
            rw [← written, String.ofList_toList]
          rw [List.cons_append] at written
          apply Spells.of_lexes
          apply Lexes.of_recognize written
          intro place
          have unmarked : ∀ mark ∈ (whole ++ '.' :: d :: fraction ++ rest).head?,
              Piece.marksDigit? mark = none := by
            intro mark next
            cases whole with
            | nil =>
                obtain rfl := Option.some.inj next
                rfl
            | cons e whole =>
                obtain rfl := Option.some.inj next
                exact marksDigit?_of_isDigit (others _ (.head _))
          have point : ∀ e ∈ ('.' :: (d :: fraction ++ rest)).head?,
              Piece.isNumberPart e = false := by
            intro e next
            obtain rfl := Option.some.inj next
            decide
          have wholeEnds := takeWhile_append_of_head
            (fun e member => isNumberPart_of_isDigit (others e member)) point
          have ends := takeWhile_append_of_head
            (fun e member => isNumberPart_of_isDigit (fractionDigits e member))
            (apart.head isNumberPart_of_mem_delimiters)
          have split : whole ++ '.' :: d :: fraction ++ rest =
              whole ++ '.' :: (d :: fraction ++ rest) := by simp
          rw [recognize_number first, recognizeNumber_of_unmarked place unmarked,
            Piece.recognizeDecimal, split, wholeEnds.1, wholeEnds.2, List.cons_append]
          rw [List.cons_append] at ends
          simp only [isDigit, if_true, ends.1, same, List.length_append, List.length_cons]
          congr 1
          omega

/-! ## Texts -/

theorem textBody_plain {c : Char} (noQuote : c ≠ '"') (noFeed : c ≠ '\n') (noEscape : c ≠ '\\')
    (place : Position) (rest : List Char) :
    Piece.textBody place (c :: rest) =
      { Piece.textBody (place.next c) rest with
        said := c :: (Piece.textBody (place.next c) rest).said
        size := (Piece.textBody (place.next c) rest).size + 1 } := by
  rw [Piece.textBody.eq_def]
  split <;> simp_all

/-- What a text literal says is read back, whatever follows its closing quote. -/
theorem textBody_literal (said : List Char) (rest : List Char) (place : Position) :
    Piece.textBody place (said.flatMap Text.literalChar ++ '"' :: rest) =
      ⟨said, (said.flatMap Text.literalChar).length + 1, [], true⟩ := by
  induction said generalizing place with
  | nil => rfl
  | cons c said ih =>
      rw [List.flatMap_cons, List.append_assoc, List.length_append, Text.literalChar]
      split_ifs with slash quote feed tab
      -- The escapes, and then a character that stands for itself.
      iterate 4
        subst c
        rw [List.cons_append, List.cons_append, List.nil_append, Piece.textBody]
        simp only [Piece.escaped?, ih, List.length_cons, List.length_nil]
        congr 1
        omega
      rw [List.singleton_append, textBody_plain quote feed slash, ih, List.length_singleton,
        Nat.add_comm 1]

/-- A text literal spells the text, whatever follows. -/
theorem Spells.text (said : String) (rest : List Char) :
    Spells (Text.literal said) [⟨.text, said⟩] rest := by
  have written : (Text.literal said).toList =
      '"' :: (said.toList.flatMap Text.literalChar ++ ['"']) := by
    rw [Text.literal, String.toList_ofList, List.cons_append]
  apply Spells.of_lexes
  apply Lexes.of_recognize written
  intro place
  have quoted (content : List Char) :
      Piece.recognize place '"' content = Piece.recognizeText place content := by
    rw [Piece.recognize.eq_def]
    rfl
  rw [quoted, Piece.recognizeText, List.append_assoc, List.singleton_append, textBody_literal,
    String.ofList_toList, List.length_append]
  rfl

/-! ## Marks -/

/-- The marks that no following character changes. -/
def standaloneMarks : List Lexeme :=
  [⟨.leftParen, "("⟩, ⟨.rightParen, ")"⟩, ⟨.leftBracket, "["⟩, ⟨.rightBracket, "]"⟩,
    ⟨.leftBrace, "\x7b"⟩, ⟨.rightBrace, "\x7d"⟩, ⟨.mapOpen, "%\x7b"⟩, ⟨.comma, ","⟩, ⟨.dot, "."⟩]

theorem Spells.standalone {lexeme : Lexeme} (isMark : lexeme ∈ standaloneMarks)
    (rest : List Char) : Spells lexeme.value [lexeme] rest := by
  simp only [standaloneMarks, List.mem_cons, List.not_mem_nil, or_false] at isMark
  rcases isMark with rfl | rfl | rfl | rfl | rfl | rfl | rfl | rfl | rfl
  all_goals exact of_lexes (.of_recognize rfl fun _ => by cases rest <;> rfl)

/-- A minus sign, before anything that does not make it an arrow. -/
theorem Spells.minus {rest : List Char} (noArrow : rest.head? ≠ some '>') :
    Spells "-" [⟨.minus, "-"⟩] rest := by
  have written : "-".toList = '-' :: [] := rfl
  apply Spells.of_lexes
  apply Lexes.of_recognize written
  intro place
  cases rest with
  | nil => rfl
  | cons c more =>
      have none : Piece.twoCharKind? '-' c = none := by
        rw [Piece.twoCharKind?.eq_def]
        split
        all_goals simp_all
      have mark : Piece.recognize place '-' ([] ++ c :: more) =
          Piece.recognizeMark place '-' (c :: more) := rfl
      rw [mark, Piece.recognizeMark.eq_def]
      simp [none, Piece.recognizeSingle, Piece.oneCharKind?]

/-- The operators and marks that are written before a blank. -/
def spacedMarks : List Lexeme :=
  [⟨.plus, "+"⟩, ⟨.minus, "-"⟩, ⟨.star, "*"⟩, ⟨.slash, "/"⟩, ⟨.percent, "%"⟩, ⟨.concat, "<>"⟩,
    ⟨.equal, "=="⟩, ⟨.notEqual, "!="⟩, ⟨.less, "<"⟩, ⟨.greater, ">"⟩, ⟨.lessEqual, "<="⟩,
    ⟨.greaterEqual, ">="⟩, ⟨.pipeArrow, "|>"⟩, ⟨.altArrow, "<|>"⟩, ⟨.arrow, "->"⟩, ⟨.assign, "="⟩,
    ⟨.colon, ":"⟩, ⟨.bar, "|"⟩, ⟨.andKeyword, "and"⟩, ⟨.orKeyword, "or"⟩]

theorem Spells.spaced {lexeme : Lexeme} (isMark : lexeme ∈ spacedMarks) (rest : List Char) :
    Spells lexeme.value [lexeme] (' ' :: rest) := by
  simp only [spacedMarks, List.mem_cons, List.not_mem_nil, or_false] at isMark
  rcases isMark with rfl | rfl | rfl | rfl | rfl | rfl | rfl | rfl | rfl | rfl | rfl | rfl | rfl |
    rfl | rfl | rfl | rfl | rfl | rfl | rfl
  all_goals exact of_lexes (.of_recognize rfl fun _ => rfl)

end ClauseFlow

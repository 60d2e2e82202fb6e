import ClauseFlow.Proofs.Text.LineFeeds
import ClauseFlow.Proofs.Token.Lines
import ClauseFlow.Proofs.Token.Segments

/-!
# Carriage returns in lines

In a text of spaces and lexemes, a carriage return can only stand in a text literal. Where the text
is read with a line feed in its place, the literal is not closed on its line.
-/

namespace ClauseFlow

namespace Piece

/-! ## Where carriage returns can be -/

/-- A lexeme with a carriage return in it is a text literal. -/
theorem Scans.exists_quotes {kind : TokenKind} {value : String} {text rest : List Char}
    (scans : Scans (.lexeme kind value) text rest) (returns : '\r' ∈ text) :
    ∃ body said, text = '"' :: (body ++ ['"']) ∧ Quotes body said := by
  have notDigit {c : Char} (digit : CharClass.isDigit c = true) : '\r' ≠ c := by
    rintro rfl
    cases digit
  cases scans with
  | text quotes => exact ⟨_, _, rfl, quotes⟩
  | docComment _ inLine _ =>
      have none := notMem_of_all inLine (by decide : isRemarkPart '\r' = false)
      simp [none] at returns
  | spacedDocComment inLine _ =>
      have none := notMem_of_all inLine (by decide : isRemarkPart '\r' = false)
      simp [none] at returns
  | atom name _ =>
      have none := notMem_of_all (of_isAtomName name).2
        (by decide : CharClass.isNamePart '\r' = false)
      simp [none] at returns
  | word isWord _ =>
      exact absurd returns (notMem_of_all (isNamePart_of_isWord isWord) (by decide))
  | @marked mark digits _ isPart isMark _ parts _ =>
      have apart : '\r' ≠ mark ∧ isPart '\r' = false := by
        rw [marksDigit?] at isMark
        constructor
        · rintro rfl
          cases isMark
        · split_ifs at isMark
          all_goals
            rw [← Option.some.inj isMark]
            rfl
      simp [apart.1, notMem_of_all parts apart.2] at returns
  | integer digit parts _ _ _ =>
      have none := notMem_of_all parts (by decide : isNumberPart '\r' = false)
      simp [notDigit digit, none] at returns
  | decimal digit parts _ digit' parts' _ =>
      have whole := notMem_of_all parts (by decide : isNumberPart '\r' = false)
      have fraction := notMem_of_all parts' (by decide : isNumberPart '\r' = false)
      simp [notDigit digit, notDigit digit', whole, fraction] at returns
  | altArrow => exact absurd returns (by decide)
  | twoMarks isMark =>
      rw [twoCharKind?.eq_def] at isMark
      split at isMark
      all_goals
        try cases isMark
      all_goals exact absurd returns (by decide)
  | oneMark isMark _ _ _ _ =>
      rw [oneCharKind?.eq_def] at isMark
      split at isMark
      all_goals
        try cases isMark
      all_goals exact absurd returns (by decide)

/-! ## Text literals that are cut off -/

/-- A text literal is not closed if a line feed stands in the place of a carriage return. -/
theorem textBody_of_return {body said before after : List Char} (quotes : Quotes body said)
    (cut : body = before ++ '\r' :: after) (place : Position) (rest : List Char) :
    (textBody place (before ++ '\n' :: rest)).closed = false := by
  induction quotes generalizing before place with
  | nil => cases before <;> cases cut
  | @plain c body _ noQuote noFeed noEscape _ ih =>
      cases before with
      | nil => rfl
      | cons d before =>
          rcases List.cons.inj cut with ⟨rfl, cut'⟩
          rw [List.cons_append, textBody_plain noQuote noFeed noEscape]
          exact ih cut' _
  | @escape c meant body _ escaped _ ih =>
      match before with
      | [] => exact absurd (List.cons.inj cut).1 (by decide)
      | [_] =>
          rw [(List.cons.inj (List.cons.inj cut).2).1] at escaped
          cases escaped
      | d :: e :: before =>
          obtain rfl : '\\' = d := (List.cons.inj cut).1
          rcases List.cons.inj (List.cons.inj cut).2 with ⟨rfl, cut'⟩
          rw [List.cons_append, List.cons_append, textBody.eq_def]
          simp only [escaped]
          exact ih cut' _

/-- A text literal with a line feed in the place of a carriage return is a fault. -/
theorem exists_fault_of_return {body said before after : List Char} (quotes : Quotes body said)
    (cut : body = before ++ '\r' :: after) (place : Position) (rest : List Char) :
    ∃ piece ∈ splitFrom place 0 ('"' :: (before ++ '\n' :: rest)), piece.faults ≠ [] := by
  have isText : recognize place '"' (before ++ '\n' :: rest) =
      recognizeText place (before ++ '\n' :: rest) := by
    rw [recognize.eq_def]
    rfl
  have unclosed := textBody_of_return quotes cut (place.next '"') rest
  refine ⟨_, .head _, ?_⟩
  simp only [isText, recognizeText, unclosed]
  exact List.append_ne_nil_of_right_ne_nil _ (List.cons_ne_nil _ _)

end Piece

namespace Segment

/-- The first carriage return in segments. -/
theorem exists_first_return {segments : List Segment} (returns : '\r' ∈ textOf segments) :
    ∃ front segment back, segments = front ++ segment :: back ∧ '\r' ∉ textOf front ∧
      '\r' ∈ segment.text := by
  induction segments with
  | nil => cases returns
  | cons segment segments ih =>
      by_cases here : '\r' ∈ segment.text
      · exact ⟨[], segment, segments, rfl, List.not_mem_nil, here⟩
      · rw [textOf_cons, List.mem_append, or_iff_right here] at returns
        rcases ih returns with ⟨front, first, back, rfl, none, there⟩
        refine ⟨segment :: front, first, back, rfl, ?_, there⟩
        rw [textOf_cons, List.mem_append]
        exact not_or.mpr ⟨here, none⟩

end Segment

/-! ## Lines without comments -/

/-- Whether a line is cut into spaces and lexemes. -/
def Uncommented (text : String) : Prop :=
  ∀ place rest, ∃ pieces, Piece.splitFrom place 0 (text.toList ++ '\n' :: rest) =
      pieces ++ Piece.splitFrom (place.after text.toList) 0 ('\n' :: rest) ∧ Piece.Clean pieces

theorem uncommented_empty : Uncommented "" :=
  fun _ _ => ⟨[], rfl, List.forall_mem_nil _⟩

theorem Code.uncommented {text : String} {row : List Lexeme} (code : Code text row) :
    Uncommented text := by
  intro place rest
  rcases code.cut place (apart_cons (by decide : '\n' ∈ delimiters) (by decide)) with
    ⟨first, pieces, cut, _, clean, _⟩
  exact ⟨first :: pieces, cut, clean⟩

/-- A line that is a single lexeme. -/
theorem uncommented_of_lexes {text : String} {lexeme : Lexeme}
    (lexes : ∀ rest, Lexes text lexeme ('\n' :: rest)) : Uncommented text :=
  fun place rest => ⟨[⟨.lexeme lexeme.kind lexeme.value, text.toList, place, []⟩],
    lexes rest place, List.forall_mem_singleton.mpr ⟨rfl, .inr rfl⟩⟩

theorem pieces_of_uncommented {texts : List String} (each : ∀ text ∈ texts, Uncommented text)
    (place : Position) :
    ∀ piece ∈ Piece.splitFrom place 0 (Text.ofLines texts), piece.faults = [] ∧
      (piece.kind = .lineFeed ∨ piece.IsSpaces ∨ piece.lexeme?.isSome) := by
  induction texts generalizing place with
  | nil => exact List.forall_mem_nil _
  | cons text texts ih =>
      rcases List.forall_mem_cons.mp each with ⟨here, others⟩
      rcases here place (Text.ofLines texts) with ⟨pieces, cut, clean⟩
      rw [Text.ofLines, List.flatMap_cons, List.append_assoc, List.singleton_append,
        ← Text.ofLines, cut, splitFrom_lineFeed]
      refine List.forall_mem_append.mpr ⟨fun piece member => ?_, ?_⟩
      · exact ⟨(clean piece member).1, .inr (clean piece member).2⟩
      · exact List.forall_mem_cons.mpr ⟨⟨rfl, .inl rfl⟩, ih others _⟩

namespace Segment

/-- A segment with a carriage return is a text literal if it is neither a comment nor a gap of other
blanks than spaces. -/
theorem exists_quotes {segment : Segment} {rest : List Char}
    (scans : Piece.Scans segment.kind segment.text rest) {place : Position}
    (plain : segment.kind = .lineFeed ∨ (segment.pieceAt place).IsSpaces ∨
      (segment.pieceAt place).lexeme?.isSome)
    (returns : '\r' ∈ segment.text) :
    ∃ body said, segment.text = '"' :: (body ++ ['"']) ∧ Quotes body said := by
  obtain ⟨kind, text⟩ := segment
  rcases plain with isFeed | spaces | isLexeme
  · rw [scans.eq_feed isFeed] at returns
    exact absurd returns (by decide)
  · exact absurd (spaces.2 _ returns) (by decide)
  · cases kind with
    | lexeme => exact scans.exists_quotes returns
    | _ => cases isLexeme

end Segment

namespace TokenStream

variable {text : String} {texts : List String}

/-- Lines with a carriage return have faults when they are read. -/
theorem exists_fault_of_return (written : text.toList = Text.ofLines texts)
    (each : ∀ line ∈ texts, Uncommented line) (returns : '\r' ∈ text.toList) :
    ∃ piece ∈ Piece.split (Text.asRead text).toList, piece.faults ≠ [] := by
  have plain := pieces_of_uncommented each .first
  rw [← written] at plain
  rcases Segment.exists_areCut fun piece member => (plain piece member).1 with
    ⟨segments, whole, areCut⟩
  rw [whole] at returns
  rcases Segment.exists_first_return returns with ⟨front, segment, back, rfl, none, here⟩
  rw [whole, Segment.splitFrom_textOf areCut, Segment.pieces_append] at plain
  rcases Segment.areCut_append.mp areCut with ⟨cutFront, scans, _⟩
  rcases Segment.exists_quotes scans (plain _ (List.mem_append_right _ (.head _))).2 here with
    ⟨body, said, quoted, quotes⟩
  have inBody : '\r' ∈ body := by simpa [quoted] using here
  rcases List.eq_append_cons_of_mem inBody with ⟨before, after, cut, noneBefore⟩
  -- What is read is the same up to the carriage return.
  have noneBefore' : '\r' ∉ Segment.textOf front ++ '"' :: before := by
    simp [none, noneBefore]
  rcases Text.unifyLineFeeds_return (after ++ ['"'] ++ Segment.textOf back) with ⟨rest, feed⟩
  have read : (Text.asRead text).toList =
      Segment.textOf front ++ ('"' :: before ++ '\n' :: rest) := by
    have split : text.toList = (Segment.textOf front ++ '"' :: before) ++
        '\r' :: (after ++ ['"'] ++ Segment.textOf back) := by
      rw [whole, Segment.textOf_append, Segment.textOf_cons, quoted, cut]
      simp
    rw [Text.asRead, String.toList_ofList, split, Text.unifyLineFeeds_append noneBefore', feed,
      List.append_assoc]
  have cutFront' : Segment.AreCut front ('"' :: before ++ '\n' :: rest) := by
    have known : Segment.textOf (segment :: back) ++ [] =
        '"' :: before ++ ('\r' :: (after ++ ['"'] ++ Segment.textOf back)) := by
      rw [Segment.textOf_cons, quoted, cut]
      simp
    rw [known] at cutFront
    exact cutFront.cut_feed rest
  rcases Piece.exists_fault_of_return quotes cut (Position.first.after (Segment.textOf front)) rest
    with ⟨piece, member, fault⟩
  refine ⟨piece, ?_, fault⟩
  rw [Piece.split, read, Segment.splitFrom_textOf_append cutFront']
  exact List.mem_append_right _ member

/-- Lines with a carriage return are not read as tokens. -/
theorem read_asRead_ne_ok (written : text.toList = Text.ofLines texts)
    (each : ∀ line ∈ texts, Uncommented line) (returns : '\r' ∈ text.toList) (file : String)
    (stream : TokenStream) : ofText file (Text.asRead text) ≠ .ok stream := by
  rcases exists_fault_of_return written each returns with ⟨piece, member, fault⟩
  intro streamed
  simp only [ofText] at streamed
  split at streamed
  · rename_i clean
    rcases List.append_eq_nil_iff.mp clean with ⟨clean, _⟩
    exact fault (List.flatMap_eq_nil_iff.mp clean piece member)
  · cases streamed

end TokenStream
end ClauseFlow

import ClauseFlow.Proofs.Text.Positions
import ClauseFlow.Proofs.Token.Breaks
import ClauseFlow.Proofs.Token.Ends

/-!
# Texts and their segments

A text without faults is a row of segments: gaps of blanks, line feeds, comments and lexemes, each
in the grammar where it stands. Its tokens are the lexemes in their order and at their places, with
marks between declarations and at the end that are not written anywhere.
-/

namespace ClauseFlow

/-- Whether a token of a kind is written in the text, as a lexeme. -/
def TokenKind.isWritten (kind : TokenKind) : Bool :=
  kind ≠ .newline && kind ≠ .endOfText

namespace Piece

theorem isWritten_of_isWord (word : List Char) :
    (wordKind (String.ofList word)).isWritten = true := by
  rw [wordKind]
  split
  · rename_i keyword found
    rw [TokenKind.ofKeyword?.eq_def] at found
    split at found
    all_goals
      cases found
      try rfl
  · split
    all_goals rfl

theorem Scans.isWritten {kind : TokenKind} {value : String} {text rest : List Char}
    (scans : Scans (.lexeme kind value) text rest) : kind.isWritten = true := by
  cases scans with
  | word => exact isWritten_of_isWord _
  | twoMarks isMark =>
      rw [twoCharKind?.eq_def] at isMark
      split at isMark
      all_goals
        cases isMark
        try rfl
  | oneMark isMark =>
      rw [oneCharKind?.eq_def] at isMark
      split at isMark
      all_goals
        cases isMark
        try rfl
  | _ => rfl

theorem Scans.eq_feed {kind : PieceKind} {text rest : List Char} (scans : Scans kind text rest)
    (isFeed : kind = .lineFeed) : text = ['\n'] := by
  subst isFeed
  cases scans
  rfl

theorem Scans.ne_nil {kind : PieceKind} {text rest : List Char} (scans : Scans kind text rest) :
    text ≠ [] := by
  rcases scans.exists_recognize .first with ⟨c, further, rfl, _⟩
  exact List.cons_ne_nil c further

end Piece

/-- A part of a text: what it is and its characters. -/
structure Segment where
  kind : PieceKind
  text : List Char

namespace Segment

/-- The text that segments make up. -/
def textOf (segments : List Segment) : List Char :=
  segments.flatMap (·.text)

@[simp]
theorem textOf_nil : textOf [] = [] :=
  rfl

@[simp]
theorem textOf_cons (segment : Segment) (segments : List Segment) :
    textOf (segment :: segments) = segment.text ++ textOf segments :=
  rfl

@[simp]
theorem textOf_append (segments segments' : List Segment) :
    textOf (segments ++ segments') = textOf segments ++ textOf segments' :=
  List.flatMap_append

/-- Whether segments are pieces of the grammar when a certain text follows. -/
def AreCut : List Segment → (rest : List Char) → Prop
  | [], _ => True
  | segment :: segments, rest =>
      Piece.Scans segment.kind segment.text (textOf segments ++ rest) ∧ AreCut segments rest

theorem areCut_append {segments segments' : List Segment} {rest : List Char} :
    AreCut (segments ++ segments') rest ↔
      AreCut segments (textOf segments' ++ rest) ∧ AreCut segments' rest := by
  induction segments with
  | nil => exact (iff_of_eq (true_and _)).symm
  | cons segment segments ih =>
      rw [List.cons_append, AreCut, AreCut, ih, textOf_append, List.append_assoc, and_assoc]

theorem eq_nil_of_textOf {segments : List Segment} {rest : List Char}
    (areCut : AreCut segments rest) (none : textOf segments = []) : segments = [] := by
  cases segments with
  | nil => rfl
  | cons segment segments => exact absurd (List.append_eq_nil_iff.mp none).1 areCut.1.ne_nil

/-- The text behind segments may be cut by a blank or a line feed where the last of them may end. -/
theorem AreCut.cut {segments : List Segment} {known rest : List Char}
    (areCut : AreCut segments (known ++ rest)) {mark : Char} (isBreak : mark ∈ [' ', '\n'])
    (ends : known = [] → ∀ last ∈ segments.getLast?, Piece.endsBefore last.kind mark = true)
    (rest' : List Char) : AreCut segments (known ++ mark :: rest') := by
  induction segments with
  | nil => trivial
  | cons segment segments ih =>
      rcases areCut with ⟨scans, others⟩
      constructor
      · rw [← List.append_assoc] at scans ⊢
        apply scans.cut isBreak
        intro none
        rcases List.append_eq_nil_iff.mp none with ⟨noSegment, noChar⟩
        apply ends noChar
        rw [eq_nil_of_textOf others noSegment]
        rfl
      · apply ih others
        intro none last final
        apply ends none
        cases segments with
        | nil => cases final
        | cons => rwa [List.getLast?_cons_cons]

/-- The place behind what a text begins with says how many segments it is. -/
theorem eq_textOf_of_behind {segments rest : List Segment} {before after : List Char}
    (cut : textOf (segments ++ rest) = before ++ after)
    (same : Position.behind before = .behind (textOf segments)) :
    before = textOf segments ∧ after = textOf rest := by
  rw [textOf_append] at cut
  have inside : textOf segments <+: before ++ after := by
    rw [← cut]
    exact List.prefix_append _ _
  have begins := Position.eq_of_behind_eq (List.prefix_append _ _) inside same
  rw [begins] at cut
  exact ⟨begins, (List.append_cancel_left cut).symm⟩

/-- Every segment may end at a line feed. -/
theorem AreCut.cut_feed {segments : List Segment} {known rest : List Char}
    (areCut : AreCut segments (known ++ rest)) (rest' : List Char) :
    AreCut segments (known ++ '\n' :: rest') := by
  apply areCut.cut (by decide)
  intro _ last final
  rcases List.getLast?_eq_some_iff.mp final with ⟨front, rfl⟩
  exact (areCut_append.mp areCut).2.1.endsBefore_feed

/-- Characters without a line feed that a text begins with come before its line feeds. -/
theorem exists_append_of_noFeed {text rest before after : List Char} (noFeed : '\n' ∉ text)
    (whole : text ++ rest = before ++ '\n' :: after) :
    ∃ more, before = text ++ more ∧ rest = more ++ '\n' :: after := by
  induction text generalizing before with
  | nil => exact ⟨before, rfl, whole⟩
  | cons c text ih =>
      rcases List.ne_and_not_mem_of_not_mem_cons noFeed with ⟨here, others⟩
      cases before with
      | nil => exact absurd (List.cons.inj whole).1.symm here
      | cons d before =>
          rcases List.cons.inj whole with ⟨rfl, cut⟩
          rcases ih others cut with ⟨more, rfl, cut'⟩
          exact ⟨more, rfl, cut'⟩

def feed : Segment :=
  ⟨.lineFeed, ['\n']⟩

/-- A line feed in a text is a segment of its own. -/
theorem exists_feed {segments : List Segment} {rest before after : List Char}
    (areCut : AreCut segments rest) (whole : textOf segments = before ++ '\n' :: after) :
    ∃ front back, segments = front ++ feed :: back ∧ textOf front = before ∧
      textOf back = after := by
  induction segments generalizing before with
  | nil => cases before <;> cases whole
  | cons segment segments ih =>
      rcases areCut with ⟨scans, others⟩
      rw [textOf_cons] at whole
      by_cases isFeed : segment.kind = .lineFeed
      · obtain ⟨kind, text⟩ := segment
        obtain rfl : kind = .lineFeed := isFeed
        obtain rfl : text = ['\n'] := scans.eq_feed rfl
        cases before with
        | nil => exact ⟨[], segments, rfl, rfl, (List.cons.inj whole).2⟩
        | cons c before =>
            rcases List.cons.inj whole with ⟨rfl, cut⟩
            rcases ih others cut with ⟨front, back, rfl, rfl, rfl⟩
            exact ⟨_ :: front, back, rfl, rfl, rfl⟩
      · have noFeed := scans.noFeed isFeed
        rcases exists_append_of_noFeed noFeed whole with ⟨more, rfl, cut⟩
        rcases ih others cut with ⟨front, back, rfl, rfl, rfl⟩
        exact ⟨segment :: front, back, rfl, rfl, rfl⟩

/-- The piece that a segment is at a place. -/
def pieceAt (segment : Segment) (place : Position) : Piece :=
  ⟨segment.kind, segment.text, place, []⟩

/-- The pieces that segments are, from a place on. -/
def pieces (place : Position) : List Segment → List Piece
  | [] => []
  | segment :: segments => segment.pieceAt place :: pieces (place.after segment.text) segments

theorem pieces_cons (place : Position) (segment : Segment) (segments : List Segment) :
    pieces place (segment :: segments) =
      segment.pieceAt place :: pieces (place.after segment.text) segments :=
  rfl

theorem pieces_append (place : Position) (segments segments' : List Segment) :
    pieces place (segments ++ segments') =
      pieces place segments ++ pieces (place.after (textOf segments)) segments' := by
  induction segments generalizing place with
  | nil => rfl
  | cons segment segments ih =>
      rw [List.cons_append, pieces, ih, textOf_cons, Position.after_append]
      rfl

theorem faults_pieces (place : Position) (segments : List Segment) :
    ∀ piece ∈ pieces place segments, piece.faults = [] := by
  induction segments generalizing place with
  | nil => exact List.forall_mem_nil _
  | cons segment segments ih => exact List.forall_mem_cons.mpr ⟨rfl, ih _⟩

/-- Segments are the pieces that a text is cut into before the rest is. -/
theorem splitFrom_textOf_append {segments : List Segment} {rest : List Char}
    (areCut : AreCut segments rest) (place : Position) :
    Piece.splitFrom place 0 (textOf segments ++ rest) =
      pieces place segments ++ Piece.splitFrom (place.after (textOf segments)) 0 rest := by
  induction segments generalizing place with
  | nil => rfl
  | cons segment segments ih =>
      rcases areCut with ⟨scans, others⟩
      rcases scans.exists_recognize place with ⟨c, further, text, recognized⟩
      rw [textOf_cons, text, List.append_assoc, List.cons_append,
        Piece.splitFrom_cons recognized, ih others, pieces, pieceAt, text, Position.after_append]
      rfl

theorem splitFrom_textOf {segments : List Segment} (areCut : AreCut segments [])
    (place : Position) : Piece.splitFrom place 0 (textOf segments) = pieces place segments := by
  have whole := splitFrom_textOf_append areCut place
  rwa [List.append_nil, Piece.splitFrom, List.append_nil] at whole

/-- A text without faults is cut into segments. -/
theorem exists_areCut {place : Position} {text : List Char}
    (clean : ∀ piece ∈ Piece.splitFrom place 0 text, piece.faults = []) :
    ∃ segments, text = textOf segments ∧ AreCut segments [] := by
  match text with
  | [] => exact ⟨[], rfl, trivial⟩
  | c :: rest =>
      rw [Piece.splitFrom] at clean
      rcases List.forall_mem_cons.mp clean with ⟨here, others⟩
      rcases Piece.begins_recognize here with ⟨further, after, written, size, scans⟩
      rw [size, written, Piece.splitFrom_append] at others
      rcases exists_areCut others with ⟨segments, same, areCut⟩
      refine ⟨⟨(Piece.recognize place c rest).kind, c :: further⟩ :: segments, ?_, ?_, areCut⟩
      · rw [written, same]
        rfl
      · rw [List.append_nil, ← same]
        exact scans
termination_by text.length
decreasing_by
  simp only [written, List.length_cons, List.length_append]
  omega

/-! ## Tokens -/

/-- The tokens that the lexemes among segments are, behind the characters that a text begins with.
-/
def tokens (file : String) (before : List Char) : List Segment → List Token
  | [] => []
  | ⟨.lexeme kind value, text⟩ :: segments =>
      ⟨kind, value, .ofChars file before text⟩ :: tokens file (before ++ text) segments
  | segment :: segments => tokens file (before ++ segment.text) segments

theorem tokens_append (file : String) (before : List Char) (segments segments' : List Segment) :
    tokens file before (segments ++ segments') =
      tokens file before segments ++ tokens file (before ++ textOf segments) segments' := by
  induction segments generalizing before with
  | nil => rw [textOf_nil, List.append_nil]; rfl
  | cons segment segments ih =>
      obtain ⟨kind, text⟩ := segment
      rw [textOf_cons, ← List.append_assoc]
      cases kind with
      | lexeme => exact congrArg (_ :: ·) (ih _)
      | gap | lineFeed | comment | broken => exact ih _

/-- The layout of a text drops no lexeme, adds none and leaves their order. -/
theorem filter_tokens {segments : List Segment} {rest : List Char} (areCut : AreCut segments rest)
    (file : String) (stop : Position) (before : List Char) (state : Layout.State) :
    (Layout.tokens file stop state (pieces (.behind before) segments)).filter
        (·.kind.isWritten) = tokens file before segments := by
  induction segments generalizing before state with
  | nil =>
      rw [pieces, Layout.tokens]
      split <;> rfl
  | cons segment segments ih =>
      rcases areCut with ⟨scans, others⟩
      obtain ⟨kind, text⟩ := segment
      have later := ih others (before ++ text)
      rw [pieces, pieceAt, ← Position.behind_append]
      cases kind with
      | lexeme kind value =>
          have span := Position.upTo_behind file before scans.ne_nil (scans.noFeed (by simp))
          rw [Position.behind_append] at span
          have isWritten : kind.isWritten = true := scans.isWritten
          simp only [Layout.tokens, tokens, Piece.stop, List.filter_append]
          rw [span, List.filter_cons, if_pos isWritten, later]
          split <;> rfl
      | gap => exact later _
      | lineFeed => exact later _
      | comment => exact later _
      | broken => exact later _

/-- Each token is written where its lexeme stands. -/
theorem exists_lexeme {segments : List Segment} {rest : List Char} (areCut : AreCut segments rest)
    {file : String} {before : List Char} :
    ∀ token ∈ tokens file before segments, ∃ front text back,
      textOf segments = front ++ (text ++ back) ∧
        Piece.Scans (.lexeme token.kind token.value) text (back ++ rest) ∧
        token.span = .ofChars file (before ++ front) text := by
  induction segments generalizing before with
  | nil => exact List.forall_mem_nil _
  | cons segment segments ih =>
      rcases areCut with ⟨scans, others⟩
      obtain ⟨kind, text⟩ := segment
      have later : ∀ token ∈ tokens file (before ++ text) segments, ∃ front text' back,
          text ++ textOf segments = front ++ (text' ++ back) ∧
            Piece.Scans (.lexeme token.kind token.value) text' (back ++ rest) ∧
            token.span = .ofChars file (before ++ front) text' := by
        intro token member
        rcases ih others token member with ⟨front, text', back, whole, scans, span⟩
        refine ⟨text ++ front, text', back, ?_, scans, ?_⟩
        · rw [whole, List.append_assoc]
        · rw [span, List.append_assoc]
      cases kind with
      | lexeme kind value =>
          refine List.forall_mem_cons.mpr ⟨⟨[], text, textOf segments, rfl, scans, ?_⟩, later⟩
          rw [List.append_nil]
      | gap | lineFeed | comment | broken => exact later

theorem behind_le_first {segments : List Segment} {rest : List Char}
    (areCut : AreCut segments rest) {file : String} {before : List Char} {token : Token}
    (member : token ∈ tokens file before segments) :
    Position.behind before ≤ token.span.first := by
  rcases exists_lexeme areCut token member with ⟨front, text, back, _, _, span⟩
  have start : token.span.first = Position.behind (before ++ front) := congrArg Span.first span
  rw [start, Position.behind_append]
  exact Position.le_after _ front

theorem last_lt_behind {segments : List Segment} {rest : List Char}
    (areCut : AreCut segments rest) {file : String} {before : List Char} {token : Token}
    (member : token ∈ tokens file before segments) :
    token.span.last < Position.behind (before ++ textOf segments) := by
  rcases exists_lexeme areCut token member with ⟨front, text, back, whole, scans, span⟩
  have inside : token.span.last < Position.behind (before ++ front ++ text) := by
    rw [span]
    exact Span.last_ofChars_lt file _ scans.ne_nil
  apply inside.trans_le
  rw [whole, ← List.append_assoc, ← List.append_assoc, Position.behind_append _ back]
  exact Position.le_after _ back

theorem first_le_last {segments : List Segment} {rest : List Char}
    (areCut : AreCut segments rest) {file : String} {before : List Char} {token : Token}
    (member : token ∈ tokens file before segments) : token.span.first ≤ token.span.last := by
  rcases exists_lexeme areCut token member with ⟨front, text, _, _, _, span⟩
  rw [span]
  exact Span.first_le_last_ofChars file _ text

/-- No two tokens share a place, and they stand in their order. -/
theorem tokens_pairwise {segments : List Segment} {rest : List Char}
    (areCut : AreCut segments rest) {file : String} {before : List Char} :
    (tokens file before segments).Pairwise fun token later =>
      token.span.last < later.span.first := by
  induction segments generalizing before with
  | nil => exact .nil
  | cons segment segments ih =>
      rcases areCut with ⟨scans, others⟩
      obtain ⟨kind, text⟩ := segment
      cases kind with
      | lexeme kind value =>
          apply List.Pairwise.cons
          · intro later member
            have inside := Span.last_ofChars_lt file before scans.ne_nil
            exact inside.trans_le (behind_le_first others member)
          · exact ih others
      | gap | lineFeed | comment | broken => exact ih others

end Segment

namespace TokenStream

variable {file text : String} {stream : TokenStream}

/-- A text that has tokens is a row of segments, and these give its tokens. -/
theorem exists_segments_of_ofText (streamed : ofText file text = .ok stream) :
    ∃ segments, Segment.textOf segments = text.toList ∧ Segment.AreCut segments [] ∧
      stream.finish = finishAt file (.behind text.toList) ∧
      stream.tokens =
        Layout.tokens file (.behind text.toList) .initial (Segment.pieces .first segments) ∧
      Layout.openBrackets (Segment.pieces .first segments) = 0 := by
  simp only [ofText] at streamed
  split at streamed
  · rename_i clean
    obtain rfl := Except.ok.inj streamed
    rcases List.append_eq_nil_iff.mp clean with ⟨clean, closed⟩
    rcases Segment.exists_areCut (List.flatMap_eq_nil_iff.mp clean) with
      ⟨segments, whole, areCut⟩
    have split : Piece.split text.toList = Segment.pieces .first segments := by
      rw [Piece.split, whole, Segment.splitFrom_textOf areCut]
    rw [split] at closed ⊢
    rw [Position.first_after]
    refine ⟨segments, whole.symm, areCut, rfl, rfl, ?_⟩
    by_contra opened
    rw [if_pos (Nat.pos_of_ne_zero opened)] at closed
    cases closed
  · cases streamed

/-- The tokens of a text that are written are its lexemes. -/
theorem exists_written (streamed : ofText file text = .ok stream) :
    ∃ segments, Segment.textOf segments = text.toList ∧ Segment.AreCut segments [] ∧
      stream.finish = finishAt file (.behind text.toList) ∧
      stream.tokens.filter (·.kind.isWritten) = Segment.tokens file [] segments := by
  rcases exists_segments_of_ofText streamed with ⟨segments, whole, areCut, finish, tokens, _⟩
  have written : stream.tokens.filter (·.kind.isWritten) = Segment.tokens file [] segments := by
    rw [tokens]
    exact Segment.filter_tokens areCut file (.behind text.toList) [] .initial
  exact ⟨segments, whole, areCut, finish, written⟩

/-- The mark at the end is not written. -/
theorem filter_all (streamed : ofText file text = .ok stream) :
    stream.all.filter (·.kind.isWritten) = stream.tokens.filter (·.kind.isWritten) := by
  rw [all, List.filter_append, List.filter_singleton, (ofText_isSealed streamed).atEnd]
  exact List.append_nil _

/-- A text that has tokens is a row of gaps, line feeds, comments and lexemes. The lexemes are the
tokens that are written, in their order, each with the places of its first and its last character,
and these do not overlap. -/
theorem exists_segments (streamed : ofText file text = .ok stream) :
    ∃ segments, Segment.textOf segments = text.toList ∧ Segment.AreCut segments [] ∧
      stream.all.filter (·.kind.isWritten) = Segment.tokens file [] segments ∧
      (∀ token ∈ Segment.tokens file [] segments, token.span.first ≤ token.span.last) ∧
      (Segment.tokens file [] segments).Pairwise fun token later =>
        token.span.last < later.span.first := by
  rcases exists_written streamed with ⟨segments, whole, areCut, _, written⟩
  exact ⟨segments, whole, areCut, (filter_all streamed).trans written,
    fun _ => Segment.first_le_last areCut, Segment.tokens_pairwise areCut⟩

/-- A call with a comment behind it, on two lines. -/
theorem exists_segments_call :
    ∃ stream segments, ofText "m.pipe" "double( // twice\n  \"a\\n\")\n" = .ok stream ∧
      Segment.textOf segments = "double( // twice\n  \"a\\n\")\n".toList ∧
      Segment.AreCut segments [] ∧
      stream.all.filter (·.kind.isWritten) = Segment.tokens "m.pipe" [] segments := by
  have streamed : ∃ stream, ofText "m.pipe" "double( // twice\n  \"a\\n\")\n" = .ok stream :=
    ⟨_, rfl⟩
  rcases streamed with ⟨stream, streamed⟩
  rcases exists_segments streamed with ⟨segments, whole, areCut, written, _⟩
  exact ⟨stream, segments, streamed, whole, areCut, written⟩

end TokenStream
end ClauseFlow

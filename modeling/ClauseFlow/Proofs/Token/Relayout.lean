import ClauseFlow.Proofs.Token.Lines
import ClauseFlow.Proofs.Token.Steps

/-!
# Laying out a text anew

Lines that hold nothing but a comment, comments behind a line and line breaks inside a declaration
can be put into a text, and its tokens say what they said before.
-/

namespace ClauseFlow

namespace Segment

/-- What a segment says if it is a lexeme. -/
def lexeme? (segment : Segment) : Option Lexeme :=
  match segment.kind with
  | .lexeme kind value => some ⟨kind, value⟩
  | _ => none

theorem filterMap_pieces (place : Position) (segments : List Segment) :
    (pieces place segments).filterMap Piece.lexeme? = segments.filterMap lexeme? := by
  induction segments generalizing place with
  | nil => rfl
  | cons segment segments ih =>
      rw [pieces, List.filterMap_cons, List.filterMap_cons, ih]
      rfl

theorem map_tokens (file : String) (before : List Char) (segments : List Segment) :
    (tokens file before segments).map Token.lexeme = segments.filterMap lexeme? := by
  induction segments generalizing before with
  | nil => rfl
  | cons segment segments ih =>
      obtain ⟨kind, text⟩ := segment
      cases kind with
      | lexeme kind value => exact congrArg (⟨kind, value⟩ :: ·) (ih _)
      | gap | lineFeed | comment | broken => exact ih _

/-- What segments say can be read off the tokens. -/
theorem filterMap_lexeme? {segments : List Segment} {rest : List Char}
    (areCut : AreCut segments rest) (file : String) (stop : Position) :
    segments.filterMap lexeme? =
      ((Layout.tokens file stop .initial (pieces .first segments)).map Token.lexeme).filter
        (·.kind.isWritten) := by
  have written := filter_tokens areCut file stop [] .initial
  rw [← map_tokens file [], ← written, List.filter_map]
  rfl

/-- Segments with a line feed in the end are segments whatever follows. -/
theorem AreCut.of_feed {segments : List Segment} {rest : List Char}
    (areCut : AreCut (segments ++ [feed]) rest) (rest' : List Char) :
    AreCut (segments ++ [feed]) rest' := by
  apply areCut_append.mpr
  have before : AreCut segments ([] ++ '\n' :: rest) := (areCut_append.mp areCut).1
  exact ⟨before.cut_feed rest', .lineFeed, trivial⟩

/-- Whether segments are blanks and comments on one line. -/
def AreIdle (segments : List Segment) : Prop :=
  ∀ segment ∈ segments, segment.kind = .gap ∨ segment.kind = .comment

end Segment

/-- A line that is blank, or that holds only a comment behind blanks. -/
inductive IsIdle : List Char → Prop where
  | blank (size : Nat) : IsIdle (List.replicate size ' ')
  | comment (size : Nat) {said : List Char} (plain : said.head? ≠ some '/') (inLine : '\n' ∉ said) :
      IsIdle (List.replicate size ' ' ++ '/' :: '/' :: said)

/-- Blanks before something else. -/
theorem exists_blanks (size : Nat) {rest : List Char} (noGap : RunEnds Piece.isGap rest) :
    ∃ segments, Segment.textOf segments = List.replicate size ' ' ∧
      Segment.AreCut segments rest ∧ Segment.AreIdle segments := by
  cases size with
  | zero => exact ⟨[], rfl, trivial, List.forall_mem_nil _⟩
  | succ size =>
      refine ⟨[⟨.gap, ' ' :: List.replicate size ' '⟩], List.append_nil _, ⟨?_, trivial⟩,
        List.forall_mem_singleton.mpr (.inl rfl)⟩
      apply Piece.Scans.gap
      · intro c member
        exact .inl (List.eq_of_mem_replicate (n := size + 1) member)
      · exact noGap

theorem stops_feed {test : Char → Bool} (fails : test '\n' = false) (rest : List Char) :
    RunEnds test ('\n' :: rest) := by
  intro c first
  rw [← Option.some.inj first]
  exact fails

theorem stops_slash (rest : List Char) : RunEnds Piece.isGap ('/' :: rest) := by
  intro c first
  rw [← Option.some.inj first]
  rfl

theorem scans_comment {said : List Char} (plain : said.head? ≠ some '/') (inLine : '\n' ∉ said)
    (rest : List Char) : Piece.Scans .comment ('/' :: '/' :: said) ('\n' :: rest) :=
  .comment plain inLine (stops_feed rfl rest)

theorem IsIdle.exists_areCut {line : List Char} (idle : IsIdle line) (rest : List Char) :
    ∃ segments, Segment.textOf segments = line ∧ Segment.AreCut segments ('\n' :: rest) ∧
      Segment.AreIdle segments := by
  cases idle with
  | blank size => exact exists_blanks size (stops_feed rfl rest)
  | @comment size said plain inLine =>
      rcases exists_blanks size (stops_slash ('/' :: (said ++ '\n' :: rest))) with
        ⟨blanks, text, areCut, idle⟩
      refine ⟨blanks ++ [⟨.comment, '/' :: '/' :: said⟩], ?_, ?_, ?_⟩
      · rw [Segment.textOf_append, text]
        simp
      · apply Segment.areCut_append.mpr
        exact ⟨by simpa using areCut, scans_comment plain inLine rest, trivial⟩
      · exact List.forall_mem_append.mpr ⟨idle, List.forall_mem_singleton.mpr (.inr rfl)⟩

namespace Layout.State

/-! ## Idle segments -/

variable {file : String} {segments : List Segment}

theorem emitted_idle (idle : Segment.AreIdle segments) (state : State) (place : Position) :
    state.emitted file (Segment.pieces place segments) = [] := by
  induction segments generalizing state place with
  | nil => rfl
  | cons segment segments ih =>
      rcases List.forall_mem_cons.mp idle with ⟨here, others⟩
      obtain ⟨kind, text⟩ := segment
      rw [Segment.pieces, emitted, ih others]
      rcases here with rfl | rfl <;> rfl

theorem run_idle (idle : Segment.AreIdle segments) (state : State) (place : Position) :
    ∃ indent?, state.run (Segment.pieces place segments) = { state with indent? } := by
  induction segments generalizing state place with
  | nil => exact ⟨state.indent?, rfl⟩
  | cons segment segments ih =>
      rcases List.forall_mem_cons.mp idle with ⟨here, others⟩
      obtain ⟨kind, text⟩ := segment
      rw [Segment.pieces, run_cons]
      rcases here with rfl | rfl <;> exact ih others _ _

/-- Whether a line begins: a line break that may end a declaration is pending already. -/
structure AtLine (state : State) : Prop where
  indent : state.indent? = some []
  pending : state.mayEnd = true → state.pending?.isSome = true

theorem atLine_initial : initial.AtLine :=
  ⟨rfl, fun mayEnd => absurd mayEnd (by decide)⟩

theorem run_feed (state : State) (place : Position) :
    state.run (Segment.pieces place [.feed]) =
      { state with
        pending? := if state.mayEnd then state.pending?.or (some place) else state.pending?
        indent? := some [] } :=
  rfl

theorem mayEnd_update (state : State) (pending? : Option Position) (indent? : Option (List Char)) :
    { state with pending?, indent? }.mayEnd = state.mayEnd :=
  rfl

theorem isSome_pending_feed (state : State) (place : Position) :
    (if state.mayEnd then state.pending?.or (some place) else state.pending?).isSome =
      (state.mayEnd || state.pending?.isSome) := by
  cases state.mayEnd <;> simp

theorem atLine_feed (state : State) (place : Position) :
    (state.run (Segment.pieces place [.feed])).AtLine := by
  refine ⟨rfl, ?_⟩
  intro mayEnd
  rw [run_feed, mayEnd_update] at mayEnd
  rw [run_feed, isSome_pending_feed, mayEnd, Bool.true_or]

/-- Lines that are idle leave everything as it was. -/
theorem AtLine.alike_idle {state : State} (atLine : state.AtLine) (idle : Segment.AreIdle segments)
    (place : Position) :
    state.Alike (state.run (Segment.pieces place (segments ++ [.feed]))) := by
  rcases run_idle idle state place with ⟨indent?, same⟩
  rw [Segment.pieces_append, run_append, same, run_feed]
  refine ⟨rfl, rfl, ?_, atLine.indent⟩
  rw [isSome_pending_feed, mayEnd_update]
  cases mayEnd : state.mayEnd with
  | false => rfl
  | true => exact atLine.pending mayEnd

/-- What is idle at the end of a line makes no difference after it. -/
theorem alike_feed {segments segments' : List Segment} (idle : Segment.AreIdle segments)
    (idle' : Segment.AreIdle segments') (state : State) (place place' : Position) :
    (state.run (Segment.pieces place (segments ++ [.feed]))).Alike
      (state.run (Segment.pieces place' (segments' ++ [.feed]))) := by
  rcases run_idle idle state place with ⟨indent?, same⟩
  rcases run_idle idle' state place' with ⟨indent?', same'⟩
  rw [Segment.pieces_append, run_append, same, run_feed, Segment.pieces_append, run_append, same',
    run_feed]
  refine ⟨rfl, rfl, ?_, rfl⟩
  rw [isSome_pending_feed, isSome_pending_feed]
  rfl

theorem emitted_feed (idle : Segment.AreIdle segments) (state : State) (place : Position) :
    state.emitted file (Segment.pieces place (segments ++ [.feed])) = [] := by
  rw [Segment.pieces_append, emitted_append, emitted_idle idle]
  rfl

end Layout.State

namespace Layout

/-- Segments that give no tokens may stand for others that give none, as long as they leave a state
that is alike. -/
theorem lexemes_tokens_replace {file : String} (stop stop' : Position) (state : State)
    (place : Position) (front inner inner' back : List Segment)
    (silent : ∀ state place, State.emitted file state (Segment.pieces place inner) = [])
    (silent' : ∀ state place, State.emitted file state (Segment.pieces place inner') = [])
    (alike : ∀ place', ((state.run (Segment.pieces place front)).run
        (Segment.pieces place' inner)).Alike
      ((state.run (Segment.pieces place front)).run (Segment.pieces place' inner'))) :
    (tokens file stop state (Segment.pieces place (front ++ (inner ++ back)))).map Token.lexeme =
      (tokens file stop' state (Segment.pieces place (front ++ (inner' ++ back)))).map
        Token.lexeme := by
  simp only [Segment.pieces_append, tokens_append, silent, silent', List.nil_append,
    List.map_append]
  congr 1
  exact (alike _).lexemes_tokens file stop stop' back _ _

end Layout

namespace TokenStream

variable {file text : String} {stream : TokenStream}

/-- Segments that close their brackets have tokens. -/
theorem ofText_textOf {segments : List Segment} (areCut : Segment.AreCut segments [])
    (closed : Lexeme.depthAfter 0 (segments.filterMap Segment.lexeme?) = 0) (file : String) :
    ofText file (String.ofList (Segment.textOf segments)) =
      .ok ⟨Layout.tokens file (.behind (Segment.textOf segments)) .initial
          (Segment.pieces .first segments),
        finishAt file (.behind (Segment.textOf segments))⟩ := by
  have split : Piece.split (Segment.textOf segments) = Segment.pieces .first segments :=
    Segment.splitFrom_textOf areCut .first
  have clean := Segment.faults_pieces .first segments
  have noBracket : Layout.openBrackets (Segment.pieces .first segments) = 0 := by
    rw [openBrackets_eq, Segment.filterMap_pieces, closed]
  have noFault :
      faults (.behind (Segment.textOf segments)) (Segment.pieces .first segments) = [] := by
    rw [faults, List.flatMap_eq_nil_iff.mpr clean, noBracket]
    rfl
  simp only [ofText, String.toList_ofList, split, Position.first_after, noFault]

/-- Whether a text says what the tokens of a stream say. -/
def SaysSame (file : String) (stream : TokenStream) (text : List Char) : Prop :=
  ∃ stream', ofText file (String.ofList text) = .ok stream' ∧
    stream'.all.map Token.lexeme = stream.all.map Token.lexeme

/-- A text has tokens again if its segments are laid out anew and say the same. -/
theorem exists_relaid {segments segments' : List Segment} {stop : Position}
    (areCut : Segment.AreCut segments []) (areCut' : Segment.AreCut segments' [])
    (closed : Layout.openBrackets (Segment.pieces .first segments) = 0)
    (tokens : stream.tokens =
      Layout.tokens file stop .initial (Segment.pieces .first segments))
    (finish : stream.finish = finishAt file stop)
    (same : ∀ stop', (Layout.tokens file stop .initial (Segment.pieces .first segments)).map
        Token.lexeme =
      (Layout.tokens file stop' .initial (Segment.pieces .first segments')).map Token.lexeme) :
    SaysSame file stream (Segment.textOf segments') := by
  have lexemes : segments'.filterMap Segment.lexeme? = segments.filterMap Segment.lexeme? := by
    rw [Segment.filterMap_lexeme? areCut file stop, Segment.filterMap_lexeme? areCut' file stop,
      same stop]
  have closed' : Lexeme.depthAfter 0 (segments'.filterMap Segment.lexeme?) = 0 := by
    rw [lexemes, ← Segment.filterMap_pieces .first, ← openBrackets_eq, closed]
  refine ⟨_, ofText_textOf areCut' closed' file, ?_⟩
  rw [all, all, List.map_append, List.map_append, tokens, finish, same]
  rfl

/-! ## Lines and comments -/

/-- Whether a text is another one with a line put in that is idle. -/
inductive InsertsLine : List Char → List Char → Prop where
  | intro {before line after : List Char} (starts : Text.IsClosed before) (idle : IsIdle line) :
      InsertsLine (before ++ after) (before ++ (line ++ '\n' :: after))

/-- Whether a text is that of a stream with a comment put behind a line that does not end in a
documentation comment. -/
inductive AppendsRemark (stream : TokenStream) : List Char → List Char → Prop where
  | intro {before said after : List Char} (plain : said.head? ≠ some '/') (inLine : '\n' ∉ said)
      (noDoc : ∀ token ∈ stream.tokens, token.kind = .docComment →
        token.span.stop ≠ .behind before) :
      AppendsRemark stream (before ++ '\n' :: after)
        (before ++ (' ' :: '/' :: '/' :: said ++ '\n' :: after))

/-- A text whose lines are closed ends with a segment, and a line begins behind it. -/
theorem exists_lines {segments : List Segment} {before after : List Char}
    (areCut : Segment.AreCut segments []) (whole : Segment.textOf segments = before ++ after)
    (starts : Text.IsClosed before) :
    ∃ front back, segments = front ++ back ∧ Segment.textOf front = before ∧
      Segment.textOf back = after ∧ (∀ rest, Segment.AreCut front rest) ∧
      (Layout.State.initial.run (Segment.pieces .first front)).AtLine := by
  rcases List.eq_nil_or_concat before with rfl | ⟨lines, c, rfl⟩
  · exact ⟨[], segments, rfl, rfl, whole, fun _ => trivial, Layout.State.atLine_initial⟩
  · have feed : c = '\n' := starts c (by simp)
    subst feed
    rw [List.concat_append] at whole
    rcases Segment.exists_feed areCut whole with ⟨front, back, rfl, rfl, rfl⟩
    refine ⟨front ++ [.feed], back, by simp, by simp [Segment.feed], rfl, ?_, ?_⟩
    · have areCut : Segment.AreCut ((front ++ [.feed]) ++ back) [] := by simpa using areCut
      exact fun rest => (Segment.areCut_append.mp areCut).1.of_feed rest
    · rw [Segment.pieces_append, Layout.State.run_append]
      exact Layout.State.atLine_feed _ _

/-- A line that is idle may stand before the first line, between two lines and behind the last. -/
theorem saysSame_insertsLine (streamed : ofText file text = .ok stream) {text' : List Char}
    (inserts : InsertsLine text.toList text') : SaysSame file stream text' := by
  rcases exists_segments_of_ofText streamed with ⟨segments, whole, areCut, finish, tokens, closed⟩
  generalize text.toList = content at whole inserts tokens finish
  obtain @⟨before, line, after, starts, idle⟩ := inserts
  rcases exists_lines areCut whole starts with ⟨front, back, rfl, rfl, rfl, areCutFront, atLine⟩
  rcases idle.exists_areCut (Segment.textOf back) with ⟨inner, rfl, areCutInner, idle⟩
  have areCut' : Segment.AreCut (front ++ ((inner ++ [.feed]) ++ back)) [] := by
    apply Segment.areCut_append.mpr ⟨areCutFront _, Segment.areCut_append.mpr ⟨?_, ?_⟩⟩
    · rw [List.append_nil]
      exact Segment.areCut_append.mpr ⟨areCutInner, .lineFeed, trivial⟩
    · exact (Segment.areCut_append.mp areCut).2
  have alike (place : Position) :
      ((Layout.State.initial.run (Segment.pieces .first front)).run (Segment.pieces place [])).Alike
        ((Layout.State.initial.run (Segment.pieces .first front)).run
          (Segment.pieces place (inner ++ [.feed]))) := by
    rw [Segment.pieces, Layout.State.run_nil]
    exact atLine.alike_idle idle place
  have relaid := exists_relaid areCut areCut' closed tokens finish fun stop' =>
    Layout.lexemes_tokens_replace _ stop' .initial .first front [] (inner ++ [.feed]) back
      (fun _ _ => rfl) (Layout.State.emitted_feed idle) alike
  have text : Segment.textOf (front ++ ((inner ++ [.feed]) ++ back)) =
      Segment.textOf front ++ (Segment.textOf inner ++ '\n' :: Segment.textOf back) := by
    simp [Segment.feed]
  rwa [text] at relaid

/-- Whether segments are the same up to what is idle at their end. -/
structure SameToIdle (segments segments' : List Segment) : Prop where
  ends : ∃ kept inner inner', segments = kept ++ inner ∧ segments' = kept ++ inner' ∧
    Segment.AreIdle inner ∧ Segment.AreIdle inner'

/-- A blank and a comment behind a blank or a comment, which they prolong. -/
theorem exists_prolonged {kind : PieceKind} {text said after : List Char}
    (scans : Piece.Scans kind text ('\n' :: after)) (isIdle : kind = .gap ∨ kind = .comment)
    (plain : said.head? ≠ some '/') (inLine : '\n' ∉ said) :
    ∃ inner, Segment.AreIdle inner ∧ Segment.AreCut inner ('\n' :: after) ∧
      Segment.textOf inner = text ++ ' ' :: '/' :: '/' :: said := by
  rcases isIdle with rfl | rfl
  · cases scans with
    | @gap c further _ blank _ =>
        refine ⟨[⟨.gap, c :: (further ++ [' '])⟩, ⟨.comment, '/' :: '/' :: said⟩], ?_, ?_,
          by simp⟩
        · exact List.forall_mem_cons.mpr ⟨.inl rfl, List.forall_mem_singleton.mpr (.inr rfl)⟩
        · refine ⟨.gap ?_ (stops_slash _), scans_comment plain inLine after, trivial⟩
          rw [← List.cons_append]
          exact List.forall_mem_append.mpr ⟨blank, List.forall_mem_singleton.mpr (.inl rfl)⟩
  · cases scans with
    | @comment before _ plain' inLine' _ =>
        refine ⟨[⟨.comment, '/' :: '/' :: (before ++ ' ' :: '/' :: '/' :: said)⟩],
          List.forall_mem_singleton.mpr (.inr rfl), ⟨scans_comment ?_ ?_ after, trivial⟩, by simp⟩
        · cases before with
          | nil => exact fun slash => absurd (Option.some.inj slash) (by decide)
          | cons c before => exact plain'
        · simp [inLine, inLine']

/-- A comment behind a line comes with a blank of its own, prolongs the blanks that the line ends
with, or prolongs the comment there. -/
theorem exists_remarked {segments : List Segment} {said after : List Char}
    (areCut : Segment.AreCut segments ('\n' :: after)) (plain : said.head? ≠ some '/')
    (inLine : '\n' ∉ said)
    (noDoc : ∀ last ∈ segments.getLast?, ∀ value, last.kind ≠ .lexeme .docComment value) :
    ∃ segments', SameToIdle segments segments' ∧ Segment.AreCut segments' ('\n' :: after) ∧
      Segment.textOf segments' = Segment.textOf segments ++ ' ' :: '/' :: '/' :: said := by
  have separate (ends : ∀ last ∈ segments.getLast?, Piece.endsBefore last.kind ' ' = true) :
      ∃ segments', SameToIdle segments segments' ∧ Segment.AreCut segments' ('\n' :: after) ∧
        Segment.textOf segments' = Segment.textOf segments ++ ' ' :: '/' :: '/' :: said := by
    refine ⟨segments ++ [⟨.gap, [' ']⟩, ⟨.comment, '/' :: '/' :: said⟩], ⟨segments, [], _,
      (List.append_nil _).symm, rfl, List.forall_mem_nil _, ?_⟩, ?_, by simp⟩
    · exact List.forall_mem_cons.mpr ⟨.inl rfl, List.forall_mem_singleton.mpr (.inr rfl)⟩
    · have areCut : Segment.AreCut segments ([] ++ '\n' :: after) := areCut
      apply Segment.areCut_append.mpr
      refine ⟨areCut.cut (by decide) (fun _ => ends) _, .gap ?_ (stops_slash _),
        scans_comment plain inLine after, trivial⟩
      exact List.forall_mem_singleton.mpr (.inl rfl)
  rcases List.eq_nil_or_concat' segments with rfl | ⟨front, last, rfl⟩
  · exact separate (by simp)
  · obtain ⟨kind, text⟩ := last
    rw [List.getLast?_concat] at noDoc separate
    rcases Segment.areCut_append.mp areCut with ⟨areCutFront, scans, _⟩
    by_cases isIdle : kind = .gap ∨ kind = .comment
    · rcases exists_prolonged scans isIdle plain inLine with ⟨inner, idle, areCutInner, whole⟩
      have areCutFront : Segment.AreCut front (text ++ '\n' :: after) := by
        simpa using areCutFront
      refine ⟨front ++ inner, ⟨front, _, inner, rfl, rfl, ?_, idle⟩, ?_, by simp [whole]⟩
      · exact List.forall_mem_singleton.mpr isIdle
      · apply Segment.areCut_append.mpr
        refine ⟨?_, areCutInner⟩
        rw [whole, List.append_assoc]
        apply areCutFront.cut (by decide)
        intro none
        exact absurd none scans.ne_nil
    · apply separate
      intro last same
      obtain rfl := Option.some.inj same
      have noDoc := noDoc _ rfl
      simp only at scans noDoc ⊢
      rw [Piece.endsBefore.eq_def]
      split
      · exact absurd (.inl rfl) isIdle
      · exact absurd (.inr rfl) isIdle
      · exact absurd rfl (noDoc _)
      · rfl
      · rfl
      · cases scans

/-- The last lexeme of some segments is a token that ends where they end. -/
theorem mem_tokens_of_getLast? {segments back : List Segment} {rest : List Char}
    (areCut : Segment.AreCut (segments ++ back) rest) {last : Segment}
    (final : last ∈ segments.getLast?) {kind : TokenKind} {value : String}
    (isLexeme : last.kind = .lexeme kind value) (file : String) :
    ∃ span, ⟨kind, value, span⟩ ∈ Segment.tokens file [] (segments ++ back) ∧
      span.stop = .behind (Segment.textOf segments) := by
  rcases List.getLast?_eq_some_iff.mp final with ⟨front, rfl⟩
  obtain ⟨lastKind, text⟩ := last
  obtain rfl : lastKind = .lexeme kind value := isLexeme
  rw [List.append_assoc, List.singleton_append] at areCut ⊢
  have scans := (Segment.areCut_append.mp areCut).2.1
  refine ⟨.ofChars file (Segment.textOf front) text, ?_, ?_⟩
  · rw [Segment.tokens_append, List.nil_append]
    exact List.mem_append_right _ (.head _)
  · rw [Span.stop_ofChars file _ scans.ne_nil (scans.noFeed (by simp))]
    simp

/-- A comment may stand behind any line that ends in no documentation comment. -/
theorem saysSame_appendsRemark (streamed : ofText file text = .ok stream) {text' : List Char}
    (appends : AppendsRemark stream text.toList text') : SaysSame file stream text' := by
  rcases exists_segments_of_ofText streamed with ⟨segments, whole, areCut, finish, tokens, closed⟩
  have written := Segment.filter_tokens areCut file (.behind text.toList) [] .initial
  generalize text.toList = content at whole appends tokens finish written
  obtain @⟨before, said, after, plain, inLine, noDoc⟩ := appends
  rcases Segment.exists_feed areCut whole with ⟨front, back, rfl, rfl, rfl⟩
  have areCutFront : Segment.AreCut front ('\n' :: Segment.textOf back) := by
    simpa [Segment.feed] using (Segment.areCut_append.mp areCut).1
  have noDoc : ∀ last ∈ front.getLast?, ∀ value, last.kind ≠ .lexeme .docComment value := by
    intro last final value isDoc
    rcases mem_tokens_of_getLast? areCut final isDoc file with ⟨span, member, stop⟩
    rw [← written] at member
    have inside : ⟨.docComment, value, span⟩ ∈ stream.tokens := by
      rw [tokens]
      exact (List.mem_filter.mp member).1
    exact noDoc _ inside rfl stop
  rcases exists_remarked areCutFront plain inLine noDoc with
    ⟨front', ⟨kept, inner, inner', rfl, rfl, idle, idle'⟩, areCutFront', whole'⟩
  have areCut' : Segment.AreCut (kept ++ ((inner' ++ [.feed]) ++ back)) [] := by
    rw [List.append_assoc, ← List.append_assoc]
    apply Segment.areCut_append.mpr
    refine ⟨?_, .lineFeed, (Segment.areCut_append.mp areCut).2.2⟩
    simpa [Segment.feed] using areCutFront'
  rw [List.append_assoc, List.append_cons inner] at areCut closed tokens
  have relaid := exists_relaid areCut areCut' closed tokens finish fun stop' =>
    Layout.lexemes_tokens_replace _ stop' .initial .first kept (inner ++ [.feed])
      (inner' ++ [.feed]) back (Layout.State.emitted_feed idle)
      (Layout.State.emitted_feed idle') fun _ => Layout.State.alike_feed idle idle' _ _ _
  have text : Segment.textOf (kept ++ ((inner' ++ [.feed]) ++ back)) =
      Segment.textOf (kept ++ inner') ++ '\n' :: Segment.textOf back := by
    simp [Segment.feed]
  rw [text, whole', List.append_assoc] at relaid
  exact relaid

end TokenStream
end ClauseFlow

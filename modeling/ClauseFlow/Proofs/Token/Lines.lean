import ClauseFlow.Proofs.Text.Lines
import ClauseFlow.Proofs.Token.Fragments
import ClauseFlow.Token.Layout

/-!
# Lines and their tokens

A line that begins with a lexeme in its first column, closes the brackets it opens and does not end
where more is expected gives its lexemes and a `newline` token after them, with or without a comment
at its end. An empty line gives nothing, and neither does a comment by itself.
-/

namespace ClauseFlow

/-! ## Lines -/

/-- Whether pieces are comments. -/
def Piece.AreComments (pieces : List Piece) : Prop :=
  ∀ piece ∈ pieces, piece.faults = [] ∧ piece.kind = .comment

theorem Piece.AreComments.lexemes {pieces : List Piece} (comments : AreComments pieces) :
    pieces.filterMap lexeme? = [] := by
  rw [List.filterMap_eq_nil_iff]
  intro piece member
  rw [lexeme?, (comments piece member).2]

/-- A line that is a row of lexemes from its first column on, and comments after them. -/
structure Line (text : String) (row : List Lexeme) : Prop where
  cut : ∀ place rest, ∃ first pieces comments,
    Piece.splitFrom place 0 (text.toList ++ '\n' :: rest) =
        first :: (pieces ++ (comments ++
          Piece.splitFrom (place.after text.toList) 0 ('\n' :: rest))) ∧
      first.lexeme?.isSome ∧ Piece.Clean (first :: pieces) ∧ Piece.AreComments comments ∧
        (first :: pieces).filterMap Piece.lexeme? = row
  balanced : Balanced row
  mayEnd : MayEnd row

/-- A text is cut at its first lexeme. -/
theorem cut_of_lexes {text text' : String} {lexeme : Lexeme} {row : List Lexeme}
    {rest : List Char} (lexes : Lexes text lexeme (text'.toList ++ rest))
    (spells : Spells text' row rest) (place : Position) :
    ∃ first pieces, Piece.splitFrom place 0 ((text ++ text').toList ++ rest) =
        first :: (pieces ++ Piece.splitFrom (place.after (text ++ text').toList) 0 rest) ∧
      first.lexeme?.isSome ∧ Piece.Clean (first :: pieces) ∧
        (first :: pieces).filterMap Piece.lexeme? = lexeme :: row := by
  rcases spells (place.after text.toList) with ⟨pieces, split, clean, found⟩
  have after : place.after (text.toList ++ text'.toList) =
      (place.after text.toList).after text'.toList := List.foldl_append
  refine ⟨⟨.lexeme lexeme.kind lexeme.value, text.toList, place, []⟩, pieces, ?_, rfl, ?_, ?_⟩
  · rw [String.toList_append, List.append_assoc, lexes place, split, after]
  · exact List.forall_mem_cons.mpr ⟨⟨rfl, .inr rfl⟩, clean⟩
  · exact congrArg (lexeme :: ·) found

/-- A line is cut at its first lexeme. -/
theorem Line.cut_of_lexes {text text' : String} {lexeme : Lexeme} {row : List Lexeme}
    (lexes : ∀ rest, Lexes text lexeme (text'.toList ++ '\n' :: rest))
    (spells : ∀ rest, Spells text' row ('\n' :: rest)) (place : Position) (rest : List Char) :
    ∃ first pieces comments, Piece.splitFrom place 0 ((text ++ text').toList ++ '\n' :: rest) =
        first :: (pieces ++ (comments ++
          Piece.splitFrom (place.after (text ++ text').toList) 0 ('\n' :: rest))) ∧
      first.lexeme?.isSome ∧ Piece.Clean (first :: pieces) ∧ Piece.AreComments comments ∧
        (first :: pieces).filterMap Piece.lexeme? = lexeme :: row := by
  rcases ClauseFlow.cut_of_lexes (lexes rest) (spells rest) place with
    ⟨first, pieces, split, isLexeme, clean, found⟩
  exact ⟨first, pieces, [], split, isLexeme, clean, List.forall_mem_nil _, found⟩

/-- A comment that runs to the end of its line. -/
structure Comment (text : String) : Prop where
  cut : ∀ place rest, ∃ comment,
    Piece.splitFrom place 0 (text.toList ++ '\n' :: rest) =
        comment :: Piece.splitFrom (place.after text.toList) 0 ('\n' :: rest) ∧
      comment.faults = [] ∧ comment.kind = .comment
  leads : Leads text

/-- Two slashes and something that is no further slash. -/
theorem Comment.of_slashes {said : String} (begins : said.toList.head? ≠ some '/')
    (noFeed : '\n' ∉ said.toList) : Comment ("//" ++ said) where
  cut place rest := by
    have written : ("//" ++ said).toList = '/' :: ('/' :: said.toList) := by
      rw [String.toList_append]
      rfl
    have inside : ∀ c ∈ '/' :: said.toList, decide (c ≠ '\n') = true :=
      List.forall_mem_cons.mpr
        ⟨by decide, fun c member => decide_eq_true (ne_of_mem_of_not_mem member noFeed)⟩
    have feed : ∀ c ∈ ('\n' :: rest).head?, decide (c ≠ '\n') = false := by simp
    have recognized : Piece.recognize place '/' (('/' :: said.toList) ++ '\n' :: rest) =
        ⟨.comment, ('/' :: said.toList).length, []⟩ := by
      have isComment : Piece.recognize place '/' (('/' :: said.toList) ++ '\n' :: rest) =
          Piece.recognizeComment (('/' :: said.toList) ++ '\n' :: rest) := by
        cases characters : said.toList with
        | nil => rfl
        | cons c more =>
            rw [characters] at begins
            have differs : c ≠ '/' := fun same => begins (congrArg some same)
            simp [Piece.recognize.eq_def, Piece.isGap, differs]
      rw [isComment, Piece.recognizeComment, (takeWhile_append_of_head inside feed).1]
    rw [written]
    exact ⟨_, Piece.splitFrom_cons recognized, rfl, rfl⟩
  leads := ⟨'/', by rw [String.toList_append]; rfl, by decide⟩

/-- Two blanks before something that is no blank. -/
theorem Spells.twoBlanks {rest : List Char} (noGap : ∀ c ∈ rest.head?, Piece.isGap c = false) :
    Spells "  " [] rest := by
  intro place
  have isGap : Piece.isGap ' ' = true := by decide
  have gap : ∀ c ∈ [' '], Piece.isGap c = true := List.forall_mem_singleton.mpr isGap
  have recognized : Piece.recognize place ' ' ([' '] ++ rest) = ⟨.gap, [' '].length, []⟩ := by
    rw [Piece.recognize.eq_def, if_pos isGap, Piece.recognizeGap,
      (takeWhile_append_of_head gap noGap).1]
    rfl
  have spaces : Piece.IsSpaces ⟨.gap, [' ', ' '], place, []⟩ :=
    ⟨rfl, fun _ member => List.eq_of_mem_replicate (n := 2) member⟩
  exact ⟨[⟨.gap, [' ', ' '], place, []⟩], Piece.splitFrom_cons recognized,
    List.forall_mem_singleton.mpr ⟨rfl, .inl spaces⟩, rfl⟩

/-- A row of lexemes from the first column on, before anything that keeps apart. -/
structure Code (text : String) (row : List Lexeme) : Prop where
  cut : ∀ place {rest}, Apart rest → ∃ first pieces,
    Piece.splitFrom place 0 (text.toList ++ rest) =
        first :: (pieces ++ Piece.splitFrom (place.after text.toList) 0 rest) ∧
      first.lexeme?.isSome ∧ Piece.Clean (first :: pieces) ∧
        (first :: pieces).filterMap Piece.lexeme? = row
  balanced : Balanced row
  mayEnd : MayEnd row

namespace Code

variable {text remark : String} {row : List Lexeme}

theorem line (code : Code text row) : Line text row where
  cut place rest := by
    rcases code.cut place (apart_cons (by decide : '\n' ∈ delimiters) (by decide)) with
      ⟨first, pieces, split, isLexeme, clean, found⟩
    exact ⟨first, pieces, [], split, isLexeme, clean, List.forall_mem_nil _, found⟩
  balanced := code.balanced
  mayEnd := code.mayEnd

/-- Code with a comment behind it. -/
theorem remarked (code : Code text row) (comment : Comment remark) :
    Line (text ++ "  " ++ remark) row where
  cut place rest := by
    have apart : Apart ("  ".toList ++ (remark.toList ++ '\n' :: rest)) :=
      apart_cons (by decide : ' ' ∈ delimiters) (by decide)
    rcases code.cut place apart with ⟨first, pieces, cut, isLexeme, clean, found⟩
    rcases Spells.twoBlanks (comment.leads.noGap ('\n' :: rest)) (place.after text.toList) with
      ⟨blanks, cut', blanksClean, noLexeme⟩
    rcases comment.cut ((place.after text.toList).after "  ".toList) rest with
      ⟨said, cut'', isComment⟩
    refine ⟨first, pieces ++ blanks, [said], ?_, isLexeme,
      List.forall_mem_append.mpr ⟨clean, blanksClean⟩, List.forall_mem_singleton.mpr isComment,
      ?_⟩
    · have after : place.after ((text.toList ++ "  ".toList) ++ remark.toList) =
          ((place.after text.toList).after "  ".toList).after remark.toList := by
        simp only [Position.after, List.foldl_append]
      rw [String.toList_append, String.toList_append, after, List.append_assoc, List.append_assoc,
        cut, cut', cut'', List.append_assoc]
      rfl
    · rw [← List.cons_append, List.filterMap_append, found, noLexeme, List.append_nil]
  balanced := code.balanced
  mayEnd := code.mayEnd

end Code

/-- What a line of a text may be: empty, a comment, or a row of lexemes. -/
inductive Row : String → List Lexeme → Prop where
  | empty : Row "" []
  | comment {text : String} (comment : Comment text) : Row text []
  | line {text : String} {row : List Lexeme} (line : Line text row) : Row text row

/-! ## Pieces -/

theorem splitFrom_lineFeed (place : Position) (rest : List Char) :
    Piece.splitFrom place 0 ('\n' :: rest) =
      ⟨.lineFeed, ['\n'], place, []⟩ :: Piece.splitFrom (place.after ['\n']) 0 rest := by
  have recognized : Piece.recognize place '\n' ([] ++ rest) =
      ⟨.lineFeed, ([] : List Char).length, []⟩ := rfl
  exact Piece.splitFrom_cons recognized

theorem pieces_ofLines {texts : List String} {rows : List (List Lexeme)}
    (each : List.Forall₂ Row texts rows) (place : Position) :
    (∀ piece ∈ Piece.splitFrom place 0 (Text.ofLines texts), piece.faults = []) ∧
      (Piece.splitFrom place 0 (Text.ofLines texts)).filterMap Piece.lexeme? = rows.flatten := by
  induction each generalizing place with
  | nil => exact ⟨List.forall_mem_nil _, rfl⟩
  | @cons text row texts rows here others ih =>
      rw [Text.ofLines, List.flatMap_cons, List.append_assoc, List.singleton_append,
        ← Text.ofLines]
      cases here with
      | empty =>
          rcases ih (place.after ['\n']) with ⟨clean, found⟩
          rw [String.toList_empty, List.nil_append, splitFrom_lineFeed]
          exact ⟨List.forall_mem_cons.mpr ⟨rfl, clean⟩, found⟩
      | comment comment =>
          rcases comment.cut place (Text.ofLines texts) with ⟨said, cut, noFault, isComment⟩
          rcases ih ((place.after text.toList).after ['\n']) with ⟨clean, found⟩
          have noLexeme : said.lexeme? = none := by rw [Piece.lexeme?, isComment]
          rw [cut, splitFrom_lineFeed]
          constructor
          · exact List.forall_mem_cons.mpr ⟨noFault, List.forall_mem_cons.mpr ⟨rfl, clean⟩⟩
          · rw [List.filterMap_cons_none noLexeme, List.filterMap_cons_none rfl, found,
              List.flatten_cons, List.nil_append]
      | line line =>
          rcases line.cut place (Text.ofLines texts) with
            ⟨first, pieces, comments, cut, _, clean, said, found⟩
          rcases ih ((place.after text.toList).after ['\n']) with ⟨restClean, restFound⟩
          rw [cut, splitFrom_lineFeed, ← List.cons_append]
          constructor
          · exact List.forall_mem_append.mpr ⟨fun piece member => (clean piece member).1,
              List.forall_mem_append.mpr ⟨fun piece member => (said piece member).1,
                List.forall_mem_cons.mpr ⟨rfl, restClean⟩⟩⟩
          · rw [List.filterMap_append, found, List.filterMap_append, said.lexemes,
              List.filterMap_cons_none rfl, restFound, List.flatten_cons, List.nil_append]

theorem openBrackets_eq (pieces : List Piece) :
    Layout.openBrackets pieces = Lexeme.depthAfter 0 (pieces.filterMap Piece.lexeme?) := by
  rw [Layout.openBrackets, Lexeme.depthAfter, List.foldl_filterMap]
  congr 1
  funext depth piece
  rw [Piece.lexeme?]
  cases piece.kind <;> rfl

/-- Lines have no faults. -/
theorem faults_ofLines {texts : List String} {rows : List (List Lexeme)}
    (each : List.Forall₂ Row texts rows) (place stop : Position) :
    TokenStream.faults stop (Piece.splitFrom place 0 (Text.ofLines texts)) = [] := by
  rcases pieces_ofLines each place with ⟨clean, found⟩
  have balanced : Balanced rows.flatten := by
    clear clean found
    induction each with
    | nil => exact .nil
    | cons here _ ih =>
        rw [List.flatten_cons]
        cases here with
        | empty | comment => exact ih
        | line line => exact line.balanced.append ih
  have closed : Layout.openBrackets (Piece.splitFrom place 0 (Text.ofLines texts)) = 0 := by
    rw [openBrackets_eq, found]
    exact balanced 0
  rw [TokenStream.faults, List.flatMap_eq_nil_iff.mpr clean, closed]
  rfl

/-! ## Tokens -/

def Lexeme.newline : Lexeme :=
  ⟨.newline, "\n"⟩

/-- Rows of lexemes with a `newline` token after each one that is not empty. -/
def Lexeme.closed (rows : List (List Lexeme)) : List Lexeme :=
  rows.flatMap fun row => if row = [] then [] else row ++ [newline]

namespace Layout

variable (file : String) (stop : Position)

/-- Inside a line all lexemes become tokens. -/
theorem tokens_clean {pieces : List Piece} (clean : Piece.Clean pieces) (depth : Nat)
    (last? : Option TokenKind) (pending? : Option Position) (more : List Piece) :
    ∃ found, tokens file stop ⟨depth, last?, pending?, none⟩ (pieces ++ more) =
        found ++ tokens file stop
          ⟨Lexeme.depthAfter depth (pieces.filterMap Piece.lexeme?),
            (pieces.filterMap Piece.lexeme?).foldl (fun _ lexeme => some lexeme.kind) last?,
            pending?, none⟩ more ∧
      found.map Token.lexeme = pieces.filterMap Piece.lexeme? := by
  induction pieces generalizing depth last? with
  | nil => exact ⟨[], rfl, rfl⟩
  | cons piece pieces ih =>
      rcases List.forall_mem_cons.mp clean with ⟨⟨_, isLexeme⟩, others⟩
      obtain ⟨kind, text, start, faults⟩ := piece
      cases kind with
      | gap =>
          rcases ih others depth last? with ⟨found, split, same⟩
          refine ⟨found, ?_, same⟩
          rw [List.filterMap_cons_none rfl, List.cons_append]
          exact split
      | lexeme kind value =>
          rcases ih others (kind.depthAfter depth) (some kind) with ⟨found, split, same⟩
          have spelled : Piece.lexeme? ⟨.lexeme kind value, text, start, faults⟩ =
              some ⟨kind, value⟩ := rfl
          rw [List.filterMap_cons_some spelled, List.cons_append]
          exact ⟨⟨kind, value, _⟩ :: found, congrArg (_ :: ·) split, congrArg (_ :: ·) same⟩
      | _ => simp [Piece.IsSpaces, Piece.lexeme?] at isLexeme

/-- Comments inside a line leave no token. -/
theorem tokens_comments {comments : List Piece} (said : Piece.AreComments comments) (depth : Nat)
    (last? : Option TokenKind) (pending? : Option Position) (more : List Piece) :
    tokens file stop ⟨depth, last?, pending?, none⟩ (comments ++ more) =
      tokens file stop ⟨depth, last?, pending?, none⟩ more := by
  induction comments with
  | nil => rfl
  | cons comment comments ih =>
      rcases List.forall_mem_cons.mp said with ⟨⟨_, isComment⟩, others⟩
      rw [List.cons_append, tokens.eq_def]
      simp only [isComment]
      exact ih others

/-- The beginning of a line after lines that are closed: nothing, or a line break that may end a
declaration, came before. -/
def State.atLine (before? : Option (TokenKind × Position)) : State :=
  ⟨0, before?.map (·.1), before?.map (·.2), some []⟩

/-- The `newline` token for a line break that came before. -/
def State.pendingLexemes (before? : Option (TokenKind × Position)) : List Lexeme :=
  if before?.isSome then [.newline] else []

/-- The first lexeme of a line ends the declaration before it. -/
theorem tokens_first (before? : Option (TokenKind × Position)) (kind : TokenKind) (value : String)
    (text : List Char) (start : Position) (faults : List LexicalFault) (more : List Piece) :
    (tokens file stop (.atLine before?) (⟨.lexeme kind value, text, start, faults⟩ :: more)).map
        Token.lexeme =
      State.pendingLexemes before? ++ ⟨kind, value⟩ ::
        (tokens file stop ⟨kind.depthAfter 0, some kind, none, none⟩ more).map Token.lexeme := by
  cases before? <;> rfl

/-- An empty line changes nothing. -/
theorem tokens_emptyLine {before? : Option (TokenKind × Position)}
    (closed : ∀ before ∈ before?, before.1.expectsMore = false) (place : Position)
    (rest : List Char) :
    tokens file stop (.atLine before?) (Piece.splitFrom place 0 ('\n' :: rest)) =
      tokens file stop (.atLine before?) (Piece.splitFrom (place.after ['\n']) 0 rest) := by
  rw [splitFrom_lineFeed]
  cases before? with
  | none => rfl
  | some before =>
      have mayEnd : (State.atLine (some before)).mayEnd = true := by
        simp [State.mayEnd, State.atLine, closed before rfl]
      rw [tokens, if_pos mayEnd]
      rfl

/-- A comment by itself changes nothing either. -/
theorem tokens_comment {text : String} (comment : Comment text)
    {before? : Option (TokenKind × Position)}
    (closed : ∀ before ∈ before?, before.1.expectsMore = false) (place : Position)
    (rest : List Char) :
    tokens file stop (.atLine before?) (Piece.splitFrom place 0 (text.toList ++ '\n' :: rest)) =
      tokens file stop (.atLine before?)
        (Piece.splitFrom ((place.after text.toList).after ['\n']) 0 rest) := by
  rcases comment.cut place rest with ⟨said, cut, _, isComment⟩
  rw [cut, splitFrom_lineFeed, tokens.eq_def]
  simp only [isComment]
  cases before? with
  | none => rfl
  | some before =>
      have mayEnd : (⟨0, some before.1, some before.2, none⟩ : State).mayEnd = true := by
        simp [State.mayEnd, closed before rfl]
      change tokens file stop ⟨0, some before.1, some before.2, none⟩ _ = _
      rw [tokens, if_pos mayEnd]
      rfl

/-- A line ends the declaration before it, and then gives its own lexemes. -/
theorem tokens_line {text : String} {row : List Lexeme} (line : Line text row) (place : Position)
    (before? : Option (TokenKind × Position)) (rest : List Char) :
    ∃ before, before.1.expectsMore = false ∧
      (tokens file stop (.atLine before?)
          (Piece.splitFrom place 0 (text.toList ++ '\n' :: rest))).map Token.lexeme =
        State.pendingLexemes before? ++ (row ++
          (tokens file stop (.atLine (some before))
            (Piece.splitFrom ((place.after text.toList).after ['\n']) 0 rest)).map
              Token.lexeme) := by
  rcases line.cut place rest with
    ⟨first, pieces, comments, cut, isLexeme, clean, said, found⟩
  rcases line.mayEnd with ⟨front, last, ends, expects⟩
  rw [cut, splitFrom_lineFeed]
  obtain ⟨kind, first, start, faults⟩ := first
  cases kind with
  | lexeme kind value =>
      have spelled : row = ⟨kind, value⟩ :: pieces.filterMap Piece.lexeme? := found.symm
      rcases tokens_clean file stop (List.forall_mem_cons.mp clean).2 (kind.depthAfter 0)
        (some kind) none (comments ++ ⟨.lineFeed, ['\n'], place.after text.toList, []⟩ ::
          Piece.splitFrom ((place.after text.toList).after ['\n']) 0 rest) with
        ⟨inside, cut, same⟩
      have depth : Lexeme.depthAfter (kind.depthAfter 0) (pieces.filterMap Piece.lexeme?) = 0 := by
        have balanced := line.balanced 0
        rwa [spelled] at balanced
      have lastKind : (pieces.filterMap Piece.lexeme?).foldl
          (fun _ lexeme => some lexeme.kind) (some kind) = some last.kind := by
        have whole : row.foldl (fun _ lexeme => some lexeme.kind) none = some last.kind := by
          rw [ends, List.foldl_append]
          rfl
        rwa [spelled] at whole
      have mayEnd : (⟨0, some last.kind, none, none⟩ : State).mayEnd = true := by
        simp [State.mayEnd, expects]
      refine ⟨(last.kind, place.after text.toList), expects, ?_⟩
      rw [depth, lastKind, tokens_comments file stop said, tokens, if_pos mayEnd] at cut
      rw [tokens_first, cut, List.map_append, same, spelled]
      rfl
  | _ => simp [Piece.lexeme?] at isLexeme

/-- Lines give their lexemes, with a `newline` token after each line that is not empty. -/
theorem tokens_ofLines {texts : List String} {rows : List (List Lexeme)}
    (each : List.Forall₂ Row texts rows) (place : Position)
    (before? : Option (TokenKind × Position))
    (closed : ∀ before ∈ before?, before.1.expectsMore = false) :
    (tokens file stop (.atLine before?) (Piece.splitFrom place 0 (Text.ofLines texts))).map
        Token.lexeme =
      State.pendingLexemes before? ++ Lexeme.closed rows := by
  induction each generalizing place before? with
  | nil => cases before? <;> rfl
  | @cons text row texts rows here others ih =>
      rw [Text.ofLines, List.flatMap_cons, List.append_assoc, List.singleton_append,
        ← Text.ofLines, Lexeme.closed, List.flatMap_cons, ← Lexeme.closed]
      cases here with
      | empty =>
          rw [String.toList_empty, List.nil_append, tokens_emptyLine file stop closed, if_pos rfl,
            List.nil_append]
          exact ih _ before? closed
      | comment comment =>
          rw [tokens_comment file stop comment closed, if_pos rfl, List.nil_append]
          exact ih _ before? closed
      | line line =>
          rcases tokens_line file stop line place before? (Text.ofLines texts) with
            ⟨before, expects, spelled⟩
          have nonempty : row ≠ [] := by
            rcases line.mayEnd with ⟨front, last, rfl, _⟩
            simp
          have later := ih ((place.after text.toList).after ['\n']) (some before)
            (fun other same => by rw [← Option.some.inj same]; exact expects)
          rw [spelled, later, if_neg nonempty, List.append_assoc]
          rfl

end Layout

/-- The tokens of lines. -/
theorem TokenStream.ofText_ofLines {text : String} {texts : List String}
    {rows : List (List Lexeme)} (written : text.toList = Text.ofLines texts)
    (each : List.Forall₂ Row texts rows) (file : String) :
    ∃ tokens finish, TokenStream.ofText file text = .ok ⟨tokens, finish⟩ ∧
      tokens.map Token.lexeme = Lexeme.closed rows ∧ finish.kind = .endOfText := by
  have clean := faults_ofLines each .first (Position.first.after text.toList)
  have spelled := Layout.tokens_ofLines file (Position.first.after text.toList) each .first none
    nofun
  rw [← written] at clean spelled
  refine ⟨_, finishAt file (Position.first.after text.toList), ?_, spelled, rfl⟩
  simp only [ofText, Piece.split, clean]
  rfl

end ClauseFlow

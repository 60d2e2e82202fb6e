import ClauseFlow.Proofs.Parse.Declarations
import ClauseFlow.Proofs.Token.Lines

/-!
# Reading printed expressions by themselves

A printed fragment without a line break gives just its lexemes as tokens. So the text of a single
expression is read as this expression, settled and up to places.
-/

namespace ClauseFlow

/-! ## Tokens -/

namespace Layout

/-- As long as no line break is pending, blanks and lexemes give the lexemes alone. -/
theorem tokens_unbroken (file : String) (stop : Position) {pieces : List Piece}
    (clean : Piece.Clean pieces) {state : State} (none : state.pending? = none) :
    (tokens file stop state pieces).map Token.lexeme = pieces.filterMap Piece.lexeme? := by
  induction pieces generalizing state with
  | nil =>
      rw [tokens, none]
      rfl
  | cons piece pieces ih =>
      rcases List.forall_mem_cons.mp clean with ⟨⟨_, isLexeme⟩, others⟩
      obtain ⟨kind, text, start, faults⟩ := piece
      cases kind with
      | gap =>
          rw [List.filterMap_cons_none rfl]
          exact ih others none
      | lexeme kind value =>
          have spelled : Piece.lexeme? ⟨.lexeme kind value, text, start, faults⟩ =
              some ⟨kind, value⟩ := rfl
          rw [List.filterMap_cons_some spelled]
          simp only [tokens, none, ite_self]
          cases state.decision
          all_goals exact congrArg (_ :: ·) (ih others rfl)
      | _ => simp [Piece.IsSpaces, Piece.lexeme?] at isLexeme

end Layout

/-- The tokens of a printed fragment. -/
theorem TokenStream.ofText_printed {text : String} {lexemes : List Lexeme}
    (printed : Printed text lexemes) (file : String) :
    ∃ tokens finish, TokenStream.ofText file text = .ok ⟨tokens, finish⟩ ∧
      tokens.map Token.lexeme = lexemes ∧ finish.kind = .endOfText := by
  have apart : Apart [] := trivial
  rcases printed.spells apart .first with ⟨pieces, split, clean, found⟩
  rw [List.append_nil, Piece.splitFrom, List.append_nil] at split
  have noFault : faults (Position.first.after text.toList) pieces = [] := by
    have closed : Layout.openBrackets pieces = 0 := by
      rw [openBrackets_eq, found]
      exact printed.balanced 0
    rw [faults, List.flatMap_eq_nil_iff.mpr fun piece member => (clean piece member).1, closed]
    rfl
  refine ⟨Layout.tokens file (Position.first.after text.toList) .initial pieces,
    finishAt file (Position.first.after text.toList), ?_, ?_, rfl⟩
  · simp only [ofText, Piece.split, split, noFault]
  · rw [Layout.tokens_unbroken file _ clean rfl, found]

namespace TokenStream

/-- Whether a text is cut into a single token. -/
def IsSingle (file text : String) (lexeme : Lexeme) : Prop :=
  ∃ token finish, ofText file text = .ok ⟨[token], finish⟩ ∧ token.lexeme = lexeme

theorem isSingle_of_printed {text : String} {lexeme : Lexeme} (printed : Printed text [lexeme])
    (file : String) : IsSingle file text lexeme := by
  rcases ofText_printed printed file with ⟨tokens, finish, streamed, same, _⟩
  rcases List.map_eq_singleton_iff.mp same with ⟨token, rfl, spelled⟩
  exact ⟨token, finish, streamed, spelled⟩

theorem isLegible_of_isSingle {file text : String} {lexeme : Lexeme}
    (single : IsSingle file text lexeme) : lexeme.isLegible = true := by
  rcases single with ⟨token, finish, streamed, rfl⟩
  exact (ofText_legible streamed).1 token (.head _)

end TokenStream

/-- Names are the texts that are a single name. -/
theorem isName_iff_isSingle (file name : String) :
    isName name = true ↔ TokenStream.IsSingle file name (.name name) :=
  ⟨fun isName => TokenStream.isSingle_of_printed (.name isName) file,
    fun single => TokenStream.isLegible_of_isSingle single⟩

theorem isTag_iff_isSingle (file tag : String) :
    isTag tag = true ↔ TokenStream.IsSingle file tag ⟨.typeName, tag⟩ := by
  constructor
  · intro isTag
    have word := isTag_iff.mp isTag
    exact TokenStream.isSingle_of_printed (.word word.1 word.2 rfl rfl rfl) file
  · exact fun single => TokenStream.isLegible_of_isSingle single

theorem isAtomName_iff_isSingle (file name : String) :
    isAtomName name = true ↔ TokenStream.IsSingle file (":" ++ name) ⟨.atom, name⟩ :=
  ⟨fun isAtomName => TokenStream.isSingle_of_printed (.atom isAtomName) file,
    fun single => TokenStream.isLegible_of_isSingle single⟩

/-! ## Expressions -/

namespace Parse

/-- No expression begins with a line break. -/
theorem differs_of_expression {depth power : Nat} {cursor next : Cursor} {expr : Expr}
    (outcome : expression depth power cursor = .ok expr next) :
    (cursor.tokens.headD cursor.finish).kind ≠ .newline := by
  intro isNewline
  cases depth with
  | zero => cases outcome
  | succ depth =>
      rw [expression] at outcome
      rcases bind_eq_ok.mp outcome with ⟨left, middle, started, _⟩
      rw [operand] at started
      rcases bind_eq_ok.mp started with ⟨token, _, looked, started⟩
      cases looked
      simp only [isNewline] at started
      cases started

end Parse

namespace Expr

open Parse

/-- A printed fragment that begins a chain of one part is read as its expression. -/
theorem read_of_chains {expr : Expr} {text : String} {lexemes : List Lexeme}
    (printed : Printed text lexemes) (chain : Chains False expr 0 lexemes) (file : String) :
    ∃ expr', Expr.read file text = .ok expr' ∧ expr.ReadsAs expr' := by
  rcases TokenStream.ofText_printed printed file with ⟨tokens, finish, streamed, same, ends⟩
  have read : TokenStream.read file text = .ok ⟨tokens, finish⟩ := by
    rw [TokenStream.read, streamed]
    rfl
  have fits : lexemes.length < tokens.length + 1 := by
    rw [← same, List.length_map]
    exact Nat.lt_succ_self _
  have reads := chain.readsExpr (tokens.length + 1) 0 fits (Nat.zero_le _)
  have mayEnd : Stops 0 (([] : List Token).headD finish).kind := by
    rw [List.headD_nil, ends]
    exact .of_plain rfl (by decide) (by decide) (by decide)
  rcases reads tokens [] finish [] same mayEnd with ⟨expr', outcome, readsAs⟩ | ⟨impossible, _⟩
  · rw [List.append_nil] at outcome
    have skips : skipNewlines ⟨tokens, finish, []⟩ = .ok () ⟨tokens, finish, []⟩ := by
      simp only [skipNewlines, Reads.dropWhile_newline (differs_of_expression outcome)]
    have whole : wholeExpression (tokens.length + 1) ⟨tokens, finish, []⟩ =
        .ok expr' ⟨[], finish, []⟩ := by
      refine bind_eq_ok.mpr ⟨⟨⟩, _, skips, bind_eq_ok.mpr ⟨expr', _, outcome,
        bind_eq_ok.mpr ⟨⟨⟩, ⟨[], finish, []⟩, rfl, bind_eq_ok.mpr ⟨finish, _, rfl, ?_⟩⟩⟩⟩
      simp only [ends, ne_eq, not_true_eq_false, if_false]
      rfl
    refine ⟨expr', ?_, readsAs⟩
    rw [Expr.read, read]
    change run (wholeExpression (tokens.length + 1)) ⟨tokens, finish⟩ = _
    rw [run, Cursor.ofStream, whole]
    rfl
  · exact impossible.elim

/-- The text of an expression is read as this expression, settled and up to places. -/
theorem read_print {expr : Expr} (spelled : expr.isSpelled = true)
    (short : expr.hasNotation = true) (file : String) :
    ∃ expr', Expr.read file (expr.print 0) = .ok expr' ∧ expr.ReadsAs expr' :=
  read_of_chains (printed 0 spelled) (chains spelled short (Nat.zero_le _)) file

end Expr
end ClauseFlow

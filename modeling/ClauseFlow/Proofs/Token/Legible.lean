import ClauseFlow.Proofs.Token.Spelling
import ClauseFlow.Token.Layout

/-!
# Legible tokens

What a token says fits its kind: a name is a word that is no keyword, a tag is a word that begins in
upper case, an atom has a name. All tokens of a text are legible.
-/

namespace ClauseFlow

/-- Whether what a lexeme says fits its kind. -/
def Lexeme.isLegible (lexeme : Lexeme) : Bool :=
  match lexeme.kind with
  | .name | .typeName => isWord lexeme.value && wordKind lexeme.value = lexeme.kind
  | .atom => isAtomName lexeme.value
  | _ => true

theorem wordKind_ne_atom (word : String) : wordKind word ≠ .atom := by
  rw [wordKind]
  split
  · rename_i keyword isKeyword
    rw [TokenKind.ofKeyword?.eq_def] at isKeyword
    rintro rfl
    split at isKeyword
    all_goals cases isKeyword
  · split
    all_goals decide

theorem Lexeme.isLegible_of_isWord {word : String} (isWord : isWord word = true) :
    (⟨wordKind word, word⟩ : Lexeme).isLegible = true := by
  rw [isLegible]
  split
  · simp [isWord]
  · simp [isWord]
  · rename_i isAtom
    exact absurd isAtom (wordKind_ne_atom word)
  · rfl

namespace Piece

def isLegible (kind : PieceKind) : Bool :=
  match kind with
  | .lexeme kind value => (⟨kind, value⟩ : Lexeme).isLegible
  | _ => true

/-! ## What is recognized -/

theorem isLegible_docComment (content : List Char) :
    isLegible (recognizeDocComment content).kind = true := by
  rw [recognizeDocComment.eq_def]
  split <;> rfl

theorem isLegible_text (place : Position) (rest : List Char) :
    isLegible (recognizeText place rest).kind = true := by
  rw [recognizeText]
  split <;> rfl

theorem isLegible_number (place : Position) (first : Char) (rest : List Char) :
    isLegible (recognizeNumber place first rest).kind = true := by
  have decimal (rest : List Char) : isLegible (recognizeDecimal first rest).kind = true := by
    rw [recognizeDecimal]
    simp only
    split
    · split <;> rfl
    · rfl
  rw [recognizeNumber.eq_def]
  split
  · split
    · rfl
    · exact decimal _
  · exact decimal _

theorem isLegible_atom {rest : List Char} (begins : beginsAtom rest = true) :
    isLegible (recognizeAtom rest).kind = true := by
  cases rest with
  | nil => cases begins
  | cons c rest =>
      have part : CharClass.isNamePart c = true := isNamePart_of_isNameStart begins
      simp only [recognizeAtom, isLegible, Lexeme.isLegible, isAtomName, String.toList_ofList,
        List.takeWhile_cons_of_pos part, Bool.and_eq_true, List.all_takeWhile, and_true]
      exact begins

theorem isLegible_word {first : Char} (starts : CharClass.isNameStart first = true)
    (noDigit : CharClass.isDigit first = false) (rest : List Char) :
    isLegible (recognizeWord first rest).kind = true := by
  have word : isWord (String.ofList (first :: rest.takeWhile CharClass.isNamePart)) = true := by
    rw [isWord, String.toList_ofList]
    simp only [starts, noDigit, Bool.not_false, Bool.true_and, List.all_takeWhile]
  rw [recognizeWord_eq]
  exact Lexeme.isLegible_of_isWord word

theorem isLegible_mark (place : Position) (first : Char) (rest : List Char) :
    isLegible (recognizeMark place first rest).kind = true := by
  have two {second : Char} {kind : TokenKind} (value : String)
      (found : twoCharKind? first second = some kind) :
      (⟨kind, value⟩ : Lexeme).isLegible = true := by
    rw [twoCharKind?.eq_def] at found
    split at found
    all_goals
      cases found
      try rfl
  have single : isLegible (recognizeSingle place first).kind = true := by
    rw [recognizeSingle, oneCharKind?.eq_def]
    split
    · rename_i found
      split at found
      all_goals
        cases found
        try rfl
    · rfl
  rw [recognizeMark.eq_def]
  split
  · rfl
  · split
    · rename_i found
      exact two _ found
    · exact single
  · exact single

theorem isLegible_recognize (place : Position) (first : Char) (rest : List Char) :
    isLegible (recognize place first rest).kind = true := by
  rw [recognize.eq_def]
  split_ifs
  · rfl
  · rfl
  · split
    · exact isLegible_docComment _
    · rfl
    · exact isLegible_text _ _
    · split_ifs with atom digit starts
      · rw [Bool.and_eq_true] at atom
        exact isLegible_atom atom.2
      · exact isLegible_number _ _ _
      · exact isLegible_word starts (by simpa using digit) _
      · exact isLegible_mark _ _ _

/-- What holds of everything recognized holds of all pieces. -/
theorem forall_mem_splitFrom {holds : PieceKind → Prop}
    (recognized : ∀ place first rest, holds (recognize place first rest).kind)
    {place : Position} {skip : Nat} {text : List Char} :
    ∀ piece ∈ splitFrom place skip text, holds piece.kind := by
  fun_induction splitFrom place skip text with
  | case1 => exact List.forall_mem_nil _
  | case2 place skip c rest ih => exact ih
  | case3 place c rest found text ih =>
      exact List.forall_mem_cons.mpr ⟨recognized place c rest, ih⟩

end Piece

/-! ## Tokens -/

/-- What holds of all pieces and of the mark between two declarations holds of all tokens. -/
theorem Layout.forall_mem_tokens {holds : PieceKind → Prop}
    (newline : holds (.lexeme .newline "\n")) {file : String} {stop : Position}
    {pieces : List Piece} (each : ∀ piece ∈ pieces, holds piece.kind) (state : State) :
    ∀ token ∈ tokens file stop state pieces, holds (.lexeme token.kind token.value) := by
  induction pieces generalizing state with
  | nil =>
      rw [tokens]
      split
      · exact List.forall_mem_singleton.mpr newline
      · exact List.forall_mem_nil _
  | cons piece pieces ih =>
      rcases List.forall_mem_cons.mp each with ⟨here, others⟩
      obtain ⟨kind, text, start, faults⟩ := piece
      cases kind with
      | lexeme kind value =>
          simp only [tokens]
          refine List.forall_mem_append.mpr ⟨?_, ?_⟩
          · split
            · exact List.forall_mem_singleton.mpr newline
            · exact List.forall_mem_nil _
          · exact List.forall_mem_cons.mpr ⟨here, ih others _⟩
      | _ => exact ih others _

namespace TokenStream

variable {file text : String} {stream : TokenStream}

/-- What holds of everything recognized and of the mark between two declarations holds of all tokens
of a text. -/
theorem forall_mem_ofText (holds : PieceKind → Prop) (newline : holds (.lexeme .newline "\n"))
    (recognized : ∀ place first rest, holds (Piece.recognize place first rest).kind)
    (streamed : ofText file text = .ok stream) :
    (∀ token ∈ stream.tokens, holds (.lexeme token.kind token.value)) ∧
      stream.finish.kind = .endOfText := by
  simp only [ofText] at streamed
  split at streamed
  · obtain rfl := Except.ok.inj streamed
    exact ⟨Layout.forall_mem_tokens newline (Piece.forall_mem_splitFrom recognized) _, rfl⟩
  · cases streamed

theorem ofText_legible (streamed : ofText file text = .ok stream) :
    (∀ token ∈ stream.tokens, token.lexeme.isLegible = true) ∧
      stream.finish.kind = .endOfText :=
  forall_mem_ofText (Piece.isLegible · = true) rfl Piece.isLegible_recognize streamed

end TokenStream
end ClauseFlow

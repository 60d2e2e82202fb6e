import ClauseFlow.Proofs.Token.Legible

/-!
# The end of a text is marked once

No token of a text is a mark of the end: the only one comes after all tokens.
-/

namespace ClauseFlow

theorem TokenKind.ofKeyword?_ne_endOfText (word : List Char) :
    ofKeyword? word ≠ some .endOfText := by
  intro found
  rw [ofKeyword?.eq_def] at found
  split at found
  all_goals cases found

namespace Piece

theorem twoCharKind?_ne_endOfText (first second : Char) :
    twoCharKind? first second ≠ some .endOfText := by
  intro found
  rw [twoCharKind?.eq_def] at found
  split at found
  all_goals cases found

theorem oneCharKind?_ne_endOfText (c : Char) : oneCharKind? c ≠ some .endOfText := by
  intro found
  rw [oneCharKind?.eq_def] at found
  split at found
  all_goals cases found

/-- Whether a piece is a lexeme that could mark the end of a text. -/
def marksEnd : PieceKind → Bool
  | .lexeme kind _ => kind = .endOfText
  | _ => false

theorem marksEnd_number (place : Position) (first : Char) (rest : List Char) :
    marksEnd (recognizeNumber place first rest).kind = false := by
  have decimal (rest : List Char) : marksEnd (recognizeDecimal first rest).kind = false := by
    rw [recognizeDecimal]
    simp only
    split
    · split <;> rfl
    · rfl
  rw [recognizeNumber.eq_def]
  split
  · split
    · rfl
    · exact decimal _
  · exact decimal _

theorem marksEnd_word (first : Char) (rest : List Char) :
    marksEnd (recognizeWord first rest).kind = false := by
  simp only [recognizeWord, marksEnd, decide_eq_false_iff_not]
  split
  · rename_i keyword found
    intro isEnd
    rw [isEnd] at found
    exact TokenKind.ofKeyword?_ne_endOfText _ found
  · split
    all_goals decide

theorem marksEnd_mark (place : Position) (first : Char) (rest : List Char) :
    marksEnd (recognizeMark place first rest).kind = false := by
  have single : marksEnd (recognizeSingle place first).kind = false := by
    rw [recognizeSingle]
    split
    · rename_i kind found
      rw [marksEnd, decide_eq_false_iff_not]
      rintro rfl
      exact oneCharKind?_ne_endOfText _ found
    · rfl
  rw [recognizeMark.eq_def]
  split
  · rfl
  · split
    · rename_i kind found
      rw [marksEnd, decide_eq_false_iff_not]
      rintro rfl
      exact twoCharKind?_ne_endOfText _ _ found
    · exact single
  · exact single

theorem marksEnd_recognize (place : Position) (first : Char) (rest : List Char) :
    marksEnd (recognize place first rest).kind = false := by
  rw [recognize.eq_def]
  split_ifs
  · rfl
  · rfl
  · split
    · rw [recognizeDocComment.eq_def]
      split <;> rfl
    · rfl
    · rw [recognizeText]
      split <;> rfl
    · split_ifs
      · rfl
      · exact marksEnd_number _ _ _
      · exact marksEnd_word _ _
      · exact marksEnd_mark _ _ _

end Piece

namespace TokenStream

/-- Whether the end is marked where all tokens are used up, and nowhere before. -/
structure IsSealed (stream : TokenStream) : Prop where
  before : ∀ token ∈ stream.tokens, token.kind ≠ .endOfText
  atEnd : stream.finish.kind = .endOfText

theorem ofText_isSealed {file text : String} {stream : TokenStream}
    (streamed : ofText file text = .ok stream) : stream.IsSealed := by
  obtain ⟨noEnd, atEnd⟩ :=
    forall_mem_ofText (Piece.marksEnd · = false) rfl Piece.marksEnd_recognize streamed
  exact ⟨fun token member => of_decide_eq_false (noEnd token member), atEnd⟩

end TokenStream
end ClauseFlow

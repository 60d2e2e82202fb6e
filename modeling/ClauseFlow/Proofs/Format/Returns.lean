import ClauseFlow.Proofs.Format.Preservation
import ClauseFlow.Proofs.Token.Returns

/-!
# Carriage returns in formatted modules

A text literal is printed with its carriage returns as they are, and nothing else is printed with
one. So a printed module is read from a file as it is if no text literal says a carriage return, and
else is not read at all.
-/

namespace ClauseFlow

namespace Text

@[simp]
theorem isReturnFree_natText (n : Nat) : isReturnFree (Numeral.natText n) = true := by
  rw [isReturnFree_iff, Numeral.natText, String.toList_ofList]
  exact Piece.notMem_of_all (Numeral.allDigits_toDigits n) (by decide)

@[simp]
theorem isReturnFree_intText (n : Int) : isReturnFree (Numeral.intText n) = true := by
  have minus : isReturnFree "-" = true := by decide
  rw [Numeral.intText]
  split <;> simp [minus]

theorem isReturnFree_of_isWord {text : String} (word : isWord text = true) :
    isReturnFree text = true := by
  rw [← String.ofList_toList (s := text)] at word
  rw [isReturnFree_iff]
  exact Piece.notMem_of_all (Piece.isNamePart_of_isWord word) (by decide)

theorem isReturnFree_of_isName {text : String} (name : isName text = true) :
    isReturnFree text = true :=
  isReturnFree_of_isWord (isName_iff.mp name).1

theorem isReturnFree_of_isTag {text : String} (tag : isTag text = true) :
    isReturnFree text = true :=
  isReturnFree_of_isWord (isTag_iff.mp tag).1

theorem isReturnFree_of_isAtomName {text : String} (name : isAtomName text = true) :
    isReturnFree text = true := by
  rw [← String.ofList_toList (s := text)] at name
  rw [isReturnFree_iff]
  exact Piece.notMem_of_all (Piece.of_isAtomName name).2 (by decide)

/-- A call of what has no carriage return. -/
theorem isReturnFree_call {callee : String} (plain : isReturnFree callee = true)
    (arguments : String) :
    isReturnFree (callee ++ "(" ++ arguments ++ ")") = isReturnFree arguments := by
  have opening : isReturnFree "(" = true := by decide
  have closing : isReturnFree ")" = true := by decide
  simp [plain, opening, closing]

end Text

open Text

/-- Numbers are written without carriage returns. -/
theorem Binary64.isReturnFree_text (x : Binary64) : isReturnFree x.text = true := by
  have unsigned {x : Binary64} (positive : x.isNegative = false) : isReturnFree x.text = true := by
    cases finite : x.isFinite with
    | true =>
        rcases pointed_text finite positive with
          ⟨whole, fraction, written, _, _, digits, digits', _⟩
        have noReturn {digits : List Char} (all : Numeral.AllDigits digits) : '\r' ∉ digits :=
          Piece.notMem_of_all all (by decide)
        rw [isReturnFree_iff, written]
        simp [noReturn digits, noReturn digits']
    | false =>
        cases x with
        | nan => decide
        | infinite sign =>
            obtain rfl : sign = false := positive
            decide
        | finite => cases finite
  cases negative : x.isNegative with
  | false => exact unsigned negative
  | true =>
      have minus : isReturnFree "-" = true := by decide
      rw [text_of_isNegative negative, isReturnFree_append, minus, unsigned x.isNegative_abs]
      rfl

/-! ## Patterns -/

/-- Whether a constant is no text with a carriage return. -/
def Literal.isReturnFree : Literal → Bool
  | .text value => Text.isReturnFree value
  | _ => true

theorem Literal.isReturnFree_print {value : Literal} (spelled : value.isSpelled = true) :
    Text.isReturnFree value.print = value.isReturnFree := by
  cases value with
  | nil => decide
  | boolean value => cases value <;> decide
  | integer value => exact isReturnFree_intText value
  | decimal value => exact value.isReturnFree_text
  | text value => exact isReturnFree_literal value
  | atom name =>
      have colon : Text.isReturnFree ":" = true := by decide
      rw [print, isReturnFree_append, colon, isReturnFree_of_isAtomName spelled]
      rfl

namespace Pattern

def isReturnFreePart : Pattern → Bool
  | .literal value _ => value.isReturnFree
  | _ => true

/-- Whether no text in a pattern has a carriage return. -/
def isReturnFree (pattern : Pattern) : Bool :=
  pattern.every isReturnFreePart

mutual

theorem isReturnFree_print : ∀ {pattern : Pattern}, pattern.isSpelled = true →
    Text.isReturnFree pattern.print = pattern.isReturnFree
  | .literal value _, spelled => Literal.isReturnFree_print spelled
  | .wildcard _, _ => (by decide : Text.isReturnFree "_" = true)
  | .binding name _, spelled => by
      simp only [isSpelled, every, isSpelledPart, Bool.and_eq_true] at spelled
      exact isReturnFree_of_isName spelled.1
  | .tuple elements _, spelled => by
      simp only [isSpelled, every, isSpelledPart, Bool.true_and] at spelled
      simp [print, isReturnFree, every, isReturnFreePart, allReturnFree_print spelled]
  | .list elements none _, spelled => by
      simp only [isSpelled, every, isSpelledPart, Bool.true_and] at spelled
      simp [print, isReturnFree, every, isReturnFreePart, allReturnFree_print spelled]
  | .list elements (some tail) _, spelled => by
      simp only [isSpelled, every, Bool.and_eq_true] at spelled
      have last := isReturnFree_print spelled.2
      simp [print, every, isReturnFreePart, allReturnFree_print spelled.1.2, last, isReturnFree]
  | .map entries _, spelled => by
      simp only [isSpelled, every, isSpelledPart, Bool.and_eq_true] at spelled
      have percent : Text.isReturnFree "%" = true := by decide
      simp [print, isReturnFree, every, isReturnFreePart, percent,
        entriesReturnFree_print spelled.1 spelled.2]
  | .record tag entries _, spelled => by
      simp only [isSpelled, every, isSpelledPart, Bool.and_eq_true] at spelled
      simp [print, isReturnFree, every, isReturnFreePart, isReturnFree_of_isTag spelled.1.1,
        entriesReturnFree_print spelled.1.2 spelled.2]
  | .result tag inner _, spelled => by
      simp only [isSpelled, every, isSpelledPart, Bool.true_and] at spelled
      rw [print, isReturnFree_call (isReturnFree_of_isWord tag.isWord_text),
        isReturnFree_print spelled]
      simp [isReturnFree, every, isReturnFreePart]
  | .named inner name _, spelled => by
      simp only [isSpelled, every, isSpelledPart, Bool.and_eq_true] at spelled
      have sign : Text.isReturnFree " = " = true := by decide
      have inside := isReturnFree_print spelled.2
      simp [print, every, isReturnFreePart, isReturnFree_of_isName spelled.1.1, sign, inside,
        isReturnFree]

theorem allReturnFree_print : ∀ {patterns : List Pattern},
    everyOfAll isSpelledPart patterns = true →
      (printAll patterns).all Text.isReturnFree = everyOfAll isReturnFreePart patterns
  | [], _ => rfl
  | pattern :: rest, spelled => by
      simp only [everyOfAll, Bool.and_eq_true] at spelled
      rw [printAll, List.all_cons, isReturnFree_print spelled.1, allReturnFree_print spelled.2]
      rfl

theorem entriesReturnFree_print : ∀ {entries : List (String × Pattern)},
    areKeys (entries.map (·.1)) = true → everyOfEntries isSpelledPart entries = true →
      ((printEntries entries).all fun entry =>
        Text.isReturnFree entry.1 && Text.isReturnFree entry.2) =
          everyOfEntries isReturnFreePart entries
  | [], _, _ => rfl
  | (key, pattern) :: rest, distinct, spelled => by
      simp only [everyOfEntries, Bool.and_eq_true] at spelled
      have keys := areKeys_cons distinct
      rw [printEntries, List.all_cons, isReturnFree_of_isName keys.1,
        isReturnFree_print spelled.1, entriesReturnFree_print keys.2 spelled.2, Bool.true_and]
      rfl

end

end Pattern

/-! ## Expressions -/

namespace Expr

theorem isReturnFree_parenthesized (own asked : Nat) (text : String) :
    Text.isReturnFree (parenthesized own asked text) = Text.isReturnFree text := by
  have opening : Text.isReturnFree "(" = true := by decide
  have closing : Text.isReturnFree ")" = true := by decide
  rw [parenthesized]
  split <;> simp [opening, closing]

theorem isReturnFree_infixed (own asked : Nat) (left right : String) {op : String}
    (plain : Text.isReturnFree op = true) :
    Text.isReturnFree (infixed own asked left op right) =
      (Text.isReturnFree left && Text.isReturnFree right) := by
  have blank : Text.isReturnFree " " = true := by decide
  simp [infixed, isReturnFree_parenthesized, blank, plain]

def isReturnFreePart : Expr → Bool
  | .text value _ => Text.isReturnFree value
  | _ => true

/-- Whether no text in an expression has a carriage return. -/
def isReturnFree (expr : Expr) : Bool :=
  expr.every isReturnFreePart

mutual

theorem isReturnFree_print : ∀ (asked : Nat) {expr : Expr}, expr.isSpelled = true →
    Text.isReturnFree (expr.print asked) = expr.isReturnFree
  | _, .integer value _, _ => isReturnFree_natText value
  | _, .decimal value _, _ => value.isReturnFree_text
  | _, .text value _, _ => isReturnFree_literal value
  | _, .atom name _, spelled => by
      have colon : Text.isReturnFree ":" = true := by decide
      rw [print, isReturnFree_append, colon, isReturnFree_of_isAtomName spelled]
      rfl
  | _, .boolean value _, _ => by
      cases value
      · exact (by decide : Text.isReturnFree "false" = true)
      · exact (by decide : Text.isReturnFree "true" = true)
  | _, .nil _, _ => (by decide : Text.isReturnFree "nil" = true)
  | _, .ident identifier, spelled => isReturnFree_of_isName spelled
  | _, .typeName name _, spelled => isReturnFree_of_isTag spelled
  | asked, .binary left op right _, spelled => by
      simp only [isSpelled, every, isSpelledPart, Bool.and_eq_true, true_and] at spelled
      have sign : Text.isReturnFree op.text = true := by cases op <;> decide
      rw [print, isReturnFree_infixed _ _ _ _ sign, isReturnFree_print _ spelled.1,
        isReturnFree_print _ spelled.2]
      simp [isReturnFree, every, isReturnFreePart]
  | asked, .unary .not operand _, spelled => by
      simp only [isSpelled, every, isSpelledPart, Bool.and_eq_true, true_and] at spelled
      have word : Text.isReturnFree "not " = true := by decide
      rw [print, isReturnFree_parenthesized, isReturnFree_append, word,
        isReturnFree_print _ spelled]
      simp [isReturnFree, every, isReturnFreePart]
  | asked, .unary .negate operand _, spelled => by
      simp only [isSpelled, every, isSpelledPart, Bool.and_eq_true, true_and] at spelled
      have sign : Text.isReturnFree "-" = true := by decide
      rw [print, isReturnFree_parenthesized, isReturnFree_append, sign,
        isReturnFree_print _ spelled]
      simp [isReturnFree, every, isReturnFreePart]
  | _, .call callee arguments _, spelled => by
      simp only [isSpelled, every, isSpelledPart, Bool.and_eq_true] at spelled
      rw [print, isReturnFree_call (isReturnFree_of_isName spelled.1), isReturnFree_commas,
        allReturnFree_print spelled.2]
      simp [isReturnFree, every, isReturnFreePart]
  | _, .delegate .., spelled => by simp [isSpelled, every, isSpelledPart] at spelled
  | _, .field subject name _, spelled => by
      simp only [isSpelled, every, isSpelledPart, Bool.and_eq_true] at spelled
      have point : Text.isReturnFree "." = true := by decide
      rw [print, isReturnFree_append, isReturnFree_append, point,
        isReturnFree_of_isName spelled.1, isReturnFree_print _ spelled.2]
      simp [isReturnFree, every, isReturnFreePart]
  | asked, .pipe left callee _, spelled => by
      simp only [isSpelled, every, isSpelledPart, Bool.and_eq_true] at spelled
      have sign : Text.isReturnFree "|>" = true := by decide
      rw [print, isReturnFree_infixed _ _ _ _ sign, isReturnFree_print _ spelled.2,
        isReturnFree_of_isName spelled.1]
      simp [isReturnFree, every, isReturnFreePart]
  | asked, .pipeCall left callee arguments _ _, spelled => by
      simp only [isSpelled, every, isSpelledPart, Bool.and_eq_true] at spelled
      have sign : Text.isReturnFree "|>" = true := by decide
      rw [print, isReturnFree_infixed _ _ _ _ sign, isReturnFree_print _ spelled.1.2,
        isReturnFree_call (isReturnFree_of_isName spelled.1.1), isReturnFree_commas,
        allReturnFree_print spelled.2]
      simp [isReturnFree, every, isReturnFreePart]
  | asked, .alternative left right _, spelled => by
      simp only [isSpelled, every, isSpelledPart, Bool.and_eq_true, true_and] at spelled
      have sign : Text.isReturnFree "<|>" = true := by decide
      rw [print, isReturnFree_infixed _ _ _ _ sign, isReturnFree_print _ spelled.1,
        isReturnFree_print _ spelled.2]
      simp [isReturnFree, every, isReturnFreePart]
  | _, .result tag value _, spelled => by
      simp only [isSpelled, every, isSpelledPart, Bool.and_eq_true, true_and] at spelled
      rw [print, isReturnFree_call (isReturnFree_of_isWord tag.isWord_text),
        isReturnFree_print 0 spelled]
      simp [isReturnFree, every, isReturnFreePart]
  | _, .tuple elements _, spelled => by
      simp only [isSpelled, every, isSpelledPart, Bool.and_eq_true, true_and] at spelled
      simp [print, isReturnFree, every, isReturnFreePart, allReturnFree_print spelled]
  | _, .list elements none _, spelled => by
      simp only [isSpelled, every, isSpelledPart, Bool.and_eq_true, true_and] at spelled
      simp [print, isReturnFree, every, isReturnFreePart, allReturnFree_print spelled]
  | _, .list elements (some tail) _, spelled => by
      simp only [isSpelled, every, isSpelledPart, Bool.and_eq_true] at spelled
      have last := isReturnFree_print 0 spelled.2
      simp [print, every, isReturnFreePart, allReturnFree_print spelled.1.2, last, isReturnFree]
  | _, .map entries _, spelled => by
      simp only [isSpelled, every, isSpelledPart, Bool.and_eq_true] at spelled
      have percent : Text.isReturnFree "%" = true := by decide
      simp [print, isReturnFree, every, isReturnFreePart, percent,
        entriesReturnFree_print spelled.1 spelled.2]
  | _, .record tag entries _, spelled => by
      simp only [isSpelled, every, isSpelledPart, Bool.and_eq_true] at spelled
      simp [print, isReturnFree, every, isReturnFreePart, isReturnFree_of_isTag spelled.1.1,
        entriesReturnFree_print spelled.1.2 spelled.2]
  | asked, .lambda params body _, spelled => by
      simp only [isSpelled, every, isSpelledPart, Bool.and_eq_true] at spelled
      have opening : Text.isReturnFree "fn(" = true := by decide
      have arrow : Text.isReturnFree ") -> " = true := by decide
      have names : params.all Text.isReturnFree = true := by
        rw [List.all_eq_true] at spelled ⊢
        exact fun name member => isReturnFree_of_isName (spelled.1 name member)
      have inside := isReturnFree_print 0 spelled.2
      simp [print, every, isReturnFreePart, isReturnFree_parenthesized, opening, arrow, names,
        inside, isReturnFree, - List.all_eq_true]
  | asked, .conditional condition thenBranch elseBranch _, spelled => by
      simp only [isSpelled, every, isSpelledPart, Bool.and_eq_true, true_and] at spelled
      have ifWord : Text.isReturnFree "if " = true := by decide
      have thenWord : Text.isReturnFree " then " = true := by decide
      have elseWord : Text.isReturnFree " else " = true := by decide
      rw [print, isReturnFree_parenthesized]
      simp only [isReturnFree_append, ifWord, thenWord, elseWord,
        isReturnFree_print 0 spelled.1.1, isReturnFree_print 0 spelled.1.2,
        isReturnFree_print 0 spelled.2]
      simp [isReturnFree, every, isReturnFreePart]

theorem allReturnFree_print : ∀ {exprs : List Expr}, everyOfAll isSpelledPart exprs = true →
    (printAll exprs).all Text.isReturnFree = everyOfAll isReturnFreePart exprs
  | [], _ => rfl
  | expr :: rest, spelled => by
      simp only [everyOfAll, Bool.and_eq_true] at spelled
      rw [printAll, List.all_cons, isReturnFree_print 0 spelled.1, allReturnFree_print spelled.2]
      rfl

theorem entriesReturnFree_print : ∀ {entries : List (String × Expr)},
    areKeys (entries.map (·.1)) = true → everyOfEntries isSpelledPart entries = true →
      ((printEntries entries).all fun entry =>
        Text.isReturnFree entry.1 && Text.isReturnFree entry.2) =
          everyOfEntries isReturnFreePart entries
  | [], _, _ => rfl
  | (key, expr) :: rest, distinct, spelled => by
      simp only [everyOfEntries, Bool.and_eq_true] at spelled
      have keys := areKeys_cons distinct
      rw [printEntries, List.all_cons, isReturnFree_of_isName keys.1,
        isReturnFree_print 0 spelled.1, entriesReturnFree_print keys.2 spelled.2, Bool.true_and]
      rfl

end

end Expr

/-! ## Declarations and modules -/

namespace Head

/-- Whether no text in a head has a carriage return. -/
def isReturnFree (head : Head) : Bool :=
  head.params.all Pattern.isReturnFree && (head.guard?.map Expr.isReturnFree).getD true

theorem isReturnFree_print {head : Head} (spelled : head.isSpelled = true) :
    Text.isReturnFree head.print = head.isReturnFree := by
  simp only [isSpelled, Bool.and_eq_true, List.all_eq_true] at spelled
  rcases spelled with ⟨⟨name, params⟩, guardSpelled⟩
  have params := Pattern.allReturnFree_print (Pattern.everyOfAll_iff.mpr params)
  have sameParams : Pattern.everyOfAll Pattern.isReturnFreePart head.params =
      head.params.all Pattern.isReturnFree := by
    rw [Bool.eq_iff_iff, Pattern.everyOfAll_iff, List.all_eq_true]
    rfl
  have plain : Text.isReturnFree
      (head.name ++ "(" ++ Text.commas (Pattern.printAll head.params) ++ ")") =
        head.params.all Pattern.isReturnFree := by
    rw [isReturnFree_call (isReturnFree_of_isName name), isReturnFree_commas, params, sameParams]
  rw [print, isReturnFree]
  cases guarded : head.guard? with
  | none => simpa using plain
  | some guard =>
      have word : Text.isReturnFree " when " = true := by decide
      have spelled : guard.isSpelled = true := by rwa [guarded] at guardSpelled
      rw [isReturnFree_append, isReturnFree_append, plain, word,
        Expr.isReturnFree_print 0 spelled, Bool.and_true]
      rfl

end Head

namespace Declaration

/-- Whether no text in a declaration has a carriage return. -/
def isReturnFree (declaration : Declaration) : Bool :=
  declaration.head.isReturnFree && declaration.body.isReturnFree

variable {declaration : Declaration}

theorem isReturnFree_codeText (spelled : declaration.isSpelled = true) :
    Text.isReturnFree declaration.codeText = declaration.isReturnFree := by
  simp only [isSpelled, Bool.and_eq_true] at spelled
  have keyword : Text.isReturnFree (if declaration.synthesized then "pipe" else "def") = true := by
    cases declaration.synthesized <;> decide
  have blank : Text.isReturnFree " " = true := by decide
  have arrow : Text.isReturnFree " -> " = true := by decide
  rw [codeText]
  simp only [isReturnFree_append, keyword, blank, arrow, Head.isReturnFree_print spelled.1,
    Expr.isReturnFree_print 0 spelled.2, Bool.true_and, Bool.and_true]
  rfl

theorem isReturnFree_docLine {text : String} (whole : Text.IsOneLine text.toList) :
    Text.isReturnFree (docLine text) = true := by
  have plain : Text.isReturnFree text = true := by
    rw [isReturnFree_iff]
    intro returns
    exact absurd (whole _ returns) (by decide)
  have slashes : Text.isReturnFree "/// " = true := by decide
  rw [docLine]
  split
  · decide
  · rw [isReturnFree_append, slashes, plain]
    rfl

theorem isReturnFree_printLines (spelled : declaration.isSpelled = true) :
    declaration.printLines.all Text.isReturnFree = declaration.isReturnFree := by
  have docs : (declaration.docTexts.map docLine).all Text.isReturnFree = true := by
    rw [List.all_map, List.all_eq_true]
    exact fun text member => isReturnFree_docLine (isOneLine_of_mem_docTexts text member)
  rw [printLines_eq, List.all_append, docs, List.all_cons, isReturnFree_codeText spelled]
  simp

/-- A declaration is printed without comments, apart from documentation. -/
theorem uncommented_printLines (spelled : declaration.isSpelled = true) :
    ∀ line ∈ declaration.printLines, Uncommented line := by
  rw [printLines_eq]
  refine List.forall_mem_append.mpr ⟨?_, List.forall_mem_singleton.mpr (code spelled).uncommented⟩
  intro line member
  rcases List.mem_map.mp member with ⟨text, inDocs, rfl⟩
  exact uncommented_of_lexes (lexes_docLine (isOneLine_of_mem_docTexts text inDocs))

end Declaration

namespace Module

variable {file text : String} {module : Module} {declarations : List Declaration}

/-- Whether no text in a module has a carriage return. -/
def isReturnFree (module : Module) : Bool :=
  module.declarations.all Declaration.isReturnFree

theorem isReturnFree_printLines
    (spelled : ∀ declaration ∈ declarations, declaration.isSpelled = true)
    (previous? : Option String) :
    (printLines previous? declarations).all Text.isReturnFree =
      declarations.all Declaration.isReturnFree := by
  induction declarations generalizing previous? with
  | nil => rfl
  | cons declaration rest ih =>
      rcases List.forall_mem_cons.mp spelled with ⟨here, others⟩
      have separator : (if startsGroup previous? declaration then [""] else []).all
          Text.isReturnFree = true := by
        split <;> decide
      rw [printLines, List.all_append, List.all_append, separator,
        Declaration.isReturnFree_printLines here, ih others]
      rfl

/-- A module is printed with a carriage return just where a text in it has one. -/
theorem isReturnFree_print (spelled : module.isSpelled = true) :
    Text.isReturnFree module.print = module.isReturnFree := by
  have feed : Text.isReturnFree "\n" = true := by decide
  rw [print, isReturnFree_append, isReturnFree_join feed, feed, Bool.and_true,
    isReturnFree_printLines (List.all_eq_true.mp spelled), isReturnFree]

theorem uncommented_printLines
    (spelled : ∀ declaration ∈ declarations, declaration.isSpelled = true)
    (previous? : Option String) :
    ∀ line ∈ printLines previous? declarations, Uncommented line := by
  induction declarations generalizing previous? with
  | nil => exact List.forall_mem_nil _
  | cons declaration rest ih =>
      rcases List.forall_mem_cons.mp spelled with ⟨here, others⟩
      rw [printLines]
      refine List.forall_mem_append.mpr ⟨List.forall_mem_append.mpr ⟨?_,
        Declaration.uncommented_printLines here⟩, ih others _⟩
      split
      · exact List.forall_mem_singleton.mpr uncommented_empty
      · exact List.forall_mem_nil _

/-! ## Reading from a file -/

/-- What is read of a printed module with a carriage return is no module. -/
theorem read_asRead_print_ne_ok (spelled : module.isSpelled = true)
    (returns : module.isReturnFree = false) (file : String) (module' : Module) :
    Module.read file (asRead module.print) ≠ .ok module' := by
  have some : module.declarations ≠ [] := by
    intro none
    rw [isReturnFree, none] at returns
    cases returns
  have inPrint : '\r' ∈ module.print.toList := by
    rw [← isReturnFree_eq_false_iff, isReturnFree_print spelled, returns]
  have unread := TokenStream.read_asRead_ne_ok (toList_print some)
    (uncommented_printLines (List.all_eq_true.mp spelled) none) inPrint file
  intro read
  rcases exists_run_of_read read with ⟨stream, streamed, _⟩
  exact unread stream streamed

/-- A module that was read and printed is read from a file as the same code just where no text in it
has a carriage return. -/
theorem read_asRead_print (read : Module.read file text = .ok module)
    (finite : module.isFinite = true) (short : module.hasNotation = true) (file' : String) :
    if module.isReturnFree then
      ∃ module', Module.read file' (asRead module.print) = .ok module' ∧ module'.bare = module.bare
    else ∀ module', Module.read file' (asRead module.print) ≠ .ok module' := by
  have spelled := isSpelled_of_read read
  split
  · rename_i plain
    have readable : ∀ declaration ∈ module.declarations, declaration.head.isReadable = true :=
      fun declaration member =>
        Declaration.isReadable_of_isFinite (List.all_eq_true.mp finite declaration member)
    rw [asRead_of_isReturnFree ((isReturnFree_print spelled).trans plain)]
    rcases read_print (isPrintable_of_read read short) readable file' with
      ⟨module', read', allRead⟩
    exact ⟨module', read', bare_of_readsAs allRead finite⟩
  · rename_i returns
    exact read_asRead_print_ne_ok spelled (Bool.eq_false_of_not_eq_true returns) file'

end Module
end ClauseFlow

import ClauseFlow.Clause.Listing
import ClauseFlow.Proofs.Clause.Listable

/-!
# Listings are source texts

A listing of clauses is written as the module of their declarations is: blank lines and comments
leave no lexeme. So the listing of the clauses of a module that has been read is itself read, one
declaration for each clause.
-/

namespace ClauseFlow

/-! ## Comments -/

/-- A remark after two slashes and a blank is a comment. -/
theorem Comment.remark {said : String} (noFeed : '\n' ∉ said.toList) :
    Comment ("// " ++ said) := by
  have noFeedAtAll : '\n' ∉ (" " ++ said).toList := by
    rw [String.toList_append]
    exact List.not_mem_cons_of_ne_of_not_mem (by decide) noFeed
  have begins : (" " ++ said).toList.head? ≠ some '/' := by
    rw [String.toList_append]
    exact fun same => absurd (Option.some.inj same) (by decide)
  have sameText : "// " ++ said = "//" ++ (" " ++ said) := by
    rw [← String.append_assoc]
    rfl
  rw [sameText]
  exact .of_slashes begins noFeedAtAll

theorem noFeed_of_isName {name : String} (isName : isName name = true) : '\n' ∉ name.toList := by
  intro member
  have word := (isName_iff.mp isName).1
  have noStart : CharClass.isNameStart '\n' = false := by decide
  have noPart : CharClass.isNamePart '\n' = false := by decide
  rw [isWord] at word
  cases written : name.toList with
  | nil =>
      rw [written] at member
      cases member
  | cons first further =>
      rw [written] at word member
      simp only [Bool.and_eq_true, List.all_eq_true] at word
      rcases List.mem_cons.mp member with rfl | later
      · rw [noStart] at word
        exact Bool.false_ne_true word.1.1
      · have part := word.2 _ later
        rw [noPart] at part
        cases part

theorem Signature.noFeed {signature : Signature} (isName : isName signature.name = true) :
    '\n' ∉ signature.text.toList := by
  have digits : '\n' ∉ (Numeral.natText signature.arity).toList := by
    rw [Numeral.natText, String.toList_ofList]
    intro member
    exact absurd (Numeral.allDigits_toDigits _ _ member) (by decide)
  rw [text, String.toList_append, String.toList_append, List.mem_append, List.mem_append]
  rintro ((member | member) | member)
  · exact noFeed_of_isName isName member
  · exact absurd member (by decide)
  · exact digits member

theorem ClauseKind.noFeed (kind : ClauseKind) : '\n' ∉ kind.text.toList := by
  cases kind <;> decide

namespace Clause

/-! ## Lines -/

/-- A clause is listed by the code of its declaration and its kind. -/
theorem listingLine_eq (clause : Clause) :
    clause.listingLine =
      clause.declaration.codeText ++ "  " ++ ("// " ++ clause.kind.text) := by
  have sameBody : clause.declaration.body.print 0 = clause.body.print 0 :=
    Expr.print_called clause.body 0
  have sameText : "  // " = "  " ++ "// " := rfl
  rw [listingLine, print, Declaration.codeText, sameBody, sameText]
  simp only [declaration, Bool.false_eq_true, if_false, ← String.append_assoc]
  rfl

theorem listingLine_line {clause : Clause} (spelled : clause.declaration.isSpelled = true) :
    Line clause.listingLine clause.declaration.lexemes := by
  rw [listingLine_eq]
  exact (Declaration.code spelled).remarked (.remark clause.kind.noFeed)

/-- The rows of lexemes of clauses that follow a clause of the function `previous?`. -/
def listingRows (previous? : Option Signature) : List Clause → List (List Lexeme)
  | [] => []
  | clause :: rest =>
      (listingHeader previous? clause.signature).map (fun _ => []) ++
        clause.declaration.lexemes :: listingRows (some clause.signature) rest

theorem listingHeader_rows {signature : Signature} (isName : isName signature.name = true)
    (previous? : Option Signature) :
    List.Forall₂ Row (listingHeader previous? signature)
      ((listingHeader previous? signature).map fun _ => []) := by
  have comment : Row ("// " ++ signature.text) [] :=
    .comment (.remark (Signature.noFeed isName))
  rw [listingHeader]
  split
  · exact .nil
  · split
    · exact .cons .empty (.cons comment .nil)
    · exact .cons comment .nil

/-- Whether a clause is one whose declaration the reader finds, of the function that it names. -/
structure IsSpelled (clause : Clause) : Prop where
  declaration : clause.declaration.isSpelled = true
  sameName : clause.signature.name = clause.head.name

theorem listingLines_rows {clauses : List Clause} (spelled : ∀ clause ∈ clauses, clause.IsSpelled)
    (previous? : Option Signature) :
    List.Forall₂ Row (listingLines previous? clauses) (listingRows previous? clauses) := by
  induction clauses generalizing previous? with
  | nil => exact .nil
  | cons clause rest ih =>
      rcases List.forall_mem_cons.mp spelled with ⟨here, others⟩
      have name : isName clause.signature.name = true := by
        have head := here.declaration
        simp only [Declaration.isSpelled, Head.isSpelled, Bool.and_eq_true] at head
        rw [here.sameName]
        exact head.1.1.1
      rw [listingLines, listingRows]
      exact List.rel_append (listingHeader_rows name previous?)
        (.cons (.line (listingLine_line here.declaration)) (ih others _))

/-- Headers leave no trace. -/
theorem closed_listingRows (previous? : Option Signature) (clauses : List Clause) :
    Lexeme.closed (listingRows previous? clauses) =
      (clauses.map declaration).flatMap fun declaration => Lexeme.closed declaration.rows := by
  have noLexeme (lines : List String) : Lexeme.closed (lines.map fun _ => []) = [] := by
    rw [Lexeme.closed, List.flatMap_map]
    exact List.flatMap_eq_nil_iff.mpr fun _ _ => rfl
  induction clauses generalizing previous? with
  | nil => rfl
  | cons clause rest ih =>
      have own : clause.declaration.rows = [clause.declaration.lexemes] := rfl
      rw [listingRows, Module.closed_append, noLexeme, List.nil_append, List.map_cons,
        List.flatMap_cons, ← ih (some clause.signature), own, ← Module.closed_append]
      rfl

theorem toList_listing (clauses : List Clause) :
    (listing clauses).toList = Text.ofLines (listingLines none clauses) := by
  rw [listing, String.toList_join, List.flatMap_map, Text.ofLines]
  exact congrArg (List.flatMap · _) (funext fun line => String.toList_append)

end Clause

/-! ## Reading a listing -/

/-- A declaration with finite numbers and no documentation is read as itself again. -/
theorem Declaration.settled_eq_unplaced {declaration : Declaration}
    (finite : declaration.isFinite = true) (silent : declaration.doc? = none) :
    declaration.settled = declaration.unplaced := by
  simp only [isFinite, Bool.and_eq_true] at finite
  have body : declaration.body.settled = declaration.body.unplaced :=
    Expr.settled_eq_unplaced finite.2
  have noDoc : docOf? declaration.docTexts = none := by
    rw [docTexts, silent]
    rfl
  rw [settled, unplaced, Head.settled_eq_unplaced finite.1, body, noDoc, silent]

/-- So are several ones. -/
theorem Declaration.map_unplaced_of_readsAs {declarations declarations' : List Declaration}
    (allRead : List.Forall₂ ReadsAs declarations declarations')
    (plain : ∀ declaration ∈ declarations, declaration.isFinite = true ∧ declaration.doc? = none) :
    declarations'.map unplaced = declarations.map unplaced := by
  have plainReads : List.Forall₂ (fun declaration declaration' =>
      (declaration.isFinite = true ∧ declaration.doc? = none) ∧ ReadsAs declaration declaration')
      declarations declarations' :=
    (List.forall₂_and_left _ _).mpr ⟨plain, allRead⟩
  have each : List.Forall₂ (· = ·) (declarations.map unplaced) (declarations'.map unplaced) := by
    rw [List.forall₂_map_left_iff, List.forall₂_map_right_iff]
    exact plainReads.imp fun _ _ both =>
      (both.2.trans (settled_eq_unplaced both.1.1 both.1.2)).symm
  rw [List.forall₂_eq_eq_eq] at each
  exact each.symm

namespace Clause

/-- The declarations of clauses as a module. -/
def asModule (clauses : List Clause) : Module :=
  ⟨clauses.map declaration, .generated⟩

/-- The tokens of a listing spell the declarations of its clauses. -/
theorem isWrittenAs_listing {clauses : List Clause}
    (spelled : ∀ clause ∈ clauses, clause.IsSpelled) (file : String) :
    (asModule clauses).IsWrittenAs file (listing clauses) := by
  have whole := TokenStream.ofText_ofLines (toList_listing clauses)
    (listingLines_rows spelled none) file
  rwa [closed_listingRows none clauses] at whole

variable {file text : String} {module : Module}

theorem name_of_mem_ofDeclarations {declarations : List Declaration} {clause : Clause}
    (member : clause ∈ ofDeclarations declarations) :
    clause.signature.name = clause.head.name := by
  rcases exists_of_mem_ofDeclarations member with ⟨kind, declaration, _, _, order, rfl⟩
  rw [Declaration.clauseOf_signature]
  cases kind with
  | errorPassthrough => rfl
  | default | okUnwrap => exact (Head.withParams_name _ _).symm

/-- The listing of the clauses of a module that has been read is read again: all numbers in it have
a notation, and it declares, in the order of the clauses, the head and the body of each of them, as
a `def` and up to places. -/
theorem listing_reads (read : Module.read file text = .ok module)
    (finite : module.isFinite = true) (short : module.hasNotation = true) (file' : String) :
    (∀ clause ∈ ofDeclarations module.declarations, clause.hasNotation = true) ∧
      ∃ module',
        Module.read file' (listing (ofDeclarations module.declarations)) = .ok module' ∧
          module'.declarations.map Declaration.unplaced =
            (ofDeclarations module.declarations).map fun clause => clause.declaration.unplaced := by
  have listable := isListable_ofDeclarations (Module.isListable_of_read read finite short)
  have found (clause : Clause) (member : clause ∈ ofDeclarations module.declarations) :
      clause.declaration.isSpelled = true ∧ clause.declaration.isFinite = true ∧
        clause.declaration.hasNotation = true :=
    Declaration.isListable_iff.mp (listable clause member)
  constructor
  · intro clause member
    have notated := (found clause member).2.2
    rwa [Declaration.hasNotation, declaration, Expr.hasNotation_called] at notated
  · have written := isWrittenAs_listing (fun clause member =>
      ⟨(found clause member).1, name_of_mem_ofDeclarations member⟩) file'
    have printable : ∀ declaration ∈ (asModule (ofDeclarations module.declarations)).declarations,
        declaration.IsPrintable := List.forall_mem_map.mpr fun clause member =>
      ⟨(found clause member).1, (found clause member).2.2⟩
    have readable : ∀ declaration ∈ (asModule (ofDeclarations module.declarations)).declarations,
        declaration.head.isReadable = true := List.forall_mem_map.mpr fun clause member =>
      Declaration.isReadable_of_isFinite (found clause member).2.1
    rcases written.read printable readable with ⟨module', read', allRead⟩
    have same := Declaration.map_unplaced_of_readsAs allRead
      (List.forall_mem_map.mpr fun clause member => ⟨(found clause member).2.1, rfl⟩)
    rw [asModule, List.map_map] at same
    exact ⟨module', read', same⟩

/-- Clauses with real names for anonymous ones, at several depths, and with a guard. -/
def renamedSource : String :=
  "pipe join(_, \x7b1 = one, _\x7d, [_h | t], %\x7bk: Pt\x7by: _\x7d\x7d) when one == x -> t\n" ++
    "def join(x, y) -> x |> join(y)\n"

theorem listing_reads_renamedSource :
    ∃ module module', Module.read "source" renamedSource = .ok module ∧
      module.isFinite = true ∧ module.hasNotation = true ∧
      (ofDeclarations module.declarations).map Clause.kind =
        [.errorPassthrough, .okUnwrap, .default, .default] ∧
      (∀ clause ∈ ofDeclarations module.declarations, clause.hasNotation = true) ∧
      Module.read "listing" (listing (ofDeclarations module.declarations)) = .ok module' ∧
      module'.declarations.map Declaration.unplaced =
        (ofDeclarations module.declarations).map fun clause => clause.declaration.unplaced := by
  have found : (Module.read "source" renamedSource).toOption.any
      (fun module => module.isFinite && module.hasNotation &&
        (ofDeclarations module.declarations).map Clause.kind =
          [.errorPassthrough, .okUnwrap, .default, .default]) = true := by
    decide +kernel
  rcases Module.exists_of_any_read found with ⟨module, read, all⟩
  rcases Bool.and_eq_true_iff.mp all with ⟨both, kinds⟩
  rcases Bool.and_eq_true_iff.mp both with ⟨finite, short⟩
  rcases listing_reads read finite short "listing" with ⟨notated, module', read', same⟩
  exact ⟨module, module', read, finite, short, of_decide_eq_true kinds, notated, read', same⟩

end Clause
end ClauseFlow

import ClauseFlow.Proofs.Parse.Expressions
import ClauseFlow.Proofs.Parse.Recovery

/-!
# Reading printed modules

The text that a module is printed as is read as this module, settled and up to places.
-/

namespace ClauseFlow

/-! ## What is printed legibly -/

/-- Whether no constant in the patterns of a head is negative infinity. -/
def Head.isReadable (head : Head) : Bool :=
  head.params.all Pattern.isReadable

namespace Declaration

/-- Whether the second declaration is what the first one is read as again, up to places. -/
def ReadsAs (declaration declaration' : Declaration) : Prop :=
  declaration'.unplaced = declaration.settled

/-- Whether a declaration is one that the reader finds and all its numbers have a notation. -/
structure IsPrintable (declaration : Declaration) : Prop where
  spelled : declaration.isSpelled = true
  short : declaration.hasNotation = true

end Declaration

namespace Parse

variable {excuse : Prop}

/-! ## Heads -/

theorem allHaveNotation_iff {patterns : List Pattern} :
    Pattern.allHaveNotation patterns = true ↔
      ∀ pattern ∈ patterns, pattern.hasNotation = true := by
  induction patterns with
  | nil => simp [Pattern.allHaveNotation]
  | cons pattern rest ih => simp [Pattern.allHaveNotation, ih]

/-- The parameters of a head, up to the closing parenthesis. -/
theorem headParams_read {params : List Pattern} {depth : Nat}
    (spelled : ∀ pattern ∈ params, pattern.isSpelled = true)
    (readable : ∀ pattern ∈ params, pattern.isReadable = true ∨ excuse)
    (short : ∀ pattern ∈ params, pattern.hasNotation = true)
    (fits : (Lexeme.listed (params.map Pattern.lexemes)).length < depth) :
    Reads excuse (separated (Parse.pattern depth) .rightParen depth true)
      (Lexeme.listed (params.map Pattern.lexemes)) (fun kind => kind = .rightParen)
      (fun found => found.map Pattern.unplaced = params.map Pattern.settled) := by
  have starts : ∀ pattern ∈ params, Starts pattern.lexemes :=
    fun pattern member => (Pattern.printed (spelled pattern member)).starts
  have each : ∀ pattern ∈ params, ReadsCore excuse pattern := fun pattern member =>
    core_reads (spelled pattern member) (readable pattern member) (short pattern member)
  apply (separated_within rfl starts endsPattern_marks.1 endsPattern_marks.2.2.1
    (whole_within each depth) fits).mono
  intro found allRead
  have same := Pattern.rebuildAll_of_readsAs allRead
  rwa [Pattern.rebuildAll_eq, Pattern.rebuildAll_eq] at same

theorem head_reads {head : Head} (spelled : head.isSpelled = true)
    (readable : head.isReadable = true ∨ excuse) (short : head.hasNotation = true) {depth : Nat}
    (fits : head.lexemes.length < depth) :
    Reads excuse (Parse.head depth) head.lexemes (fun kind => kind = .arrow)
      (fun head' => head'.unplaced = head.settled) := by
  simp only [Head.isSpelled, Head.isReadable, Head.hasNotation, Bool.and_eq_true,
    List.all_eq_true] at spelled readable short
  rcases spelled with ⟨⟨_, params⟩, guardSpelled⟩
  have paramsReadable : ∀ pattern ∈ head.params, pattern.isReadable = true ∨ excuse :=
    fun pattern member => readable.imp_left fun each => each pattern member
  rcases short with ⟨paramsShort, guardShort⟩
  simp only [Head.lexemes, Lexeme.parenthesized, Lexeme.enclosed, List.cons_append,
    List.append_assoc, List.nil_append, List.length_cons, List.length_append] at fits ⊢
  rw [Parse.head]
  apply Reads.expected
  intro place
  apply Reads.skip_expected
  have shorter : (Lexeme.listed (head.params.map Pattern.lexemes)).length < depth := by omega
  have closes {guardLexemes : List Lexeme} : Meets (fun kind => kind = .rightParen)
      (⟨.rightParen, ")"⟩ :: guardLexemes) (fun kind => kind = .arrow) := rfl
  apply Reads.bind (headParams_read params paramsReadable (allHaveNotation_iff.mp paramsShort) shorter)
    closes
  intro found same
  apply Reads.expected
  intro place'
  cases head with
  | plain function =>
      apply Reads.at_end
      rintro kind rfl
      simp only [reduceCtorEq, decide_false, Bool.false_eq_true, if_false]
      exact .answer (congrArg (fun params => Head.plain ⟨function.name, params, .generated⟩) same)
  | guarded function guard span =>
      have chain : Chains excuse guard 0 (guard.lexemes 0) :=
        chains guardSpelled guardShort (Nat.zero_le _)
      have noOperator : ∀ kind, kind = TokenKind.arrow → Stops 0 kind := by
        rintro kind rfl
        exact .of_plain rfl (by decide) (by decide) (by decide)
      have enough : (guard.lexemes 0).length < depth := by
        simp only [Head.guard?, List.length_cons] at fits
        omega
      apply Reads.at_head
      simp only [decide_true, if_true]
      apply Reads.skip
      apply Reads.bind_last ((chain.readsExpr depth 0 enough (Nat.zero_le _)).narrow noOperator)
      intro guard' read
      exact .answer (congrArg₂ (fun params guard =>
        Head.guarded ⟨function.name, params, .generated⟩ guard .generated) same read)

/-! ## Line breaks and documentation -/

namespace Reads

theorem dropWhile_newline {rest : List Token} {finish : Token}
    (differs : (rest.headD finish).kind ≠ .newline) :
    rest.dropWhile (fun token => token.kind = .newline) = rest := by
  cases rest with
  | nil => rfl
  | cons token rest => exact List.dropWhile_cons_of_neg (by simpa using differs)

theorem skipNewlines_none : Reads excuse skipNewlines [] (· ≠ .newline) (fun _ => True) := by
  intro tokens rest finish errors spelled differs
  obtain rfl := List.map_eq_nil_iff.mp spelled
  refine .inl ⟨⟨⟩, ?_, trivial⟩
  simp only [skipNewlines, List.nil_append, dropWhile_newline differs]

theorem skipNewlines_one : Reads excuse skipNewlines [.newline] (· ≠ .newline) (fun _ => True) := by
  intro tokens rest finish errors spelled differs
  rcases List.map_eq_singleton_iff.mp spelled with ⟨token, rfl, same⟩
  have isNewline : token.kind = .newline := congrArg Lexeme.kind same
  refine .inl ⟨⟨⟩, ?_, trivial⟩
  simp only [skipNewlines, List.singleton_append, List.dropWhile_cons, isNewline, decide_true,
    if_true, dropWhile_newline differs]

end Reads

/-- What may come after documentation: the keyword of a declaration. -/
def BeginsCode (kind : TokenKind) : Prop :=
  kind = .pipeKeyword ∨ kind = .defKeyword

/-- The lexemes of documentation. -/
def docLexemes (texts : List String) : List Lexeme :=
  texts.flatMap fun text => [Declaration.docLexeme text, .newline]

theorem docComments_read (texts : List String) {fuel : Nat} (enough : texts.length < fuel) :
    Reads excuse (docComments fuel) (docLexemes texts) BeginsCode (fun found => found = texts) := by
  have noComment (kind : TokenKind) (begins : BeginsCode kind) :
      kind ≠ .docComment ∧ kind ≠ .newline := by
    rcases begins with rfl | rfl
    all_goals decide
  induction texts generalizing fuel with
  | nil =>
      cases fuel with
      | zero => cases enough
      | succ fuel =>
          rw [docComments]
          apply Reads.at_end
          intro kind begins
          simp only [(noComment kind begins).1, decide_false, Bool.false_eq_true, if_false]
          exact .answer rfl
  | cons text texts ih =>
      cases fuel with
      | zero => cases enough
      | succ fuel =>
          have later := ih (Nat.lt_of_succ_lt_succ enough)
          have meets : Meets (· ≠ .newline) (docLexemes texts) BeginsCode := by
            cases texts with
            | nil => exact fun kind begins => (noComment kind begins).2
            | cons _ _ =>
                change TokenKind.docComment ≠ .newline
                decide
          rw [docComments]
          apply Reads.at_head
          simp only [decide_true, if_true]
          apply Reads.bind Reads.take Meets.any
          rintro ⟨kind, value, span⟩ same
          cases same
          apply Reads.bind Reads.skipNewlines_one meets
          intro _ _
          apply Reads.bind_last later
          rintro found rfl
          exact .answer rfl

/-! ## Declarations -/

theorem closed_rows_eq (declaration : Declaration) :
    Lexeme.closed declaration.rows =
      docLexemes declaration.docTexts ++ (declaration.lexemes ++ [.newline]) := by
  have some : declaration.lexemes ≠ [] := by
    rw [Declaration.lexemes, List.cons_append]
    exact List.cons_ne_nil _ _
  rw [Declaration.rows, Module.closed_append, Lexeme.closed, Lexeme.closed, List.flatMap_map,
    List.flatMap_singleton, if_neg some]
  rfl

theorem keyword_beginsCode (declaration : Declaration) : BeginsCode declaration.keyword.kind := by
  rw [Declaration.keyword]
  split
  · exact .inl rfl
  · exact .inr rfl

/-- A declaration begins with documentation or a keyword. -/
theorem meets_declaration {allowed follow : TokenKind → Prop} (comment : allowed .docComment)
    (code : ∀ kind, BeginsCode kind → allowed kind) (declaration : Declaration)
    (more : List Lexeme) :
    Meets allowed (docLexemes declaration.docTexts ++ (declaration.lexemes ++ more)) follow := by
  cases declaration.docTexts with
  | nil => exact code _ (keyword_beginsCode declaration)
  | cons _ _ => exact comment

theorem declaration_reads {declaration : Declaration} (printable : declaration.IsPrintable)
    (readable : declaration.head.isReadable = true ∨ excuse) {depth : Nat} (docFits : declaration.docTexts.length < depth)
    (fits : declaration.lexemes.length < depth) :
    Reads excuse (Parse.declaration depth) (docLexemes declaration.docTexts ++ declaration.lexemes)
      (fun kind => kind = .newline)
      (fun found? => ∃ found, found? = some found ∧ declaration.ReadsAs found) := by
  have spelled := printable.spelled
  have short := printable.short
  simp only [Declaration.isSpelled, Declaration.hasNotation, Bool.and_eq_true] at spelled short
  have noNewline : ∀ kind, BeginsCode kind → kind ≠ .newline := by
    rintro kind (rfl | rfl)
    all_goals decide
  have differs : Meets (· ≠ .newline) (docLexemes declaration.docTexts ++ declaration.lexemes)
      (fun kind => kind = .newline) := by
    rw [← List.append_nil declaration.lexemes]
    exact meets_declaration (by decide) noNewline declaration []
  have meets : Meets BeginsCode declaration.lexemes (fun kind => kind = .newline) := by
    exact keyword_beginsCode declaration
  rw [Parse.declaration]
  apply Reads.bind Reads.skipNewlines_none differs
  intro _ _
  apply Reads.bind (docComments_read declaration.docTexts docFits) meets
  rintro comments rfl
  simp only
  have headFits : declaration.head.lexemes.length < depth := by
    simp only [Declaration.lexemes, List.cons_append, List.length_cons, List.length_append]
      at fits
    omega
  have bodyFits : (declaration.body.lexemes 0).length < depth := by
    simp only [Declaration.lexemes, List.cons_append, List.length_cons, List.length_append]
      at fits
    omega
  have arrowNext : Meets (fun kind => kind = .arrow)
      (Lexeme.arrow :: declaration.body.lexemes 0) (fun kind => kind = .newline) := rfl
  have chain : Chains excuse declaration.body 0 (declaration.body.lexemes 0) :=
    chains spelled.2 short.2 (Nat.zero_le _)
  have noOperator : ∀ kind, kind = TokenKind.newline → Stops 0 kind := by
    rintro kind rfl
    exact .of_plain rfl (by decide) (by decide) (by decide)
  rw [Declaration.lexemes, Declaration.keyword, List.cons_append]
  cases synthesized : declaration.synthesized
  all_goals
    apply Reads.peek
    intro place
    simp only
    apply Reads.skip
    apply Reads.bind (head_reads spelled.1 readable short.1 headFits) arrowNext
    intro head' sameHead
    apply Reads.skip_expected
    apply Reads.bind_last ((chain.readsExpr depth 0 bodyFits (Nat.zero_le _)).narrow noOperator)
    intro body' sameBody
    apply Reads.peek_end
    intro token ends
    simp only [ends, decide_true, Bool.true_or, if_true]
    refine .answer ⟨_, rfl, ?_⟩
    simp only [Expr.ReadsAs] at sameBody
    simp only [Declaration.ReadsAs, Declaration.unplaced, Declaration.settled, sameHead, sameBody,
      synthesized, Declaration.docOf?, reduceCtorEq, decide_false]

/-! ## Modules -/

/-- Declarations begin with no line break. -/
theorem meets_declarations (found : List Declaration) :
    Meets (· ≠ .newline) (found.flatMap fun declaration => Lexeme.closed declaration.rows)
      (fun kind => kind = .endOfText) := by
  cases found with
  | nil =>
      rintro kind rfl
      decide
  | cons declaration rest =>
      rw [List.flatMap_cons, closed_rows_eq, List.append_assoc, List.append_assoc]
      apply meets_declaration (by decide)
      rintro kind (rfl | rfl)
      all_goals decide

theorem strictDeclarations_read {found : List Declaration}
    (printable : ∀ declaration ∈ found, declaration.IsPrintable)
    (readable : ∀ declaration ∈ found, declaration.head.isReadable = true ∨ excuse) {depth : Nat}
    (docsFit : ∀ declaration ∈ found, declaration.docTexts.length < depth)
    (fit : ∀ declaration ∈ found, declaration.lexemes.length < depth) {fuel : Nat}
    (enough : found.length < fuel) :
    Reads excuse (strictDeclarations depth fuel)
      (found.flatMap fun declaration => Lexeme.closed declaration.rows)
      (fun kind => kind = .endOfText) (List.Forall₂ Declaration.ReadsAs found) := by
  induction found generalizing fuel with
  | nil =>
      cases fuel with
      | zero => cases enough
      | succ fuel =>
          rw [strictDeclarations]
          apply Reads.at_end
          rintro kind rfl
          simp only [decide_true, if_true]
          exact .answer .nil
  | cons declaration rest ih =>
      cases fuel with
      | zero => cases enough
      | succ fuel =>
          have here := declaration_reads (printable _ (.head _)) (readable _ (.head _))
            (docsFit _ (.head _)) (fit _ (.head _))
          have later := ih (fun other member => printable other (.tail _ member))
            (fun other member => readable other (.tail _ member))
            (fun other member => docsFit other (.tail _ member))
            (fun other member => fit other (.tail _ member)) (Nat.lt_of_succ_lt_succ enough)
          have begins : Meets (· ≠ .endOfText) ((docLexemes declaration.docTexts ++
              declaration.lexemes) ++ (.newline :: rest.flatMap fun declaration =>
                Lexeme.closed declaration.rows)) (fun kind => kind = .endOfText) := by
            rw [List.append_assoc]
            apply meets_declaration (by decide)
            rintro kind (rfl | rfl)
            all_goals decide
          have newlineNext : Meets (fun kind => kind = .newline) (.newline :: rest.flatMap
              fun declaration => Lexeme.closed declaration.rows)
              (fun kind => kind = .endOfText) := rfl
          rw [strictDeclarations, List.flatMap_cons, closed_rows_eq, List.append_assoc, List.append_assoc,
            List.singleton_append, ← List.append_assoc]
          apply Reads.at_other begins
          simp only [Bool.false_eq_true, if_false]
          apply Reads.bind here newlineNext
          rintro _ ⟨found, rfl, read⟩
          apply Reads.bind Reads.skipNewlines_one (meets_declarations rest)
          intro _ _
          apply Reads.bind_last later
          intro others allRead
          exact .answer (.cons read allRead)

theorem length_docLexemes (texts : List String) :
    (docLexemes texts).length = 2 * texts.length := by
  induction texts with
  | nil => rfl
  | cons text texts ih =>
      rw [docLexemes] at ih
      rw [docLexemes, List.flatMap_cons, List.length_append, ih, List.length_cons]
      exact Nat.add_comm 2 _

/-- A declaration is no longer than the module it is in. -/
theorem length_le_module {module : Module} {declaration : Declaration}
    (member : declaration ∈ module.declarations) :
    declaration.docTexts.length ≤ module.lexemes.length ∧
      declaration.lexemes.length ≤ module.lexemes.length := by
  have whole : (Lexeme.closed declaration.rows).length ≤ module.lexemes.length := by
    rcases List.mem_iff_append.mp member with ⟨before, after, same⟩
    rw [Module.lexemes, same, List.flatMap_append, List.flatMap_cons, List.length_append,
      List.length_append]
    omega
  rw [closed_rows_eq, List.length_append, List.length_append, length_docLexemes] at whole
  omega

theorem count_le_module (module : Module) :
    module.declarations.length ≤ module.lexemes.length := by
  rw [Module.lexemes]
  induction module.declarations with
  | nil => exact Nat.le_refl 0
  | cons declaration rest ih =>
      rw [List.flatMap_cons, closed_rows_eq, List.length_append, List.length_append,
        List.length_append, List.length_singleton, List.length_cons]
      omega

/-- The declarations of a module are read from its lexemes. -/
theorem moduleDeclarations_read {module : Module}
    (printable : ∀ declaration ∈ module.declarations, declaration.IsPrintable)
    (readable : ∀ declaration ∈ module.declarations,
      declaration.head.isReadable = true ∨ excuse) {limit : Nat}
    (fits : module.lexemes.length < limit) :
    Reads excuse (strictDeclarations limit limit) module.lexemes (fun kind => kind = .endOfText)
      (List.Forall₂ Declaration.ReadsAs module.declarations) :=
  strictDeclarations_read printable readable
    (fun _ member => Nat.lt_of_le_of_lt (length_le_module member).1 fits)
    (fun _ member => Nat.lt_of_le_of_lt (length_le_module member).2 fits)
    (Nat.lt_of_le_of_lt (count_le_module module) fits)

/-- If the answer passes a test, there is an answer. -/
theorem exists_of_any_answer {α : Type} {outcome : Except Rejection α} {test : α → Bool}
    (holds : outcome.toOption.any test = true) :
    ∃ answer, outcome = .ok answer ∧ test answer = true := by
  cases outcome with
  | error rejection => cases holds
  | ok answer => exact ⟨answer, rfl, holds⟩

end Parse

namespace Module

variable {module module' : Module} {file text : String}

open Parse

theorem exists_of_any_read {test : Module → Bool}
    (holds : (Module.read file text).toOption.any test = true) :
    ∃ module, Module.read file text = .ok module ∧ test module = true :=
  Parse.exists_of_any_answer holds

theorem isPrintable_of_read (read : Module.read file text = .ok module)
    (short : module.hasNotation = true) :
    ∀ declaration ∈ module.declarations, declaration.IsPrintable :=
  fun declaration member =>
    ⟨List.all_eq_true.mp (isSpelled_of_read read) declaration member,
      List.all_eq_true.mp short declaration member⟩

/-- Whether the tokens of a text spell the declarations of a module. -/
def IsWrittenAs (module : Module) (file text : String) : Prop :=
  ∃ tokens finish, TokenStream.ofText file text = .ok ⟨tokens, finish⟩ ∧
    tokens.map Token.lexeme = module.lexemes ∧ finish.kind = .endOfText

/-- A text is read from the tokens that spell it. -/
theorem IsWrittenAs.tokens (written : module.IsWrittenAs file text) :
    ∃ tokens finish, tokens.map Token.lexeme = module.lexemes ∧
      (Cursor.ofStream ⟨tokens, finish⟩).IsLegible ∧
      skipNewlines ⟨tokens, finish, []⟩ = .ok () ⟨tokens, finish, []⟩ ∧
      Module.read file text = run (wholeModule (tokens.length + 1)) ⟨tokens, finish⟩ := by
  rcases written with ⟨tokens, finish, streamed, same, ends⟩
  refine ⟨tokens, finish, same, TokenStream.ofText_legible streamed, ?_, ?_⟩
  · have begins : Meets (· ≠ .newline) module.lexemes (fun kind => kind = .endOfText) :=
      meets_declarations module.declarations
    have differs : ((tokens ++ []).headD finish).kind ≠ .newline := begins.next same ends
    rw [List.append_nil] at differs
    simp only [skipNewlines, Reads.dropWhile_newline differs]
  · have read : TokenStream.read file text = .ok ⟨tokens, finish⟩ := by
      rw [TokenStream.read, streamed]
      rfl
    rw [Module.read, read]
    rfl

/-- A text that spells a module is read as this module, settled and up to places. -/
theorem IsWrittenAs.read (written : module.IsWrittenAs file text)
    (printable : ∀ declaration ∈ module.declarations, declaration.IsPrintable)
    (readable : ∀ declaration ∈ module.declarations, declaration.head.isReadable = true) :
    ∃ module', Module.read file text = .ok module' ∧
      List.Forall₂ Declaration.ReadsAs module.declarations module'.declarations := by
  rcases written.tokens with ⟨tokens, finish, same, legible, skips, read⟩
  have fits : module.lexemes.length < tokens.length + 1 := by
    rw [← same, List.length_map]
    exact Nat.lt_succ_self _
  have reads : Reads False (strictDeclarations _ _) _ _ _ := moduleDeclarations_read printable
    (fun declaration member => .inl (readable declaration member)) fits
  rcases reads tokens [] finish [] same legible.2 with
    ⟨found, outcome, allRead⟩ | ⟨impossible, _⟩
  · rw [List.append_nil] at outcome
    have whole : ∃ span, wholeModule (tokens.length + 1) ⟨tokens, finish, []⟩ =
        .ok ⟨found, span⟩ ⟨[], finish, []⟩ :=
      ⟨_, bind_eq_ok.mpr ⟨⟨⟩, _, skips, bind_eq_ok.mpr
        ⟨found, _, declarations_of_strict outcome, bind_eq_ok.mpr ⟨_, _, rfl, rfl⟩⟩⟩⟩
    rcases whole with ⟨span, whole⟩
    refine ⟨⟨found, span⟩, ?_, allRead⟩
    rw [read, run, Cursor.ofStream, whole]
    rfl
  · exact impossible.elim

theorem isWrittenAs_print
    (printable : ∀ declaration ∈ module.declarations, declaration.IsPrintable) (file : String) :
    module.IsWrittenAs file module.print :=
  ofText_print (List.all_eq_true.mpr fun declaration member =>
    (printable declaration member).spelled) file

/-- The text of a module is read as this module, settled and up to places. -/
theorem read_print
    (printable : ∀ declaration ∈ module.declarations, declaration.IsPrintable)
    (readable : ∀ declaration ∈ module.declarations, declaration.head.isReadable = true)
    (file : String) :
    ∃ module', Module.read file module.print = .ok module' ∧
      List.Forall₂ Declaration.ReadsAs module.declarations module'.declarations :=
  (isWrittenAs_print printable file).read printable readable

/-- What the text of a module is read as is this module, settled and up to places, if it is read at
all. -/
theorem readsAs_of_read_print
    (printable : ∀ declaration ∈ module.declarations, declaration.IsPrintable)
    (read : Module.read file module.print = .ok module') :
    List.Forall₂ Declaration.ReadsAs module.declarations module'.declarations := by
  rcases (isWrittenAs_print printable file).tokens with
    ⟨tokens, finish, same, legible, skips, read'⟩
  have fits : module.lexemes.length < tokens.length + 1 := by
    rw [← same, List.length_map]
    exact Nat.lt_succ_self _
  have reads : Reads True (strictDeclarations _ _) _ _ _ := moduleDeclarations_read printable
    (fun _ _ => .inr trivial) fits
  rw [read', run, Cursor.ofStream] at read
  split at read
  · rename_i found next whole
    split at read
    · rename_i clean
      rcases bind_eq_ok.mp whole with ⟨_, middle, skipped, whole⟩
      cases skips.symm.trans skipped
      rcases bind_eq_ok.mp whole with ⟨declarations, middle, declared, whole⟩
      cases whole
      cases read
      have strict := strictDeclarations_of_clean legible declared (List.isEmpty_iff.mp clean)
      rcases reads tokens [] finish [] same legible.2 with
        ⟨found, outcome, allRead⟩ | ⟨_, next', outcome⟩
      all_goals
        rw [List.append_nil] at outcome
        cases strict.symm.trans outcome
      exact allRead
    · cases read
  all_goals cases read

end Module
end ClauseFlow

import ClauseFlow.Proofs.Parse.Progress
import ClauseFlow.Proofs.Parse.Single

/-!
# Redundant parentheses

An expression may be written with more parentheses than it is printed with: around the whole, around
any expression in it, and around the names that are called. However many there are, the text is read
as the same expression.
-/

namespace ClauseFlow

namespace Expr

/-- A text between any number of pairs of parentheses. -/
inductive Enclosed (inner : String) : String → Prop where
  | bare : Enclosed inner inner
  | more {text : String} : Enclosed inner text → Enclosed inner ("(" ++ text ++ ")")

mutual

/-- The texts of an expression in a place that asks for a precedence: it is printed, with further
pairs of parentheses around any of the expressions and called names in it. -/
inductive Spelling : (asked : Nat) → Expr → String → Prop where
  | more {asked : Nat} {expr : Expr} {text : String} :
      Spelling 0 expr text → Spelling asked expr ("(" ++ text ++ ")")
  | integer {asked value : Nat} {span : Span} :
      Spelling asked (.integer value span) (Numeral.natText value)
  | decimal {asked : Nat} {value : Binary64} {span : Span} :
      Spelling asked (.decimal value span) value.text
  | text {asked : Nat} {value : String} {span : Span} :
      Spelling asked (.text value span) (Text.literal value)
  | atom {asked : Nat} {name : String} {span : Span} :
      Spelling asked (.atom name span) (":" ++ name)
  | boolean {asked : Nat} {value : Bool} {span : Span} :
      Spelling asked (.boolean value span) (if value then "true" else "false")
  | nil {asked : Nat} {span : Span} : Spelling asked (.nil span) "nil"
  | ident {asked : Nat} {identifier : Identifier} :
      Spelling asked (.ident identifier) identifier.name
  | typeName {asked : Nat} {name : String} {span : Span} :
      Spelling asked (.typeName name span) name
  | binary {asked : Nat} {left right : Expr} {op : BinaryOp} {span : Span}
      {leftText rightText : String} :
      Spelling op.precedence left leftText → Spelling (op.precedence + 1) right rightText →
      Spelling asked (.binary left op right span)
        (infixed op.precedence asked leftText op.text rightText)
  | denied {asked : Nat} {operand : Expr} {span : Span} {text : String} :
      Spelling signPrecedence operand text →
      Spelling asked (.unary .not operand span)
        (parenthesized signPrecedence asked ("not " ++ text))
  | negated {asked : Nat} {operand : Expr} {span : Span} {text : String} :
      Spelling signPrecedence operand text →
      Spelling asked (.unary .negate operand span)
        (parenthesized signPrecedence asked ("-" ++ text))
  | call {asked : Nat} {callee : Identifier} {arguments : List Expr} {span : Span}
      {calleeText : String} {texts : List String} :
      Enclosed callee.name calleeText → AllSpelling arguments texts →
      Spelling asked (.call callee arguments span)
        (calleeText ++ "(" ++ Text.commas texts ++ ")")
  | field {asked : Nat} {subject : Expr} {name : String} {span : Span} {text : String} :
      Spelling fieldPrecedence subject text →
      Spelling asked (.field subject name span) (text ++ "." ++ name)
  | pipe {asked : Nat} {left : Expr} {callee : Identifier} {span : Span}
      {leftText calleeText : String} :
      Spelling pipePrecedence left leftText → Enclosed callee.name calleeText →
      Spelling asked (.pipe left callee span)
        (infixed pipePrecedence asked leftText "|>" calleeText)
  | pipeCall {asked : Nat} {left : Expr} {callee : Identifier} {arguments : List Expr}
      {callSpan span : Span} {leftText callText : String} :
      Spelling pipePrecedence left leftText →
      Spelling (pipePrecedence + 1) (.call callee arguments callSpan) callText →
      Spelling asked (.pipeCall left callee arguments callSpan span)
        (infixed pipePrecedence asked leftText "|>" callText)
  | alternative {asked : Nat} {left right : Expr} {span : Span} {leftText rightText : String} :
      Spelling alternativePrecedence left leftText →
      Spelling (alternativePrecedence + 1) right rightText →
      Spelling asked (.alternative left right span)
        (infixed alternativePrecedence asked leftText "<|>" rightText)
  | result {asked : Nat} {tag : ResultTag} {value : Expr} {span : Span} {text : String} :
      Spelling 0 value text →
      Spelling asked (.result tag value span) (tag.text ++ "(" ++ text ++ ")")
  | tuple {asked : Nat} {elements : List Expr} {span : Span} {texts : List String} :
      AllSpelling elements texts →
      Spelling asked (.tuple elements span) (Text.braced (Text.commas texts))
  | list {asked : Nat} {elements : List Expr} {span : Span} {texts : List String} :
      AllSpelling elements texts →
      Spelling asked (.list elements none span) (Text.bracketed (Text.commas texts) none)
  | listWithTail {asked : Nat} {elements : List Expr} {tail : Expr} {span : Span}
      {texts : List String} {tailText : String} :
      AllSpelling elements texts → Spelling 0 tail tailText →
      Spelling asked (.list elements (some tail) span)
        (Text.bracketed (Text.commas texts) (some tailText))
  | map {asked : Nat} {entries : List (String × Expr)} {span : Span}
      {texts : List (String × String)} :
      EntriesSpelling entries texts →
      Spelling asked (.map entries span) ("%" ++ Text.braced (Text.keyed texts))
  | record {asked : Nat} {tag : String} {entries : List (String × Expr)} {span : Span}
      {texts : List (String × String)} :
      EntriesSpelling entries texts →
      Spelling asked (.record tag entries span) (tag ++ Text.braced (Text.keyed texts))
  | lambda {asked : Nat} {params : List String} {body : Expr} {span : Span} {text : String} :
      Spelling 0 body text →
      Spelling asked (.lambda params body span)
        (parenthesized 0 asked ("fn(" ++ Text.commas params ++ ") -> " ++ text))
  | conditional {asked : Nat} {condition thenBranch elseBranch : Expr} {span : Span}
      {conditionText thenText elseText : String} :
      Spelling 0 condition conditionText → Spelling 0 thenBranch thenText →
      Spelling 0 elseBranch elseText →
      Spelling asked (.conditional condition thenBranch elseBranch span)
        (parenthesized 0 asked
          ("if " ++ conditionText ++ " then " ++ thenText ++ " else " ++ elseText))

inductive AllSpelling : List Expr → List String → Prop where
  | nil : AllSpelling [] []
  | cons {expr : Expr} {rest : List Expr} {text : String} {texts : List String} :
      Spelling 0 expr text → AllSpelling rest texts → AllSpelling (expr :: rest) (text :: texts)

inductive EntriesSpelling : List (String × Expr) → List (String × String) → Prop where
  | nil : EntriesSpelling [] []
  | cons {key : String} {expr : Expr} {rest : List (String × Expr)} {text : String}
      {texts : List (String × String)} :
      Spelling 0 expr text → EntriesSpelling rest texts →
      EntriesSpelling ((key, expr) :: rest) ((key, text) :: texts)

end

end Expr

namespace Parse

open ClauseFlow.Expr (ReadsAs Enclosed Spelling AllSpelling EntriesSpelling)

variable {excuse : Prop}

/-- Whether a text is printed as lexemes that are read as an expression. -/
def IsWritten (excuse : Prop) (expr : Expr) (asked : Nat) (text : String) : Prop :=
  ∃ lexemes, Printed text lexemes ∧ Chains excuse expr asked lexemes

namespace IsWritten

variable {expr : Expr} {asked own : Nat} {text : String}

theorem more (written : IsWritten excuse expr 0 text) :
    IsWritten excuse expr asked ("(" ++ text ++ ")") := by
  rcases written with ⟨lexemes, printed, chains⟩
  exact ⟨_, .parenthesized printed.toSpelled, .parenthesized chains.readsExpr⟩

theorem grouped {lexemes : List Lexeme} (printed : Printed text lexemes)
    (bare : ∀ asked, asked ≤ own → Chains excuse expr asked lexemes) :
    IsWritten excuse expr asked (Expr.parenthesized own asked text) :=
  ⟨_, printed.grouped own asked, .grouped bare⟩

end IsWritten

/-- Whether lexemes are read as a name, whatever follows. -/
def NameReads (excuse : Prop) (name : String) (lexemes : List Lexeme) : Prop :=
  ∀ depth, lexemes.length ≤ depth →
    Reads excuse (operand (expression depth) depth) lexemes (fun _ => True)
      (fun found => ∃ place, found = .ident ⟨name, place⟩)

theorem NameReads.chains {identifier : Identifier} {lexemes : List Lexeme} {asked : Nat}
    (reads : NameReads excuse identifier.name lexemes) (nonempty : lexemes ≠ []) :
    Chains excuse (.ident identifier) asked lexemes := by
  apply Chains.of_operand nonempty
  intro depth fits
  apply ((reads depth fits).narrow fun _ _ => trivial).mono
  rintro _ ⟨place, rfl⟩
  rfl

/-- A called name is read as this name, however many parentheses are around it. -/
theorem exists_nameReads {identifier : Identifier} {text : String}
    (isName : isName identifier.name = true) (enclosed : Enclosed identifier.name text) :
    ∃ lexemes, Printed text lexemes ∧ NameReads excuse identifier.name lexemes := by
  induction enclosed with
  | bare => exact ⟨_, .name isName, fun depth _ => name_reads _ depth identifier.name⟩
  | more _ ih =>
      rcases ih with ⟨lexemes, printed, reads⟩
      refine ⟨_, .parenthesized printed.toSpelled, ?_⟩
      intro depth fits
      have chains : Chains excuse (.ident identifier) 0 lexemes := reads.chains printed.starts.ne_nil
      exact (parenthesized_reads chains.readsExpr fits).mono fun _ read => read.ident

/-! ## All spellings -/

mutual

/-- Every spelling of an expression is read as this expression. -/
theorem isWritten_of_spelling : ∀ {asked : Nat} {expr : Expr} {text : String},
    Spelling asked expr text → expr.isSpelled = true → expr.hasNotation = true →
      asked ≤ Expr.fieldPrecedence → IsWritten excuse expr asked text
  | _, _, _, .more inner => fun spelled short _ =>
      (isWritten_of_spelling inner spelled short (Nat.zero_le _)).more
  | asked, .integer value span, _, .integer => fun _ short _ =>
      ⟨(Expr.integer value span).lexemes asked, .integer value, integer_chains short⟩
  | _, .decimal value span, _, .decimal => by
      intro spelled _ _
      simp only [Expr.isSpelled, Expr.every, Expr.isSpelledPart, Bool.and_eq_true,
        Bool.not_eq_true'] at spelled
      exact ⟨_, Binary64.printed_text spelled.1, decimal_chains spelled.1 span⟩
  | _, .text value span, _, .text => fun _ _ _ => ⟨_, .text value, text_chains value span⟩
  | _, .atom name span, _, .atom => fun spelled _ _ => ⟨_, .atom spelled, atom_chains name span⟩
  | _, .boolean value span, _, .boolean => fun _ _ _ =>
      ⟨_, .boolean value, boolean_chains value span⟩
  | _, .nil span, _, .nil => fun _ _ _ => ⟨_, .nil, nil_chains span⟩
  | _, .ident identifier, _, .ident => fun spelled _ _ =>
      ⟨_, .name spelled, ident_chains identifier⟩
  | _, .typeName name span, _, .typeName => by
      intro spelled _ _
      have tag := isTag_iff.mp (show isTag name = true from spelled)
      exact ⟨_, .word tag.1 tag.2 rfl rfl rfl, typeName_chains name span⟩
  | _, .binary left op right span, _, .binary leftSpelling rightSpelling => by
      intro spelled short _
      simp only [Expr.isSpelled, Expr.every, Expr.isSpelledPart, Expr.hasNotation,
        Bool.and_eq_true, true_and] at spelled short
      have bounds := BinaryOp.precedence_bounds op
      obtain ⟨_, leftPrinted, leftChains⟩ :=
        isWritten_of_spelling leftSpelling spelled.1 short.1 (by omega)
      obtain ⟨_, rightPrinted, rightChains⟩ :=
        isWritten_of_spelling rightSpelling spelled.2 short.2 (by omega)
      exact .grouped (leftPrinted.infixed op.lexeme_mem_spacedMarks rightPrinted)
        fun _ loose => binary_chains span leftChains rightChains.readsExpr loose
  | _, .unary .not operand span, _, .denied spelling => by
      intro spelled short _
      simp only [Expr.isSpelled, Expr.every, Expr.isSpelledPart, Expr.hasNotation,
        Bool.and_eq_true, true_and] at spelled short
      obtain ⟨_, printed, chains⟩ := isWritten_of_spelling spelling spelled short (by decide)
      exact .grouped printed.denied fun _ loose => unary_chains span chains.readsExpr loose
  | _, .unary .negate operand span, _, .negated spelling => by
      intro spelled short _
      simp only [Expr.isSpelled, Expr.every, Expr.isSpelledPart, Expr.hasNotation,
        Bool.and_eq_true, true_and] at spelled short
      obtain ⟨_, printed, chains⟩ := isWritten_of_spelling spelling spelled short (by decide)
      exact .grouped printed.negated fun _ loose => unary_chains span chains.readsExpr loose
  | _, .call callee arguments span, _, .call enclosed spellings => by
      intro spelled short _
      simp only [Expr.isSpelled, Expr.every, Expr.isSpelledPart, Bool.and_eq_true] at spelled
      obtain ⟨_, calleePrinted, calleeReads⟩ := exists_nameReads spelled.1 enclosed
      obtain ⟨_, printed, parts⟩ := exists_parts spellings spelled.2 short
      exact ⟨_, calleePrinted.applied (.listed printed), call_chains callee span calleeReads parts⟩
  | _, .field subject name span, _, .field spelling => by
      intro spelled short loose
      simp only [Expr.isSpelled, Expr.every, Expr.isSpelledPart, Bool.and_eq_true] at spelled
      have word := isName_iff.mp (show isName name = true from spelled.1)
      obtain ⟨_, printed, chains⟩ :=
        isWritten_of_spelling spelling spelled.2 short (Nat.le_refl _)
      exact ⟨_, printed.field word.1 word.2, field_chains name span chains loose⟩
  | _, .pipe left callee span, _, .pipe leftSpelling enclosed => by
      intro spelled short _
      simp only [Expr.isSpelled, Expr.every, Expr.isSpelledPart, Bool.and_eq_true] at spelled
      obtain ⟨_, leftPrinted, leftChains⟩ :=
        isWritten_of_spelling leftSpelling spelled.2 short (by decide)
      obtain ⟨_, calleePrinted, calleeReads⟩ := exists_nameReads spelled.1 enclosed
      have mark : Lexeme.pipeArrow ∈ spacedMarks := by decide
      have calleeChains : Chains excuse (.ident callee) (Expr.pipePrecedence + 1) _ :=
        calleeReads.chains calleePrinted.starts.ne_nil
      exact .grouped (leftPrinted.infixed mark calleePrinted) fun _ loose =>
        pipe_chains leftChains calleeChains.readsExpr (fun _ _ => combine_pipe span) loose
  | _, .pipeCall left callee arguments callSpan span, _, .pipeCall leftSpelling callSpelling => by
      intro spelled short _
      simp only [Expr.isSpelled, Expr.every, Expr.isSpelledPart, Expr.hasNotation,
        Bool.and_eq_true] at spelled short
      obtain ⟨_, leftPrinted, leftChains⟩ :=
        isWritten_of_spelling leftSpelling spelled.1.2 short.1 (by decide)
      have callSpelled : (Expr.call callee arguments callSpan).isSpelled = true := by
        simp only [Expr.isSpelled, Expr.every, Expr.isSpelledPart, spelled.1.1, spelled.2,
          Bool.and_self]
      obtain ⟨_, callPrinted, callChains⟩ :=
        isWritten_of_spelling callSpelling callSpelled short.2 (by decide)
      have mark : Lexeme.pipeArrow ∈ spacedMarks := by decide
      exact .grouped (leftPrinted.infixed mark callPrinted) fun _ loose =>
        pipe_chains leftChains callChains.readsExpr (fun _ _ => combine_pipeCall callSpan span)
          loose
  | _, .alternative left right span, _, .alternative leftSpelling rightSpelling => by
      intro spelled short _
      simp only [Expr.isSpelled, Expr.every, Expr.isSpelledPart, Expr.hasNotation,
        Bool.and_eq_true, true_and] at spelled short
      obtain ⟨_, leftPrinted, leftChains⟩ :=
        isWritten_of_spelling leftSpelling spelled.1 short.1 (by decide)
      obtain ⟨_, rightPrinted, rightChains⟩ :=
        isWritten_of_spelling rightSpelling spelled.2 short.2 (by decide)
      have mark : Lexeme.altArrow ∈ spacedMarks := by decide
      exact .grouped (leftPrinted.infixed mark rightPrinted)
        fun _ loose => alternative_chains span leftChains rightChains.readsExpr loose
  | _, .result tag value span, _, .result spelling => by
      intro spelled short _
      simp only [Expr.isSpelled, Expr.every, Expr.isSpelledPart, Bool.true_and] at spelled
      obtain ⟨_, printed, chains⟩ := isWritten_of_spelling spelling spelled short (Nat.zero_le _)
      have tagged : Printed (tag.text ++ "(" ++ _ ++ ")") _ :=
        .call tag.isWord_text tag.wordKind_text (by cases tag <;> rfl) (by cases tag <;> rfl)
          printed.toSpelled
      exact ⟨_, tagged, result_chains tag span chains.readsExpr⟩
  | _, .tuple elements span, _, .tuple spellings => by
      intro spelled short _
      simp only [Expr.isSpelled, Expr.every, Expr.isSpelledPart, Bool.true_and] at spelled
      obtain ⟨_, printed, parts⟩ := exists_parts spellings spelled short
      exact ⟨_, .braced (.listed printed), tuple_chains span parts⟩
  | asked, .list elements none span, _, .list spellings => by
      intro spelled short _
      simp only [Expr.isSpelled, Expr.every, Expr.isSpelledPart, Bool.true_and] at spelled
      obtain ⟨rows, printed, parts⟩ := exists_parts spellings spelled short
      have chains : Chains excuse (.list elements none span) asked _ :=
        list_chains span parts .none nofun
      rw [tailLexemes, List.append_nil] at chains
      exact ⟨_, .bracketed (.listed printed), chains⟩
  | _, .list elements (some tail) span, _, .listWithTail spellings tailSpelling => by
      intro spelled short _
      simp only [Expr.isSpelled, Expr.every, Expr.isSpelledPart, Expr.hasNotation,
        Bool.and_eq_true, Bool.not_eq_true', List.isEmpty_eq_false_iff] at spelled short
      obtain ⟨_, printed, parts⟩ := exists_parts spellings spelled.1.2 short.1
      obtain ⟨_, tailPrinted, tailChains⟩ :=
        isWritten_of_spelling tailSpelling spelled.2 short.2 (Nat.zero_le _)
      exact ⟨_, .bracketedWithTail (.listed printed) tailPrinted, list_chains span parts
        (.some ⟨tailPrinted.starts, tailChains.readsExpr⟩) fun _ => spelled.1.1⟩
  | _, .map entries span, _, .map spellings => by
      intro spelled short _
      simp only [Expr.isSpelled, Expr.every, Expr.isSpelledPart, Bool.and_eq_true] at spelled
      obtain ⟨_, printed, parts⟩ := exists_entryParts spellings spelled.1 spelled.2 short
      exact ⟨_, .mapped (.listed printed), map_chains span parts spelled.1⟩
  | _, .record tag entries span, _, .record spellings => by
      intro spelled short _
      simp only [Expr.isSpelled, Expr.every, Expr.isSpelledPart, Bool.and_eq_true] at spelled
      have isTag := isTag_iff.mp spelled.1.1
      obtain ⟨_, printed, parts⟩ := exists_entryParts spellings spelled.1.2 spelled.2 short
      exact ⟨_, .record isTag.1 isTag.2 rfl rfl (.listed printed),
        record_chains tag span parts spelled.1.2⟩
  | _, .lambda params body span, _, .lambda spelling => by
      intro spelled short _
      simp only [Expr.isSpelled, Expr.every, Expr.isSpelledPart, Bool.and_eq_true] at spelled
      obtain ⟨_, printed, chains⟩ := isWritten_of_spelling spelling spelled.2 short (Nat.zero_le _)
      exact .grouped (printed.lambda spelled.1) fun _ loose =>
        lambda_chains params span chains.readsExpr loose
  | _, .conditional condition thenBranch elseBranch span, _,
      .conditional conditionSpelling thenSpelling elseSpelling => by
      intro spelled short _
      simp only [Expr.isSpelled, Expr.every, Expr.isSpelledPart, Expr.hasNotation,
        Bool.and_eq_true, true_and] at spelled short
      obtain ⟨_, conditionPrinted, conditionChains⟩ :=
        isWritten_of_spelling conditionSpelling spelled.1.1 short.1.1 (Nat.zero_le _)
      obtain ⟨_, thenPrinted, thenChains⟩ :=
        isWritten_of_spelling thenSpelling spelled.1.2 short.1.2 (Nat.zero_le _)
      obtain ⟨_, elsePrinted, elseChains⟩ :=
        isWritten_of_spelling elseSpelling spelled.2 short.2 (Nat.zero_le _)
      exact .grouped (.conditional conditionPrinted thenPrinted elsePrinted) fun _ loose =>
        conditional_chains span conditionChains.readsExpr thenChains.readsExpr
          elseChains.readsExpr loose

theorem exists_parts : ∀ {exprs : List Expr} {texts : List String}, AllSpelling exprs texts →
    Expr.everyOfAll Expr.isSpelledPart exprs = true → Expr.allHaveNotation exprs = true →
      ∃ rows, List.Forall₂ Printed texts rows ∧ List.Forall₂ (Part excuse) exprs rows
  | _, _, .nil, _, _ => ⟨[], .nil, .nil⟩
  | _, _, .cons spelling spellings, spelled, short => by
      simp only [Expr.everyOfAll, Expr.allHaveNotation, Bool.and_eq_true] at spelled short
      obtain ⟨row, printed, chains⟩ :=
        isWritten_of_spelling spelling spelled.1 short.1 (Nat.zero_le _)
      obtain ⟨rows, allPrinted, parts⟩ := exists_parts spellings spelled.2 short.2
      exact ⟨row :: rows, .cons printed allPrinted,
        .cons ⟨printed.starts, chains.readsExpr⟩ parts⟩

theorem exists_entryParts : ∀ {entries : List (String × Expr)} {texts : List (String × String)},
    EntriesSpelling entries texts → areKeys (entries.map (·.1)) = true →
      Expr.everyOfEntries Expr.isSpelledPart entries = true →
        Expr.entriesHaveNotation entries = true →
          ∃ rows : List (String × List Lexeme),
            List.Forall₂ Printed (texts.map fun entry => entry.1 ++ ": " ++ entry.2)
              (rows.map fun row => Lexeme.entry row.1 row.2) ∧
            List.Forall₂ (EntryPart excuse) entries rows
  | _, _, .nil, _, _, _ => ⟨[], .nil, .nil⟩
  | _, _, .cons spelling spellings, distinct, spelled, short => by
      simp only [Expr.everyOfEntries, Expr.entriesHaveNotation, Bool.and_eq_true]
        at spelled short
      have keys := areKeys_cons distinct
      have key := isName_iff.mp keys.1
      obtain ⟨row, printed, chains⟩ :=
        isWritten_of_spelling spelling spelled.1 short.1 (Nat.zero_le _)
      obtain ⟨rows, allPrinted, parts⟩ :=
        exists_entryParts spellings keys.2 spelled.2 short.2
      exact ⟨(_, row) :: rows, .cons (printed.entry key.1 key.2) allPrinted,
        .cons ⟨rfl, chains.readsExpr⟩ parts⟩

end

end Parse

namespace Expr

open Parse

/-! ## What is printed is a spelling -/

mutual

/-- The text of an expression is one of its spellings. -/
theorem spelling_print : ∀ (asked : Nat) {expr : Expr}, expr.isSpelled = true →
    Spelling asked expr (expr.print asked)
  | _, .integer .., _ => .integer
  | _, .decimal .., _ => .decimal
  | _, .text .., _ => .text
  | _, .atom .., _ => .atom
  | _, .boolean .., _ => .boolean
  | _, .nil _, _ => .nil
  | _, .ident _, _ => .ident
  | _, .typeName .., _ => .typeName
  | _, .binary .., spelled => by
      simp only [isSpelled, every, isSpelledPart, Bool.and_eq_true, true_and] at spelled
      exact .binary (spelling_print _ spelled.1) (spelling_print _ spelled.2)
  | _, .unary .not .., spelled => .denied (spelling_print _ spelled)
  | _, .unary .negate .., spelled => .negated (spelling_print _ spelled)
  | _, .call .., spelled => by
      simp only [isSpelled, every, Bool.and_eq_true] at spelled
      exact .call .bare (allSpelling_print spelled.2)
  | _, .delegate .., spelled => by simp [isSpelled, every, isSpelledPart] at spelled
  | _, .field .., spelled => by
      simp only [isSpelled, every, Bool.and_eq_true] at spelled
      exact .field (spelling_print _ spelled.2)
  | _, .pipe .., spelled => by
      simp only [isSpelled, every, Bool.and_eq_true] at spelled
      exact .pipe (spelling_print _ spelled.2) .bare
  | _, .pipeCall .., spelled => by
      simp only [isSpelled, every, Bool.and_eq_true] at spelled
      exact .pipeCall (spelling_print _ spelled.1.2) (.call .bare (allSpelling_print spelled.2))
  | _, .alternative .., spelled => by
      simp only [isSpelled, every, isSpelledPart, Bool.and_eq_true, true_and] at spelled
      exact .alternative (spelling_print _ spelled.1) (spelling_print _ spelled.2)
  | _, .result .., spelled => .result (spelling_print _ spelled)
  | _, .tuple .., spelled => .tuple (allSpelling_print spelled)
  | _, .list _ none _, spelled => .list (allSpelling_print spelled)
  | _, .list _ (some _) _, spelled => by
      simp only [isSpelled, every, Bool.and_eq_true] at spelled
      exact .listWithTail (allSpelling_print spelled.1.2) (spelling_print _ spelled.2)
  | _, .map .., spelled => by
      simp only [isSpelled, every, Bool.and_eq_true] at spelled
      exact .map (entriesSpelling_print spelled.2)
  | _, .record .., spelled => by
      simp only [isSpelled, every, Bool.and_eq_true] at spelled
      exact .record (entriesSpelling_print spelled.2)
  | _, .lambda .., spelled => by
      simp only [isSpelled, every, Bool.and_eq_true] at spelled
      exact .lambda (spelling_print _ spelled.2)
  | _, .conditional .., spelled => by
      simp only [isSpelled, every, isSpelledPart, Bool.and_eq_true, true_and] at spelled
      exact .conditional (spelling_print _ spelled.1.1) (spelling_print _ spelled.1.2)
        (spelling_print _ spelled.2)

theorem allSpelling_print : ∀ {exprs : List Expr}, everyOfAll isSpelledPart exprs = true →
    AllSpelling exprs (printAll exprs)
  | [], _ => .nil
  | _ :: _, spelled => by
      simp only [everyOfAll, Bool.and_eq_true] at spelled
      exact .cons (spelling_print 0 spelled.1) (allSpelling_print spelled.2)

theorem entriesSpelling_print : ∀ {entries : List (String × Expr)},
    everyOfEntries isSpelledPart entries = true →
      EntriesSpelling entries (printEntries entries)
  | [], _ => .nil
  | (_, _) :: _, spelled => by
      simp only [everyOfEntries, Bool.and_eq_true] at spelled
      exact .cons (spelling_print 0 spelled.1) (entriesSpelling_print spelled.2)

end

/-! ## Reading spellings -/

/-- Whether the reader finds an expression somewhere in a text. -/
def IsRead (expr : Expr) : Prop :=
  ∃ (file text : String) (stream : TokenStream) (depth power : Nat) (cursor next : Cursor),
    TokenStream.ofText file text = .ok stream ∧ cursor.IsPartOf stream ∧
      expression depth power cursor = .ok expr next ∧ next.errors = []

theorem isRead_of_read {file text : String} {expr : Expr}
    (read : Expr.read file text = .ok expr) : expr.IsRead := by
  obtain ⟨stream, streamed, whole⟩ := exists_run_of_read read
  obtain ⟨last, outcome, clean⟩ := exists_of_run whole
  obtain ⟨_, start, skipped, outcome⟩ := bind_eq_ok.mp outcome
  obtain ⟨_, middle, found, outcome⟩ := bind_eq_ok.mp outcome
  obtain ⟨_, next, skipped', outcome⟩ := bind_eq_ok.mp outcome
  obtain ⟨token, _, looked, outcome⟩ := bind_eq_ok.mp outcome
  cases looked
  cases skipped
  cases skipped'
  split at outcome
  · cases outcome
    simp at clean
  · cases outcome
    exact ⟨file, text, stream, limit stream, 0, _, middle, streamed,
      ⟨List.dropWhile_suffix _, rfl, (TokenStream.ofText_legible streamed).2⟩, found, clean⟩

theorem IsRead.isSpelled {expr : Expr} (read : expr.IsRead) : expr.isSpelled = true := by
  obtain ⟨file, text, stream, depth, power, cursor, next, streamed, part, outcome, clean⟩ := read
  have legible : cursor.IsLegible :=
    ⟨fun token member => (TokenStream.ofText_legible streamed).1 token (part.suffix.mem member),
      part.isEnd⟩
  exact (((expression_finds depth power cursor legible).1 expr next outcome).2 clean).2

/-- However many parentheses an expression is written with, it is read up to places. -/
theorem read_spelling {expr : Expr} (read : expr.IsRead) (finite : expr.isFinite = true)
    (short : expr.hasNotation = true) {text : String} (spelling : Spelling 0 expr text)
    (file : String) :
    ∃ expr', Expr.read file text = .ok expr' ∧ expr'.unplaced = expr.unplaced := by
  obtain ⟨lexemes, printed, chains⟩ :=
    isWritten_of_spelling spelling read.isSpelled short (Nat.zero_le _)
  obtain ⟨expr', outcome, readsAs⟩ := read_of_chains printed chains file
  exact ⟨expr', outcome, readsAs.trans (settled_eq_unplaced finite)⟩

/-- What `(a + 1) * f(b)` is read as. -/
def sampleProduct : Expr :=
  let place (start stop : Int) : Span := ⟨"product", 1, start, 1, stop⟩
  .binary
    (.binary (.ident ⟨"a", place 2 2⟩) .add (.integer 1 (place 6 6)) (place 2 6))
    .mul
    (.call ⟨"f", place 11 11⟩ [.ident ⟨"b", place 13 13⟩] (place 11 14))
    (place 2 14)

theorem read_spelling_sampleProduct :
    sampleProduct.IsRead ∧ sampleProduct.isFinite = true ∧ sampleProduct.hasNotation = true ∧
      Spelling 0 sampleProduct "((a + (1))) * (f)((b))" ∧
      ∃ expr', Expr.read "product" "((a + (1))) * (f)((b))" = .ok expr' ∧
        expr'.unplaced = sampleProduct.unplaced := by
  have read : Expr.read "product" "(a + 1) * f(b)" = .ok sampleProduct := by rfl
  have isRead := isRead_of_read read
  have short : sampleProduct.hasNotation = true := by decide +kernel
  have spelled : ∃ text, text = "((a + (1))) * (f)((b))" ∧ Spelling 0 sampleProduct text := by
    refine ⟨_, ?_, .binary (.more (.more (.binary .ident (.more .integer))))
      (.call (.more .bare) (.cons (.more .ident) .nil))⟩
    decide +kernel
  obtain ⟨_, rfl, spelling⟩ := spelled
  exact ⟨isRead, rfl, short, spelling, read_spelling isRead rfl short spelling "product"⟩

end Expr
end ClauseFlow

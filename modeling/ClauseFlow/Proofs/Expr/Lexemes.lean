import ClauseFlow.Expr.Print
import ClauseFlow.Proofs.Expr.Every
import ClauseFlow.Proofs.Pattern.Lexemes

/-!
# Lexemes of expressions

The lexemes that an expression is printed as in a place that asks for a precedence. An expression
with names and keys as the reader finds them spells just these.
-/

namespace ClauseFlow

/-! ## Operators -/

namespace BinaryOp

def kind : BinaryOp → TokenKind
  | add => .plus
  | sub => .minus
  | mul => .star
  | div => .slash
  | mod => .percent
  | concat => .concat
  | equal => .equal
  | notEqual => .notEqual
  | less => .less
  | greater => .greater
  | lessEqual => .lessEqual
  | greaterEqual => .greaterEqual
  | and => .andKeyword
  | or => .orKeyword

def lexeme (op : BinaryOp) : Lexeme :=
  ⟨op.kind, op.text⟩

theorem lexeme_mem_spacedMarks (op : BinaryOp) : op.lexeme ∈ spacedMarks := by
  cases op <;> decide

end BinaryOp

def UnaryOp.lexeme : UnaryOp → Lexeme
  | .not => ⟨.notKeyword, "not"⟩
  | .negate => .minus

def Lexeme.pipeArrow : Lexeme :=
  ⟨.pipeArrow, "|>"⟩

def Lexeme.altArrow : Lexeme :=
  ⟨.altArrow, "<|>"⟩

def Lexeme.arrow : Lexeme :=
  ⟨.arrow, "->"⟩

/-- A row of lexemes between parentheses if its place asks for a tighter binding than it has. -/
def Lexeme.grouped (own asked : Nat) (lexemes : List Lexeme) : List Lexeme :=
  if own < asked then parenthesized lexemes else lexemes

theorem Printed.grouped {text : String} {lexemes : List Lexeme} (own asked : Nat)
    (printed : Printed text lexemes) :
    Printed (Expr.parenthesized own asked text) (Lexeme.grouped own asked lexemes) := by
  rw [Expr.parenthesized, Lexeme.grouped]
  split
  · exact .parenthesized printed.toSpelled
  · exact printed

/-! ## Words before operands -/

namespace Printed

variable {text : String} {lexemes : List Lexeme}

/-- A call of a name. -/
theorem callOf {callee : String} (name : isName callee = true) (inner : Spelled text lexemes) :
    Printed (callee ++ "(" ++ text ++ ")") (.name callee :: Lexeme.parenthesized lexemes) :=
  .call (isName_iff.mp name).1 (isName_iff.mp name).2 rfl rfl inner

theorem denied (operand : Printed text lexemes) :
    Printed ("not " ++ text) (⟨.notKeyword, "not"⟩ :: lexemes) := by
  have word : Spaced "not" [⟨.notKeyword, "not"⟩] :=
    .word (by decide +kernel) (by decide +kernel) rfl rfl
  exact word.append_printed (by decide) (.cons rfl []) operand

theorem params {params : List String} (names : params.all isName = true) :
    List.Forall₂ Printed params (params.map fun param => [.name param]) := by
  induction params with
  | nil => exact .nil
  | cons param rest ih =>
      simp only [List.all_cons, Bool.and_eq_true] at names
      exact .cons (.name names.1) (ih names.2)

theorem lambda (body : Printed text lexemes) {params : List String}
    (names : params.all isName = true) :
    Printed ("fn(" ++ Text.commas params ++ ") -> " ++ text)
      (⟨.fnKeyword, "fn"⟩ ::
        Lexeme.parenthesized (Lexeme.listed (params.map fun param => [.name param])) ++
          .arrow :: lexemes) := by
  have isFn : wordKind "fn" = .fnKeyword := by decide +kernel
  have head : Printed ("fn" ++ "(" ++ Text.commas params ++ ")") _ :=
    .call (by decide +kernel) isFn rfl rfl (.listed (Printed.params names))
  have mark : Lexeme.arrow ∈ spacedMarks := by decide
  have whole := head.infixed mark body
  have sameText : "fn(" ++ Text.commas params ++ ") -> " ++ text =
      "fn" ++ "(" ++ Text.commas params ++ ")" ++ " " ++ "->" ++ " " ++ text := by
    rw [show "fn(" = "fn" ++ "(" from rfl, show ") -> " = ")" ++ " " ++ "->" ++ " " from rfl]
    simp only [String.append_assoc]
  rw [sameText]
  exact whole

theorem conditional {thenText elseText : String} {thenLexemes elseLexemes : List Lexeme}
    (condition : Printed text lexemes) (thenBranch : Printed thenText thenLexemes)
    (elseBranch : Printed elseText elseLexemes) :
    Printed ("if " ++ text ++ " then " ++ thenText ++ " else " ++ elseText)
      (⟨.ifKeyword, "if"⟩ :: lexemes ++ ⟨.thenKeyword, "then"⟩ :: thenLexemes ++
        ⟨.elseKeyword, "else"⟩ :: elseLexemes) := by
  have ifWord : Spaced "if" [⟨.ifKeyword, "if"⟩] :=
    .word (by decide +kernel) (by decide +kernel) rfl rfl
  have thenWord : Spaced "then" [⟨.thenKeyword, "then"⟩] :=
    .word (by decide +kernel) (by decide +kernel) rfl rfl
  have elseWord : Spaced "else" [⟨.elseKeyword, "else"⟩] :=
    .word (by decide +kernel) (by decide +kernel) rfl rfl
  have before := ((ifWord.append condition.spaced).append thenWord).append thenBranch.spaced
  have noArrow : ("if" ++ " " ++ text ++ " " ++ "then" ++ " " ++ thenText ++ " " ++
      "else").toList.head? ≠ some '>' := by
    simp only [String.append_assoc]
    rw [String.toList_append, head?_append_of_leads ifWord.leads]
    decide
  have whole := (before.append elseWord).append_printed noArrow (.cons rfl _) elseBranch
  have sameText : "if " ++ text ++ " then " ++ thenText ++ " else " ++ elseText =
      "if" ++ " " ++ text ++ " " ++ "then" ++ " " ++ thenText ++ " " ++ "else" ++ " " ++
        elseText := by
    rw [show "if " = "if" ++ " " from rfl, show " then " = " " ++ "then" ++ " " from rfl,
      show " else " = " " ++ "else" ++ " " from rfl]
    simp only [String.append_assoc]
  have sameLexemes : [(⟨.ifKeyword, "if"⟩ : Lexeme)] ++ lexemes ++ [⟨.thenKeyword, "then"⟩] ++
      thenLexemes ++ [⟨.elseKeyword, "else"⟩] ++ elseLexemes =
        ⟨.ifKeyword, "if"⟩ :: lexemes ++ ⟨.thenKeyword, "then"⟩ :: thenLexemes ++
          ⟨.elseKeyword, "else"⟩ :: elseLexemes := by
    simp
  rwa [sameLexemes, ← sameText] at whole

end Printed

namespace Expr

/-! ## Lexemes -/

mutual

/-- The lexemes that an expression is printed as in a place that asks for a precedence. -/
def lexemes (asked : Nat) : Expr → List Lexeme
  | .integer value _ => [⟨.integer, Numeral.natText value⟩]
  | .decimal value _ => [value.lexeme]
  | .text value _ => [⟨.text, value⟩]
  | .atom name _ => [⟨.atom, name⟩]
  | .boolean value _ => [⟨.boolean, if value then "true" else "false"⟩]
  | .nil _ => [⟨.nil, "nil"⟩]
  | .ident identifier => [.name identifier.name]
  | .typeName name _ => [⟨.typeName, name⟩]
  | .binary left op right _ =>
      Lexeme.grouped op.precedence asked
        (lexemes op.precedence left ++ op.lexeme :: lexemes (op.precedence + 1) right)
  | .unary op operand _ =>
      Lexeme.grouped signPrecedence asked (op.lexeme :: lexemes signPrecedence operand)
  | .call callee arguments _ | .delegate callee arguments _ =>
      .name callee.name :: Lexeme.parenthesized (Lexeme.listed (lexemesOfAll arguments))
  | .field subject name _ => lexemes fieldPrecedence subject ++ ⟨.dot, "."⟩ :: [.name name]
  | .pipe left callee _ =>
      Lexeme.grouped pipePrecedence asked
        (lexemes pipePrecedence left ++ .pipeArrow :: [.name callee.name])
  | .pipeCall left callee arguments _ _ =>
      Lexeme.grouped pipePrecedence asked
        (lexemes pipePrecedence left ++ .pipeArrow :: .name callee.name ::
          Lexeme.parenthesized (Lexeme.listed (lexemesOfAll arguments)))
  | .alternative left right _ =>
      Lexeme.grouped alternativePrecedence asked
        (lexemes alternativePrecedence left ++
          .altArrow :: lexemes (alternativePrecedence + 1) right)
  | .result tag value _ => ⟨tag.kind, tag.text⟩ :: Lexeme.parenthesized (lexemes 0 value)
  | .tuple elements _ => Lexeme.braced (Lexeme.listed (lexemesOfAll elements))
  | .list elements none _ => Lexeme.bracketed (Lexeme.listed (lexemesOfAll elements))
  | .list elements (some tail) _ =>
      Lexeme.bracketed (Lexeme.listed (lexemesOfAll elements) ++ ⟨.bar, "|"⟩ :: lexemes 0 tail)
  | .map entries _ => Lexeme.mapped (Lexeme.listed (lexemesOfEntries entries))
  | .record tag entries _ =>
      ⟨.typeName, tag⟩ :: Lexeme.braced (Lexeme.listed (lexemesOfEntries entries))
  | .lambda params body _ =>
      Lexeme.grouped 0 asked
        (⟨.fnKeyword, "fn"⟩ ::
          Lexeme.parenthesized (Lexeme.listed (params.map fun param => [.name param])) ++
          .arrow :: lexemes 0 body)
  | .conditional condition thenBranch elseBranch _ =>
      Lexeme.grouped 0 asked
        (⟨.ifKeyword, "if"⟩ :: lexemes 0 condition ++ ⟨.thenKeyword, "then"⟩ ::
          lexemes 0 thenBranch ++ ⟨.elseKeyword, "else"⟩ :: lexemes 0 elseBranch)

def lexemesOfAll : List Expr → List (List Lexeme)
  | [] => []
  | expr :: rest => lexemes 0 expr :: lexemesOfAll rest

def lexemesOfEntries : List (String × Expr) → List (List Lexeme)
  | [] => []
  | (key, expr) :: rest => Lexeme.entry key (lexemes 0 expr) :: lexemesOfEntries rest

end

theorem lexemesOfEntries_eq (entries : List (String × Expr)) :
    lexemesOfEntries entries =
      entries.map fun entry => Lexeme.entry entry.1 (lexemes 0 entry.2) := by
  induction entries with
  | nil => rfl
  | cons entry rest ih => rw [lexemesOfEntries, ih, List.map_cons]

/-! ## Expressions that the reader finds -/

def isSpelledPart : Expr → Bool
  | .decimal value _ => !value.isNegative && !value.isNaN
  | .atom name _ => isAtomName name
  | .ident identifier => isName identifier.name
  | .typeName name _ => isTag name
  | .call callee _ _ | .pipe _ callee _ | .pipeCall _ callee _ _ _ => isName callee.name
  | .delegate .. => false
  | .field _ name _ => isName name
  | .list elements (some _) _ => !elements.isEmpty
  | .map entries _ => areKeys (entries.map (·.1))
  | .record tag entries _ => isTag tag && areKeys (entries.map (·.1))
  | .lambda params _ _ => params.all isName
  | _ => true

/-- Whether an expression is one that the reader finds: its names are names, its keys are different,
no call passes the local names over, and no number has a sign. -/
def isSpelled (expr : Expr) : Bool :=
  expr.every isSpelledPart

/-! ## Printing -/

mutual

/-- An expression is printed as its lexemes. -/
theorem printed : ∀ (asked : Nat) {expr : Expr}, expr.isSpelled = true →
    Printed (expr.print asked) (expr.lexemes asked)
  | _, .integer value _, _ => .integer value
  | _, .decimal value _, spelled => by
      simp only [isSpelled, every, isSpelledPart, Bool.and_eq_true, Bool.not_eq_true'] at spelled
      have printedText : Printed value.text [value.lexeme] := Binary64.printed_text spelled.1
      exact printedText
  | _, .text value _, _ => .text value
  | _, .atom name _, spelled => .atom spelled
  | _, .boolean value _, _ => .boolean value
  | _, .nil _, _ => .nil
  | _, .ident identifier, spelled => .name spelled
  | _, .typeName name _, spelled => by
      have tag := isTag_iff.mp (show isTag name = true from spelled)
      exact .word tag.1 tag.2 rfl rfl rfl
  | asked, .binary left op right _, spelled => by
      simp only [isSpelled, every, isSpelledPart, Bool.and_eq_true, true_and] at spelled
      apply Printed.grouped
      exact (printed op.precedence spelled.1).infixed op.lexeme_mem_spacedMarks
        (printed (op.precedence + 1) spelled.2)
  | asked, .unary .not operand _, spelled => by
      simp only [isSpelled, every, isSpelledPart, Bool.and_eq_true, true_and] at spelled
      apply Printed.grouped
      exact (printed signPrecedence spelled).denied
  | asked, .unary .negate operand _, spelled => by
      simp only [isSpelled, every, isSpelledPart, Bool.and_eq_true, true_and] at spelled
      apply Printed.grouped
      exact (printed signPrecedence spelled).negated
  | _, .call callee arguments _, spelled => by
      simp only [isSpelled, every, isSpelledPart, Bool.and_eq_true] at spelled
      exact Printed.callOf spelled.1 (.listed (allPrinted spelled.2))
  | _, .delegate .., spelled => by simp [isSpelled, every, isSpelledPart] at spelled
  | _, .field subject name _, spelled => by
      simp only [isSpelled, every, isSpelledPart, Bool.and_eq_true] at spelled
      have word := isName_iff.mp (show isName name = true from spelled.1)
      exact (printed fieldPrecedence spelled.2).field word.1 word.2
  | asked, .pipe left callee _, spelled => by
      simp only [isSpelled, every, isSpelledPart, Bool.and_eq_true] at spelled
      apply Printed.grouped
      have mark : Lexeme.pipeArrow ∈ spacedMarks := by decide
      have name : Printed callee.name [.name callee.name] := .name spelled.1
      exact (printed pipePrecedence spelled.2).infixed mark name
  | asked, .pipeCall left callee arguments _ _, spelled => by
      simp only [isSpelled, every, isSpelledPart, Bool.and_eq_true] at spelled
      apply Printed.grouped
      have mark : Lexeme.pipeArrow ∈ spacedMarks := by decide
      have call : Printed (callee.name ++ "(" ++ Text.commas (printAll arguments) ++ ")") _ :=
        Printed.callOf spelled.1.1 (.listed (allPrinted spelled.2))
      exact (printed pipePrecedence spelled.1.2).infixed mark call
  | asked, .alternative left right _, spelled => by
      simp only [isSpelled, every, isSpelledPart, Bool.and_eq_true, true_and] at spelled
      apply Printed.grouped
      have mark : Lexeme.altArrow ∈ spacedMarks := by decide
      exact (printed alternativePrecedence spelled.1).infixed mark
        (printed (alternativePrecedence + 1) spelled.2)
  | _, .result tag value _, spelled => by
      simp only [isSpelled, every, isSpelledPart, Bool.and_eq_true, true_and] at spelled
      exact .call tag.isWord_text tag.wordKind_text (by cases tag <;> rfl) (by cases tag <;> rfl)
        (printed 0 spelled).toSpelled
  | _, .tuple elements _, spelled => by
      simp only [isSpelled, every, isSpelledPart, Bool.and_eq_true, true_and] at spelled
      exact .braced (.listed (allPrinted spelled))
  | _, .list elements none _, spelled => by
      simp only [isSpelled, every, isSpelledPart, Bool.and_eq_true, true_and] at spelled
      exact .bracketed (.listed (allPrinted spelled))
  | _, .list elements (some tail) _, spelled => by
      simp only [isSpelled, every, isSpelledPart, Bool.and_eq_true] at spelled
      exact .bracketedWithTail (.listed (allPrinted spelled.1.2)) (printed 0 spelled.2)
  | _, .map entries _, spelled => by
      simp only [isSpelled, every, isSpelledPart, Bool.and_eq_true] at spelled
      exact .mapped (.listed (entriesPrinted spelled.1 spelled.2))
  | _, .record tag entries _, spelled => by
      simp only [isSpelled, every, isSpelledPart, Bool.and_eq_true] at spelled
      exact .record (isTag_iff.mp spelled.1.1).1 (isTag_iff.mp spelled.1.1).2 rfl rfl
        (.listed (entriesPrinted spelled.1.2 spelled.2))
  | asked, .lambda params body _, spelled => by
      simp only [isSpelled, every, isSpelledPart, Bool.and_eq_true] at spelled
      apply Printed.grouped
      exact (printed 0 spelled.2).lambda spelled.1
  | asked, .conditional condition thenBranch elseBranch _, spelled => by
      simp only [isSpelled, every, isSpelledPart, Bool.and_eq_true, true_and] at spelled
      apply Printed.grouped
      exact .conditional (printed 0 spelled.1.1) (printed 0 spelled.1.2) (printed 0 spelled.2)

theorem allPrinted : ∀ {exprs : List Expr}, everyOfAll isSpelledPart exprs = true →
    List.Forall₂ Printed (printAll exprs) (lexemesOfAll exprs)
  | [], _ => .nil
  | expr :: rest, spelled => by
      simp only [everyOfAll, Bool.and_eq_true] at spelled
      exact .cons (printed 0 spelled.1) (allPrinted spelled.2)

theorem entriesPrinted : ∀ {entries : List (String × Expr)},
    areKeys (entries.map (·.1)) = true → everyOfEntries isSpelledPart entries = true →
      List.Forall₂ Printed ((printEntries entries).map fun entry => entry.1 ++ ": " ++ entry.2)
        (lexemesOfEntries entries)
  | [], _, _ => .nil
  | (key, expr) :: rest, distinct, spelled => by
      simp only [everyOfEntries, Bool.and_eq_true] at spelled
      have keys := areKeys_cons distinct
      have key := isName_iff.mp keys.1
      exact .cons ((printed 0 spelled.1).entry key.1 key.2) (entriesPrinted keys.2 spelled.2)

end

end Expr
end ClauseFlow

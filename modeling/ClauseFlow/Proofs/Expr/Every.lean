import ClauseFlow.Expr

/-!
# Properties of all parts of an expression

Tests that hold of an expression together with every expression in it.
-/

namespace ClauseFlow.Expr

mutual

/-- Whether a test holds of an expression and of every expression in it. -/
def every (test : Expr → Bool) : Expr → Bool
  | .integer value span => test (.integer value span)
  | .decimal value span => test (.decimal value span)
  | .text value span => test (.text value span)
  | .atom name span => test (.atom name span)
  | .boolean value span => test (.boolean value span)
  | .nil span => test (.nil span)
  | .ident identifier => test (.ident identifier)
  | .typeName name span => test (.typeName name span)
  | .binary left op right span =>
      test (.binary left op right span) && every test left && every test right
  | .unary op operand span => test (.unary op operand span) && every test operand
  | .call callee arguments span => test (.call callee arguments span) && everyOfAll test arguments
  | .delegate callee arguments span =>
      test (.delegate callee arguments span) && everyOfAll test arguments
  | .field subject name span => test (.field subject name span) && every test subject
  | .pipe left callee span => test (.pipe left callee span) && every test left
  | .pipeCall left callee arguments callSpan span =>
      test (.pipeCall left callee arguments callSpan span) && every test left &&
        everyOfAll test arguments
  | .alternative left right span =>
      test (.alternative left right span) && every test left && every test right
  | .result tag value span => test (.result tag value span) && every test value
  | .tuple elements span => test (.tuple elements span) && everyOfAll test elements
  | .list elements none span => test (.list elements none span) && everyOfAll test elements
  | .list elements (some tail) span =>
      test (.list elements (some tail) span) && everyOfAll test elements && every test tail
  | .map entries span => test (.map entries span) && everyOfEntries test entries
  | .record tag entries span => test (.record tag entries span) && everyOfEntries test entries
  | .lambda params body span => test (.lambda params body span) && every test body
  | .conditional condition thenBranch elseBranch span =>
      test (.conditional condition thenBranch elseBranch span) && every test condition &&
        every test thenBranch && every test elseBranch

def everyOfAll (test : Expr → Bool) : List Expr → Bool
  | [] => true
  | expr :: rest => every test expr && everyOfAll test rest

def everyOfEntries (test : Expr → Bool) : List (String × Expr) → Bool
  | [] => true
  | (_, expr) :: rest => every test expr && everyOfEntries test rest

end

variable {test : Expr → Bool}

theorem everyOfAll_iff {exprs : List Expr} :
    everyOfAll test exprs = true ↔ ∀ expr ∈ exprs, every test expr = true := by
  induction exprs with
  | nil => simp [everyOfAll]
  | cons expr rest ih => simp [everyOfAll, ih]

theorem everyOfEntries_iff {entries : List (String × Expr)} :
    everyOfEntries test entries = true ↔ ∀ entry ∈ entries, every test entry.2 = true := by
  induction entries with
  | nil => simp [everyOfEntries]
  | cons entry rest ih => simp [everyOfEntries, ih]

mutual

/-- Two tests hold everywhere if and only if both together do. -/
theorem every_and (first second : Expr → Bool) : ∀ expr : Expr,
    every (fun expr => first expr && second expr) expr = (every first expr && every second expr)
  | .integer .. | .decimal .. | .text .. | .atom .. | .boolean .. | .nil _ | .ident _
  | .typeName .. => rfl
  | .binary left _ right _ | .alternative left right _ => by
      simp only [every, every_and first second left, every_and first second right]
      ac_rfl
  | .unary _ inner _ | .field inner _ _ | .pipe inner _ _ | .result _ inner _
  | .lambda _ inner _ => by
      simp only [every, every_and first second inner]
      ac_rfl
  | .call _ elements _ | .delegate _ elements _ | .tuple elements _ | .list elements none _ => by
      simp only [every, everyOfAll_and first second elements]
      ac_rfl
  | .pipeCall left _ elements _ _ | .list elements (some left) _ => by
      simp only [every, every_and first second left, everyOfAll_and first second elements]
      ac_rfl
  | .map entries _ | .record _ entries _ => by
      simp only [every, everyOfEntries_and first second entries]
      ac_rfl
  | .conditional condition thenBranch elseBranch _ => by
      simp only [every, every_and first second condition, every_and first second thenBranch,
        every_and first second elseBranch]
      ac_rfl

theorem everyOfAll_and (first second : Expr → Bool) : ∀ exprs : List Expr,
    everyOfAll (fun expr => first expr && second expr) exprs =
      (everyOfAll first exprs && everyOfAll second exprs)
  | [] => rfl
  | expr :: rest => by
      simp only [everyOfAll, every_and first second expr, everyOfAll_and first second rest]
      ac_rfl

theorem everyOfEntries_and (first second : Expr → Bool) : ∀ entries : List (String × Expr),
    everyOfEntries (fun expr => first expr && second expr) entries =
      (everyOfEntries first entries && everyOfEntries second entries)
  | [] => rfl
  | (_, expr) :: rest => by
      simp only [everyOfEntries, every_and first second expr, everyOfEntries_and first second rest]
      ac_rfl

end

/-! ## Expressions whose shape tells what they do -/

def isNoLambda : Expr → Bool
  | .lambda .. => false
  | _ => true

def isWrittenPart : Expr → Bool
  | .delegate .. => false
  | .decimal value _ => !value.isNegative
  | _ => true

/-- Whether no `fn` occurs in an expression. -/
def lambdaFree (expr : Expr) : Bool :=
  expr.every isNoLambda

/-- Whether an expression is one that the grammar can write: no call passes the local names over,
and no decimal literal has a sign. -/
def isWritten (expr : Expr) : Bool :=
  expr.every isWrittenPart

def isPlainPart (part : Expr) : Bool :=
  part.isNoLambda && part.isWrittenPart

/-- Whether an expression is one that the grammar can write, without `fn`. -/
def isPlain (expr : Expr) : Bool :=
  expr.every isPlainPart

theorem isPlain_eq (expr : Expr) : expr.isPlain = (expr.lambdaFree && expr.isWritten) :=
  every_and _ _ expr

theorem isPlain_of_isWritten {expr : Expr} (written : expr.isWritten = true)
    (lambdaFree : expr.lambdaFree = true) : expr.isPlain = true := by
  rw [isPlain_eq, lambdaFree, written]
  rfl

theorem isNegative_of_isPlain {value : Binary64} {span : Span}
    (plain : (Expr.decimal value span).isPlain = true) : value.isNegative = false := by
  simpa [isPlain, every, isPlainPart, isNoLambda, isWrittenPart] using plain

end ClauseFlow.Expr

import ClauseFlow.Expr.Print
import ClauseFlow.Proofs.Expr.Every
import ClauseFlow.Proofs.Pattern.Places

/-!
# Expressions without their places

An expression without its places is what is left when all spans are forgotten. An expression that
has been printed and read again is settled: what is not finite has become the name that it is
printed as.
-/

namespace ClauseFlow.Expr

/-- An identifier without its place. -/
def nameAlone (name : String) : Identifier :=
  ⟨name, .generated⟩

mutual

/-- An expression with its spans forgotten and its decimal literals replaced. -/
def rebuild (decimal : Binary64 → Expr) : Expr → Expr
  | .integer value _ => .integer value .generated
  | .decimal value _ => decimal value
  | .text value _ => .text value .generated
  | .atom name _ => .atom name .generated
  | .boolean value _ => .boolean value .generated
  | .nil _ => .nil .generated
  | .ident identifier => .ident (nameAlone identifier.name)
  | .typeName name _ => .typeName name .generated
  | .binary left op right _ =>
      .binary (rebuild decimal left) op (rebuild decimal right) .generated
  | .unary op operand _ => .unary op (rebuild decimal operand) .generated
  | .call callee arguments _ =>
      .call (nameAlone callee.name) (rebuildAll decimal arguments) .generated
  | .delegate callee arguments _ =>
      .delegate (nameAlone callee.name) (rebuildAll decimal arguments) .generated
  | .field subject name _ => .field (rebuild decimal subject) name .generated
  | .pipe left callee _ => .pipe (rebuild decimal left) (nameAlone callee.name) .generated
  | .pipeCall left callee arguments _ _ =>
      .pipeCall (rebuild decimal left) (nameAlone callee.name) (rebuildAll decimal arguments)
        .generated .generated
  | .alternative left right _ =>
      .alternative (rebuild decimal left) (rebuild decimal right) .generated
  | .result tag value _ => .result tag (rebuild decimal value) .generated
  | .tuple elements _ => .tuple (rebuildAll decimal elements) .generated
  | .list elements none _ => .list (rebuildAll decimal elements) none .generated
  | .list elements (some tail) _ =>
      .list (rebuildAll decimal elements) (some (rebuild decimal tail)) .generated
  | .map entries _ => .map (rebuildEntries decimal entries) .generated
  | .record tag entries _ => .record tag (rebuildEntries decimal entries) .generated
  | .lambda params body _ => .lambda params (rebuild decimal body) .generated
  | .conditional condition thenBranch elseBranch _ =>
      .conditional (rebuild decimal condition) (rebuild decimal thenBranch)
        (rebuild decimal elseBranch) .generated

def rebuildAll (decimal : Binary64 → Expr) : List Expr → List Expr
  | [] => []
  | expr :: rest => rebuild decimal expr :: rebuildAll decimal rest

def rebuildEntries (decimal : Binary64 → Expr) : List (String × Expr) → List (String × Expr)
  | [] => []
  | (key, expr) :: rest => (key, rebuild decimal expr) :: rebuildEntries decimal rest

end

/-- A decimal literal without its place. -/
def ofDecimal (value : Binary64) : Expr :=
  .decimal value .generated

/-- What a decimal literal is read as again. -/
def settledDecimal (value : Binary64) : Expr :=
  if value.isFinite then ofDecimal value else .ident (nameAlone value.text)

/-- An expression with its spans forgotten. -/
def unplaced (expr : Expr) : Expr :=
  expr.rebuild ofDecimal

/-- What an expression is read as again, with its spans forgotten. -/
def settled (expr : Expr) : Expr :=
  expr.rebuild settledDecimal

variable {decimal decimal' : Binary64 → Expr}

theorem rebuildAll_eq (exprs : List Expr) :
    rebuildAll decimal exprs = exprs.map (rebuild decimal) := by
  induction exprs with
  | nil => rfl
  | cons expr rest ih => rw [rebuildAll, ih, List.map_cons]

theorem rebuildEntries_eq (entries : List (String × Expr)) :
    rebuildEntries decimal entries =
      entries.map fun entry => (entry.1, rebuild decimal entry.2) := by
  induction entries with
  | nil => rfl
  | cons entry rest ih => rw [rebuildEntries, ih, List.map_cons]

/-! ## Printing without places -/

mutual

theorem print_rebuild (same : ∀ asked value, (decimal value).print asked = value.text) :
    ∀ (asked : Nat) (expr : Expr), (expr.rebuild decimal).print asked = expr.print asked
  | asked, .decimal value _ => same asked value
  | _, .integer .. | _, .text .. | _, .atom .. | _, .boolean .. | _, .nil _ | _, .ident _
  | _, .typeName .. => rfl
  | _, .binary left op right _ | _, .alternative left right _ => by
      simp only [rebuild, print, print_rebuild same _ left, print_rebuild same _ right]
  | _, .unary .not operand _ | _, .unary .negate operand _ => by
      simp only [rebuild, print, print_rebuild same _ operand]
  | _, .call _ arguments _ | _, .delegate _ arguments _ => by
      simp only [rebuild, print, nameAlone, printAll_rebuild same arguments]
  | _, .field inner _ _ | _, .result _ inner _ | _, .lambda _ inner _ => by
      simp only [rebuild, print, print_rebuild same _ inner]
  | _, .pipe left _ _ => by
      simp only [rebuild, print, nameAlone, print_rebuild same _ left]
  | _, .pipeCall left _ arguments _ _ => by
      simp only [rebuild, print, nameAlone, print_rebuild same _ left,
        printAll_rebuild same arguments]
  | _, .tuple elements _ | _, .list elements none _ => by
      simp only [rebuild, print, printAll_rebuild same elements]
  | _, .list elements (some tail) _ => by
      simp only [rebuild, print, printAll_rebuild same elements, print_rebuild same _ tail]
  | _, .map entries _ | _, .record _ entries _ => by
      simp only [rebuild, print, printEntries_rebuild same entries]
  | _, .conditional condition thenBranch elseBranch _ => by
      simp only [rebuild, print, print_rebuild same _ condition, print_rebuild same _ thenBranch,
        print_rebuild same _ elseBranch]

theorem printAll_rebuild (same : ∀ asked value, (decimal value).print asked = value.text) :
    ∀ exprs : List Expr, printAll (rebuildAll decimal exprs) = printAll exprs
  | [] => rfl
  | expr :: rest => by
      simp only [rebuildAll, printAll, print_rebuild same 0 expr, printAll_rebuild same rest]

theorem printEntries_rebuild (same : ∀ asked value, (decimal value).print asked = value.text) :
    ∀ entries : List (String × Expr),
      printEntries (rebuildEntries decimal entries) = printEntries entries
  | [] => rfl
  | (key, expr) :: rest => by
      simp only [rebuildEntries, printEntries, print_rebuild same 0 expr,
        printEntries_rebuild same rest]

end

theorem print_unplaced (asked : Nat) (expr : Expr) :
    expr.unplaced.print asked = expr.print asked :=
  print_rebuild (fun _ _ => rfl) asked expr

theorem print_settled (asked : Nat) (expr : Expr) : expr.settled.print asked = expr.print asked := by
  apply print_rebuild
  intro asked value
  rw [settledDecimal]
  split <;> rfl

/-! ## Notations without places -/

mutual

theorem hasNotation_rebuild (notated : ∀ value, (decimal value).hasNotation = true) :
    ∀ expr : Expr, (expr.rebuild decimal).hasNotation = expr.hasNotation
  | .decimal value _ => notated value
  | .integer .. | .text .. | .atom .. | .boolean .. | .nil _ | .ident _ | .typeName .. => rfl
  | .binary left _ right _ | .alternative left right _ => by
      simp only [rebuild, hasNotation, hasNotation_rebuild notated left,
        hasNotation_rebuild notated right]
  | .unary _ inner _ | .field inner _ _ | .pipe inner _ _ | .result _ inner _
  | .lambda _ inner _ => by
      simp only [rebuild, hasNotation, hasNotation_rebuild notated inner]
  | .call _ elements _ | .delegate _ elements _ | .tuple elements _ | .list elements none _ => by
      simp only [rebuild, hasNotation, allHaveNotation_rebuild notated elements]
  | .pipeCall inner _ elements _ _ | .list elements (some inner) _ => by
      simp only [rebuild, hasNotation, hasNotation_rebuild notated inner,
        allHaveNotation_rebuild notated elements]
  | .map entries _ | .record _ entries _ => by
      simp only [rebuild, hasNotation, entriesHaveNotation_rebuild notated entries]
  | .conditional condition thenBranch elseBranch _ => by
      simp only [rebuild, hasNotation, hasNotation_rebuild notated condition,
        hasNotation_rebuild notated thenBranch, hasNotation_rebuild notated elseBranch]

theorem allHaveNotation_rebuild (notated : ∀ value, (decimal value).hasNotation = true) :
    ∀ exprs : List Expr, allHaveNotation (rebuildAll decimal exprs) = allHaveNotation exprs
  | [] => rfl
  | expr :: rest => by
      simp only [rebuildAll, allHaveNotation, hasNotation_rebuild notated expr,
        allHaveNotation_rebuild notated rest]

theorem entriesHaveNotation_rebuild (notated : ∀ value, (decimal value).hasNotation = true) :
    ∀ entries : List (String × Expr),
      entriesHaveNotation (rebuildEntries decimal entries) = entriesHaveNotation entries
  | [] => rfl
  | (key, expr) :: rest => by
      simp only [rebuildEntries, entriesHaveNotation, hasNotation_rebuild notated expr,
        entriesHaveNotation_rebuild notated rest]

end

theorem hasNotation_settledDecimal (value : Binary64) :
    (settledDecimal value).hasNotation = true := by
  rw [settledDecimal]
  split <;> rfl

/-! ## Finite literals -/

def isFinitePart : Expr → Bool
  | .decimal value _ => value.isFinite
  | _ => true

/-- Whether all decimal literals in an expression are finite. -/
def isFinite (expr : Expr) : Bool :=
  expr.every isFinitePart

mutual

theorem settled_eq_unplaced : ∀ {expr : Expr}, expr.isFinite = true →
    expr.rebuild settledDecimal = expr.rebuild ofDecimal
  | .decimal value _, finite => if_pos finite
  | .integer .., _ | .text .., _ | .atom .., _ | .boolean .., _ | .nil _, _ | .ident _, _
  | .typeName .., _ => rfl
  | .binary left _ right _, finite | .alternative left right _, finite => by
      simp only [isFinite, every, isFinitePart, Bool.true_and, Bool.and_eq_true] at finite
      simp only [rebuild, settled_eq_unplaced finite.1, settled_eq_unplaced finite.2]
  | .unary _ inner _, finite | .field inner _ _, finite | .pipe inner _ _, finite
  | .result _ inner _, finite | .lambda _ inner _, finite => by
      simp only [isFinite, every, isFinitePart, Bool.true_and] at finite
      simp only [rebuild, settled_eq_unplaced finite]
  | .call _ elements _, finite | .delegate _ elements _, finite | .tuple elements _, finite
  | .list elements none _, finite => by
      simp only [isFinite, every, isFinitePart, Bool.true_and] at finite
      simp only [rebuild, allSettled_eq_unplaced finite]
  | .pipeCall left _ arguments _ _, finite => by
      simp only [isFinite, every, isFinitePart, Bool.true_and, Bool.and_eq_true] at finite
      simp only [rebuild, settled_eq_unplaced finite.1, allSettled_eq_unplaced finite.2]
  | .list elements (some tail) _, finite => by
      simp only [isFinite, every, isFinitePart, Bool.true_and, Bool.and_eq_true] at finite
      simp only [rebuild, allSettled_eq_unplaced finite.1, settled_eq_unplaced finite.2]
  | .map entries _, finite | .record _ entries _, finite => by
      simp only [isFinite, every, isFinitePart, Bool.true_and] at finite
      simp only [rebuild, entriesSettled_eq_unplaced finite]
  | .conditional condition thenBranch elseBranch _, finite => by
      simp only [isFinite, every, isFinitePart, Bool.true_and, Bool.and_eq_true] at finite
      simp only [rebuild, settled_eq_unplaced finite.1.1, settled_eq_unplaced finite.1.2,
        settled_eq_unplaced finite.2]

theorem allSettled_eq_unplaced : ∀ {exprs : List Expr}, everyOfAll isFinitePart exprs = true →
    rebuildAll settledDecimal exprs = rebuildAll ofDecimal exprs
  | [], _ => rfl
  | expr :: rest, finite => by
      simp only [everyOfAll, Bool.and_eq_true] at finite
      simp only [rebuildAll, settled_eq_unplaced finite.1, allSettled_eq_unplaced finite.2]

theorem entriesSettled_eq_unplaced : ∀ {entries : List (String × Expr)},
    everyOfEntries isFinitePart entries = true →
      rebuildEntries settledDecimal entries = rebuildEntries ofDecimal entries
  | [], _ => rfl
  | (key, expr) :: rest, finite => by
      simp only [everyOfEntries, Bool.and_eq_true] at finite
      simp only [rebuildEntries, settled_eq_unplaced finite.1, entriesSettled_eq_unplaced finite.2]

end

end ClauseFlow.Expr

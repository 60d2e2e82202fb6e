import Mathlib.Logic.Basic
import ClauseFlow.Declaration.Print
import ClauseFlow.Proofs.Expr.Places
import ClauseFlow.Proofs.Text.Lines

/-!
# Declarations without their places

A declaration without its places is what is left when all spans are forgotten; a bare one has no
documentation either. A declaration that has been printed and read again is settled: besides its
numbers, its documentation is that of its printed lines.
-/

namespace ClauseFlow

namespace Head

/-- A head with its spans forgotten and its decimals replaced. -/
def rebuild (pattern : Pattern → Pattern) (expr : Expr → Expr) : Head → Head
  | plain function => plain ⟨function.name, function.params.map pattern, .generated⟩
  | guarded function guard _ =>
      guarded ⟨function.name, function.params.map pattern, .generated⟩ (expr guard) .generated

def unplaced : Head → Head :=
  rebuild Pattern.unplaced Expr.unplaced

/-- What a head is read as again. -/
def settled : Head → Head :=
  rebuild Pattern.settled Expr.settled

/-- Whether all decimals in a head are finite. -/
def isFinite (head : Head) : Bool :=
  head.params.all Pattern.isFinite && (head.guard?.map Expr.isFinite).getD true

theorem settled_eq_unplaced {head : Head} (finite : head.isFinite = true) :
    head.settled = head.unplaced := by
  have sameParams {params : List Pattern} (finite : params.all Pattern.isFinite = true) :
      params.map Pattern.settled = params.map Pattern.unplaced :=
    List.map_congr_left fun pattern member =>
      Pattern.settled_eq_unplaced (List.all_eq_true.mp finite pattern member)
  simp only [isFinite, Bool.and_eq_true] at finite
  cases head with
  | plain function => exact congrArg (fun params => plain ⟨_, params, _⟩) (sameParams finite.1)
  | guarded function guard span =>
      have sameGuard : guard.settled = guard.unplaced := Expr.settled_eq_unplaced finite.2
      exact congrArg₂ (fun params guard => guarded ⟨_, params, _⟩ guard _) (sameParams finite.1)
        sameGuard

end Head

namespace Declaration

/-- The lines of the documentation of a declaration. -/
def docTexts (declaration : Declaration) : List String :=
  match declaration.doc? with
  | some doc => Text.lines doc
  | none => []

/-- The documentation that is read again from lines. -/
def docOf? (texts : List String) : Option String :=
  if texts.isEmpty then none else some (Text.join "\n" texts)

/-- The line of the code of a declaration. -/
def codeText (declaration : Declaration) : String :=
  (if declaration.synthesized then "pipe" else "def") ++ " " ++ declaration.head.print ++ " -> " ++
    declaration.body.print 0

/-- A declaration with its spans forgotten. -/
def unplaced (declaration : Declaration) : Declaration where
  head := declaration.head.unplaced
  body := declaration.body.unplaced
  synthesized := declaration.synthesized
  doc? := declaration.doc?
  span := .generated

/-- What a declaration is read as again, with its spans forgotten. -/
def settled (declaration : Declaration) : Declaration where
  head := declaration.head.settled
  body := declaration.body.settled
  synthesized := declaration.synthesized
  doc? := docOf? declaration.docTexts
  span := .generated

/-- A declaration with its spans and its documentation forgotten. -/
def bare (declaration : Declaration) : Declaration :=
  { declaration.unplaced with doc? := none }

/-- Whether all decimals in a declaration are finite. -/
def isFinite (declaration : Declaration) : Bool :=
  declaration.head.isFinite && declaration.body.isFinite

theorem bare_settled {declaration : Declaration} (finite : declaration.isFinite = true) :
    { declaration.settled with doc? := none } = declaration.bare := by
  simp only [isFinite, Bool.and_eq_true] at finite
  have body : declaration.body.settled = declaration.body.unplaced :=
    Expr.settled_eq_unplaced finite.2
  simp only [bare, settled, unplaced, Head.settled_eq_unplaced finite.1, body]

end Declaration

namespace Module

/-- A module with the spans and the documentation of its declarations forgotten. -/
def bare (module : Module) : Module :=
  ⟨module.declarations.map Declaration.bare, .generated⟩

/-- Whether all decimals in a module are finite. -/
def isFinite (module : Module) : Bool :=
  module.declarations.all Declaration.isFinite

end Module

/-! ## Printing without places -/

namespace Pattern

theorem printAll_eq (patterns : List Pattern) : printAll patterns = patterns.map print := by
  induction patterns with
  | nil => rfl
  | cons pattern rest ih => rw [printAll, ih, List.map_cons]

end Pattern

namespace Head

theorem print_rebuild {pattern : Pattern → Pattern} {expr : Expr → Expr}
    (samePattern : ∀ found, (pattern found).print = found.print)
    (sameExpr : ∀ found, (expr found).print 0 = found.print 0) (head : Head) :
    (head.rebuild pattern expr).print = head.print := by
  have params (found : List Pattern) : Pattern.printAll (found.map pattern) =
      Pattern.printAll found := by
    rw [Pattern.printAll_eq, Pattern.printAll_eq, List.map_map]
    exact List.map_congr_left fun found _ => samePattern found
  cases head with
  | plain function =>
      exact congrArg (fun params => function.name ++ "(" ++ Text.commas params ++ ")")
        (params function.params)
  | guarded function guard span =>
      exact congrArg₂ (fun params guard =>
        function.name ++ "(" ++ Text.commas params ++ ")" ++ " when " ++ guard)
        (params function.params) (sameExpr guard)

theorem print_unplaced (head : Head) : head.unplaced.print = head.print :=
  print_rebuild Pattern.print_unplaced (Expr.print_unplaced 0) head

theorem print_settled (head : Head) : head.settled.print = head.print :=
  print_rebuild Pattern.print_settled (Expr.print_settled 0) head

theorem hasNotation_rebuild {pattern : Pattern → Pattern} {expr : Expr → Expr}
    (samePattern : ∀ found, (pattern found).hasNotation = found.hasNotation)
    (sameExpr : ∀ found, (expr found).hasNotation = found.hasNotation) (head : Head) :
    (head.rebuild pattern expr).hasNotation = head.hasNotation := by
  have params (found : List Pattern) : Pattern.allHaveNotation (found.map pattern) =
      Pattern.allHaveNotation found := by
    induction found with
    | nil => rfl
    | cons first rest ih =>
        rw [List.map_cons, Pattern.allHaveNotation, samePattern, ih, Pattern.allHaveNotation]
  cases head with
  | plain function => exact congrArg (· && true) (params function.params)
  | guarded function guard span =>
      exact congrArg₂ (· && ·) (params function.params) (sameExpr guard)

theorem name_rebuild (pattern : Pattern → Pattern) (expr : Expr → Expr) (head : Head) :
    (head.rebuild pattern expr).name = head.name := by
  cases head <;> rfl

end Head

end ClauseFlow

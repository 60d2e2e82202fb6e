import Mathlib.Data.List.Pairwise
import ClauseFlow.Proofs.Declaration.Nesting

/-!
# Lambdas side by side

The lambdas that are in no other lambda are those that an expression turns into closures itself. In
a well nested expression no two of them are in one place.
-/

namespace ClauseFlow

namespace Expr

mutual

/-- The bodies of the lambdas in an expression that are in no other lambda. -/
def outerBodies : Expr → List Expr
  | .integer .. | .decimal .. | .text .. | .atom .. | .boolean .. | .nil _ | .ident _
  | .typeName .. => []
  | .binary left _ right _ | .alternative left right _ => outerBodies left ++ outerBodies right
  | .unary _ operand _ => outerBodies operand
  | .call _ arguments _ | .delegate _ arguments _ => outerBodiesOfAll arguments
  | .field subject _ _ => outerBodies subject
  | .pipe left _ _ => outerBodies left
  | .pipeCall left _ arguments _ _ => outerBodies left ++ outerBodiesOfAll arguments
  | .result _ value _ => outerBodies value
  | .tuple elements _ => outerBodiesOfAll elements
  | .list elements none _ => outerBodiesOfAll elements
  | .list elements (some tail) _ => outerBodiesOfAll elements ++ outerBodies tail
  | .map entries _ | .record _ entries _ => outerBodiesOfEntries entries
  | .lambda _ body _ => [body]
  | .conditional condition thenBranch elseBranch _ =>
      outerBodies condition ++ outerBodies thenBranch ++ outerBodies elseBranch

def outerBodiesOfAll : List Expr → List Expr
  | [] => []
  | expr :: rest => outerBodies expr ++ outerBodiesOfAll rest

def outerBodiesOfEntries : List (String × Expr) → List Expr
  | [] => []
  | (_, expr) :: rest => outerBodies expr ++ outerBodiesOfEntries rest

end

theorem outerBodiesOfAll_eq (exprs : List Expr) :
    outerBodiesOfAll exprs = exprs.flatMap outerBodies := by
  induction exprs with
  | nil => rfl
  | cons expr rest ih => rw [outerBodiesOfAll, ih, List.flatMap_cons]

theorem outerBodiesOfEntries_eq (entries : List (String × Expr)) :
    outerBodiesOfEntries entries = (entries.map (·.2)).flatMap outerBodies := by
  induction entries with
  | nil => rfl
  | cons entry rest ih => rw [outerBodiesOfEntries, ih, List.map_cons, List.flatMap_cons]

/-- Apart from a lambda, an expression has the outer lambdas of its parts. -/
theorem outerBodies_eq {expr : Expr}
    (noLambda : ∀ params body span, expr ≠ .lambda params body span) :
    expr.outerBodies = expr.children.flatMap outerBodies := by
  cases expr with
  | lambda params body span => exact absurd rfl (noLambda params body span)
  | list elements tail? span =>
      cases tail? <;> simp [outerBodies, children, outerBodiesOfAll_eq]
  | _ => simp [outerBodies, children, outerBodiesOfAll_eq, outerBodiesOfEntries_eq]

mutual

/-- What holds of an expression if it holds of its parts holds of every expression. -/
theorem of_children {holds : Expr → Prop}
    (step : ∀ expr : Expr, (∀ child ∈ expr.children, holds child) → holds expr) :
    ∀ expr : Expr, holds expr
  | .integer .. | .decimal .. | .text .. | .atom .. | .boolean .. | .nil _ | .ident _
  | .typeName .. => step _ (List.forall_mem_nil _)
  | .binary left _ right _ | .alternative left right _ =>
      step _ (List.forall_mem_cons.mpr
        ⟨of_children step left, List.forall_mem_singleton.mpr (of_children step right)⟩)
  | .unary _ inner _ | .field inner _ _ | .result _ inner _ | .lambda _ inner _ =>
      step _ (List.forall_mem_singleton.mpr (of_children step inner))
  | .call callee arguments _ | .delegate callee arguments _ =>
      step _ (List.forall_mem_cons.mpr ⟨step (.ident callee) (List.forall_mem_nil _),
        allOf_children step arguments⟩)
  | .pipe left callee _ =>
      step _ (List.forall_mem_cons.mpr ⟨of_children step left, List.forall_mem_singleton.mpr
        (step (.ident callee) (List.forall_mem_nil _))⟩)
  | .pipeCall left callee arguments callSpan _ =>
      step _ (List.forall_mem_cons.mpr ⟨of_children step left, List.forall_mem_singleton.mpr
        (step (.call callee arguments callSpan) (List.forall_mem_cons.mpr
          ⟨step (.ident callee) (List.forall_mem_nil _), allOf_children step arguments⟩))⟩)
  | .tuple elements _ => step _ (allOf_children step elements)
  | .list elements none _ =>
      step _ (List.forall_mem_append.mpr ⟨allOf_children step elements, List.forall_mem_nil _⟩)
  | .list elements (some tail) _ =>
      step _ (List.forall_mem_append.mpr
        ⟨allOf_children step elements, List.forall_mem_singleton.mpr (of_children step tail)⟩)
  | .map entries _ | .record _ entries _ => step _ (entriesOf_children step entries)
  | .conditional condition thenBranch elseBranch _ =>
      step _ (List.forall_mem_cons.mpr ⟨of_children step condition, List.forall_mem_cons.mpr
        ⟨of_children step thenBranch, List.forall_mem_singleton.mpr (of_children step elseBranch)⟩⟩)

theorem allOf_children {holds : Expr → Prop}
    (step : ∀ expr : Expr, (∀ child ∈ expr.children, holds child) → holds expr) :
    ∀ exprs : List Expr, ∀ expr ∈ exprs, holds expr
  | [] => List.forall_mem_nil _
  | expr :: rest => List.forall_mem_cons.mpr ⟨of_children step expr, allOf_children step rest⟩

theorem entriesOf_children {holds : Expr → Prop}
    (step : ∀ expr : Expr, (∀ child ∈ expr.children, holds child) → holds expr) :
    ∀ entries : List (String × Expr), ∀ expr ∈ entries.map (·.2), holds expr
  | [] => List.forall_mem_nil _
  | (_, expr) :: rest =>
      List.forall_mem_cons.mpr ⟨of_children step expr, entriesOf_children step rest⟩

end

end Expr

namespace Node

variable {whole : Span} {nodes : List Node}

theorem WellNested.of_mem_children {tree child : Node} (nested : tree.WellNested)
    (member : child ∈ tree.children) : child.WellNested :=
  fun part hasPart => nested part (.child member hasPart)

/-- The parts of a well nested tree are a row. -/
theorem WellNested.row {tree : Node} (nested : tree.WellNested) : Row tree.span tree.children where
  nested _ member := nested.of_mem_children member
  within := nested.isNested.within
  apart := nested.isNested.apart

/-- In a row, nodes can be replaced by rows within them. -/
theorem Row.flatMap {parts : Node → List Node} (row : Row whole nodes)
    (inner : ∀ node ∈ nodes, Row node.span (parts node)) : Row whole (nodes.flatMap parts) where
  nested part member := by
    rcases List.mem_flatMap.mp member with ⟨node, isNode, isPart⟩
    exact (inner node isNode).nested part isPart
  within part member := by
    rcases List.mem_flatMap.mp member with ⟨node, isNode, isPart⟩
    have outer := row.within node isNode
    have inside := (inner node isNode).within part isPart
    exact ⟨outer.first.trans inside.first, inside.last.trans outer.last⟩
  apart := by
    apply List.pairwise_flatMap.mpr
    refine ⟨fun node isNode => (inner node isNode).apart, ?_⟩
    apply row.apart.imp_of_mem
    intro node later isNode isLater precedes part isPart laterPart isLaterPart
    have before := ((inner node isNode).within part isPart).last
    have behind := ((inner later isLater).within laterPart isLaterPart).first
    exact (before.trans_lt precedes).trans_le behind

/-- In a row, no two nodes are in one place. -/
theorem Row.eq_of_span_eq (row : Row whole nodes) {node other : Node} (isNode : node ∈ nodes)
    (isOther : other ∈ nodes) (same : node.span = other.span) : node = other := by
  have apart : nodes.Pairwise fun node other => node.span = other.span → node = other := by
    apply row.apart.imp_of_mem
    intro node later isNode _ precedes same
    have ordered := (row.nested node isNode).isNested.ordered
    rw [Precedes, ← same] at precedes
    exact absurd precedes (not_lt_of_ge ordered)
  have symmetric : Std.Symm fun node other : Node => node.span = other.span → node = other :=
    ⟨fun _ _ known same => (known same.symm).symm⟩
  exact List.Pairwise.forall_of_forall (fun _ _ _ => rfl) apart isNode isOther same

/-- The bodies of the outer lambdas of an expression. -/
def outerBodies : Node → List Node
  | ofExpr expr => expr.outerBodies.map ofExpr
  | _ => []

/-- The outer lambdas of a well nested expression are side by side. -/
theorem row_outerBodies (expr : Expr) : (ofExpr expr).WellNested →
    Row expr.span (expr.outerBodies.map ofExpr) := by
  induction expr using Expr.of_children with
  | step expr ih =>
      intro nested
      -- A lambda has its own body only, which is among its parts; else each part has a row.
      by_cases isLambda : ∃ params body span, expr = .lambda params body span
      · rcases isLambda with ⟨params, body, span, rfl⟩
        exact nested.row
      · have noLambda : ∀ params body span, expr ≠ .lambda params body span :=
          fun params body span same => isLambda ⟨params, body, span, same⟩
        have inner : ∀ node ∈ (ofExpr expr).children, Row node.span node.outerBodies := by
          intro node isPart
          rcases List.mem_map.mp isPart with ⟨child, isChild, rfl⟩
          exact ih child isChild (nested.of_mem_children isPart)
        have row := nested.row.flatMap inner
        rw [children, List.flatMap_map] at row
        rw [Expr.outerBodies_eq noLambda, List.map_flatMap]
        exact row

/-- In a well nested expression, outer lambdas with bodies in one place are one. -/
theorem WellNested.eq_of_span_eq {expr body body' : Expr} (nested : (ofExpr expr).WellNested)
    (isBody : body ∈ expr.outerBodies) (isBody' : body' ∈ expr.outerBodies)
    (same : body.span = body'.span) : body = body' :=
  ofExpr.inj ((row_outerBodies expr nested).eq_of_span_eq (List.mem_map_of_mem isBody)
    (List.mem_map_of_mem isBody') same)

end Node
end ClauseFlow

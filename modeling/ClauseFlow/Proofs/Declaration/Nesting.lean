import ClauseFlow.Declaration
import ClauseFlow.Token
import ClauseFlow.Proofs.Text.Positions

/-!
# Syntax trees and their spans

In a well nested tree each node lies within its parent and behind the siblings before it. Trees grow
in rows: a row of nodes that stand one behind the other stays one if some neighbours in it are
folded into a node that reaches from the first of them to the last.
-/

namespace ClauseFlow

open scoped List

/-- Whether a span lies in another one. -/
structure Span.Within (span whole : Span) : Prop where
  first : whole.first ≤ span.first
  last : span.last ≤ whole.last

/-- What has a place in a text: a part of a syntax tree, or a token that has not become one. -/
inductive Node where
  | ofToken (token : Token)
  | ofPattern (pattern : Pattern)
  | ofExpr (expr : Expr)
  | ofHead (head : Head)
  | ofDeclaration (declaration : Declaration)
  | ofModule (module : Module)

namespace Node

def span : Node → Span
  | ofToken token => token.span
  | ofPattern pattern => pattern.span
  | ofExpr expr => expr.span
  | ofHead head => head.span
  | ofDeclaration declaration => declaration.span
  | ofModule module => module.span

/-- The direct parts of a node, from left to right. -/
def children : Node → List Node
  | ofToken _ => []
  | ofPattern pattern => pattern.children.map ofPattern
  | ofExpr expr => expr.children.map ofExpr
  | ofHead (.plain function) => function.params.map ofPattern
  | ofHead (.guarded function guard _) => [ofHead (.plain function), ofExpr guard]
  | ofDeclaration declaration => [ofHead declaration.head, ofExpr declaration.body]
  | ofModule module => module.declarations.map ofDeclaration

/-- Whether a node occurs in a tree, as its root or further down. -/
inductive HasPart : Node → Node → Prop
  | root {tree : Node} : HasPart tree tree
  | child {tree child part : Node} : child ∈ tree.children → HasPart child part → HasPart tree part

/-- Whether one node ends before another one begins. -/
def Precedes (node later : Node) : Prop :=
  node.span.last < later.span.first

/-- Whether a node does not end before it begins, and its children lie in it one behind the
other. -/
structure IsNested (node : Node) : Prop where
  ordered : node.span.first ≤ node.span.last
  within : ∀ child ∈ node.children, child.span.Within node.span
  apart : node.children.Pairwise Precedes

/-- Whether every node of a tree is nested. -/
def WellNested (tree : Node) : Prop :=
  ∀ part, tree.HasPart part → part.IsNested

theorem WellNested.intro {tree : Node} (root : tree.IsNested)
    (below : ∀ child ∈ tree.children, child.WellNested) : tree.WellNested := by
  intro part hasPart
  cases hasPart with
  | root => exact root
  | child member hasPart => exact below _ member part hasPart

theorem WellNested.isNested {tree : Node} (nested : tree.WellNested) : tree.IsNested :=
  nested tree .root

/-! ## Rows -/

/-- Whether well nested trees lie in a span, one behind the other. -/
structure Row (whole : Span) (nodes : List Node) : Prop where
  nested : ∀ node ∈ nodes, node.WellNested
  within : ∀ node ∈ nodes, node.span.Within whole
  apart : nodes.Pairwise Precedes

theorem WellNested.of_row {tree : Node} (ordered : tree.span.first ≤ tree.span.last)
    (row : Row tree.span tree.children) : tree.WellNested :=
  .intro ⟨ordered, row.within, row.apart⟩ row.nested

theorem wellNested_ofToken {token : Token} (ordered : token.span.first ≤ token.span.last) :
    (ofToken token).WellNested :=
  .of_row ordered ⟨List.forall_mem_nil _, List.forall_mem_nil _, .nil⟩

variable {whole : Span} {nodes held made : List Node} {first last node : Node}

theorem Row.sublist (row : Row whole nodes) (fewer : held <+ nodes) : Row whole held where
  nested := fun node member => row.nested node (fewer.subset member)
  within := fun node member => row.within node (fewer.subset member)
  apart := row.apart.sublist fewer

theorem Row.first_le (row : Row whole nodes) (starts : nodes.head? = some first)
    (member : node ∈ nodes) : first.span.first ≤ node.span.first := by
  rcases List.head?_eq_some_iff.mp starts with ⟨others, rfl⟩
  rcases List.mem_cons.mp member with rfl | member
  · exact le_rfl
  · have ordered := (row.nested first (.head _)).isNested.ordered
    exact ordered.trans (List.rel_of_pairwise_cons row.apart member).le

theorem Row.le_last (row : Row whole nodes) (ends : nodes.getLast? = some last)
    (member : node ∈ nodes) : node.span.last ≤ last.span.last := by
  rcases List.getLast?_eq_some_iff.mp ends with ⟨others, rfl⟩
  rcases List.mem_append.mp member with member | member
  · have ordered := (row.nested last (by simp)).isNested.ordered
    have precedes := (List.pairwise_append.mp row.apart).2.2 node member last (.head _)
    exact (le_of_lt precedes).trans ordered
  · rw [List.mem_singleton.mp member]

/-- A node over some nodes of a row, from the first to the last of them. -/
theorem Row.isNested (row : Row whole held) (starts : held.head? = some first)
    (ends : held.getLast? = some last) (sameFirst : node.span.first = first.span.first)
    (sameLast : node.span.last = last.span.last) (parts : node.children <+ held) :
    node.IsNested where
  ordered := by
    have member := List.mem_of_getLast? ends
    have ordered := (row.nested last member).isNested.ordered
    rw [sameFirst, sameLast]
    exact (row.first_le starts member).trans ordered
  within := by
    intro child member
    have held := parts.subset member
    constructor
    · rw [sameFirst]
      exact row.first_le starts held
    · rw [sameLast]
      exact row.le_last ends held
  apart := row.apart.sublist parts

/-- A node between those before and those after it. -/
theorem Row.insert {before after : List Node} (row : Row whole (before ++ after))
    (nested : node.WellNested) (within : node.span.Within whole)
    (behind : ∀ earlier ∈ before, earlier.Precedes node)
    (ahead : ∀ later ∈ after, node.Precedes later) : Row whole (before ++ ([node] ++ after)) where
  nested := by
    rcases List.forall_mem_append.mp row.nested with ⟨nestedBefore, nestedAfter⟩
    have others : ∀ other ∈ node :: after, other.WellNested :=
      List.forall_mem_cons.mpr ⟨nested, nestedAfter⟩
    exact List.forall_mem_append.mpr ⟨nestedBefore, others⟩
  within := by
    rcases List.forall_mem_append.mp row.within with ⟨withinBefore, withinAfter⟩
    have others : ∀ other ∈ node :: after, other.span.Within whole :=
      List.forall_mem_cons.mpr ⟨within, withinAfter⟩
    exact List.forall_mem_append.mpr ⟨withinBefore, others⟩
  apart := by
    rcases List.pairwise_append.mp row.apart with ⟨apartBefore, apartAfter, across⟩
    apply List.pairwise_append.mpr
    refine ⟨apartBefore, List.pairwise_cons.mpr ⟨ahead, apartAfter⟩, ?_⟩
    intro earlier member
    exact List.forall_mem_cons.mpr ⟨behind earlier member, across earlier member⟩

/-! ## Folding -/

/-- Whether nodes can take the place of others in every row. -/
def Folds (held made : List Node) : Prop :=
  ∀ whole before after,
    Row whole (before ++ (held ++ after)) → Row whole (before ++ (made ++ after))

namespace Folds

theorem keep : Folds held held :=
  fun _ _ _ row => row

/-- Nodes may be left out. -/
theorem drop (fewer : made <+ held) : Folds held made :=
  fun _ _ _ row => row.sublist ((List.Sublist.refl _).append (fewer.append (.refl _)))

/-- Nodes become one that reaches from the first of them to the last. -/
theorem intro (starts : held.head? = some first) (ends : held.getLast? = some last)
    (sameFirst : node.span.first = first.span.first) (sameLast : node.span.last = last.span.last)
    (parts : node.children <+ held) : Folds held [node] := by
  intro whole before after row
  have inner : Row whole held :=
    row.sublist ((List.sublist_append_left held after).trans (List.sublist_append_right _ _))
  have outer : Row whole (before ++ after) :=
    row.sublist ((List.Sublist.refl _).append (List.sublist_append_right _ _))
  have firstHeld := List.mem_of_head? starts
  have lastHeld := List.mem_of_getLast? ends
  rcases List.pairwise_append.mp row.apart with ⟨_, apartHeld, across⟩
  apply outer.insert
  · apply WellNested.intro (inner.isNested starts ends sameFirst sameLast parts)
    intro child member
    exact inner.nested child (parts.subset member)
  · constructor
    · rw [sameFirst]
      exact (inner.within first firstHeld).first
    · rw [sameLast]
      exact (inner.within last lastHeld).last
  · intro earlier member
    rw [Precedes, sameFirst]
    exact across earlier member first (List.mem_append_left _ firstHeld)
  · intro later member
    rw [Precedes, sameLast]
    exact (List.pairwise_append.mp apartHeld).2.2 last lastHeld later member

/-- A node without children that stands where another one stood. -/
theorem leaf (same : node.span = first.span) (bare : node.children = []) :
    Folds [first] [node] := by
  apply intro rfl rfl (congrArg _ same) (congrArg _ same)
  rw [bare]
  exact List.nil_sublist _

/-- A node from the first to the last of some nodes. -/
theorem through {inner : List Node} (same : node.span = first.span.through last.span)
    (parts : node.children <+ first :: (inner ++ [last])) :
    Folds (first :: (inner ++ [last])) [node] := by
  apply intro rfl (List.getLast?_concat (l := first :: inner))
  · rw [same, Span.first_through]
  · rw [same, Span.last_through]
  · exact parts

theorem pair (same : node.span = first.span.through last.span)
    (parts : node.children <+ [first, last]) : Folds [first, last] [node] :=
  @through _ _ _ [] same parts

/-- A node from one token to another one, with the nodes between them as children. -/
theorem enclosed {inner : List Node} (same : node.span = first.span.through last.span)
    (parts : node.children = inner) : Folds (first :: (inner ++ [last])) [node] := by
  apply through same
  rw [parts]
  exact (List.sublist_append_left _ _).cons _

end Folds
end Node
end ClauseFlow

import ClauseFlow.Proofs.Eval.Likeness
import ClauseFlow.Proofs.Expr.Every
import ClauseFlow.Proofs.Shape.Patterns

/-!
# Guards of one shape

Guards of one shape are alike: they differ only in places and in names, and names at corresponding
places have the same number or are the same name from elsewhere. This holds of guards as the grammar
writes them, without `fn`: the parameters of a lambda would be numbered too, and a shape forgets the
sign of a zero.
-/

namespace ClauseFlow.Shape

/-! ## Guards in a numbering -/

/-- The tree of an expression in a numbering, as shapes are compared. -/
def exprTree (expr : Expr) (state : Numbering) : Tree :=
  ((ofExpr expr).run state).1.unsigned

def exprTrees (exprs : List Expr) (state : Numbering) : List Tree :=
  Tree.unsignedAll ((ofExprs exprs).run state).1

def exprEntryTrees (entries : List (String × Expr)) (state : Numbering) : List Tree :=
  Tree.unsignedAll ((ofExprEntries entries).run state).1

/-- The tree of a use of a name. -/
def useTree (name : String) (state : Numbering) : Tree :=
  ((useOf name).run state).1

theorem useOf_snd (name : String) (state : Numbering) : ((useOf name).run state).2 = state := by
  change (useOf name state).2 = state
  rw [useOf]
  cases state.numbers.lookup name <;> rfl

theorem unsigned_useTree (name : String) (state : Numbering) :
    (useTree name state).unsigned = useTree name state := by
  change Tree.unsigned (useOf name state).1 = (useOf name state).1
  rw [useOf]
  cases state.numbers.lookup name <;> rfl

mutual

/-- A plain expression numbers nothing. -/
theorem ofExpr_snd : ∀ (expr : Expr) (state : Numbering), expr.isPlain = true →
    ((ofExpr expr).run state).2 = state
  | .integer .., _, _ | .decimal .., _, _ | .text .., _, _ | .atom .., _, _ | .boolean .., _, _
  | .nil _, _, _ | .typeName .., _, _ => rfl
  | .ident identifier, state, _ => useOf_snd identifier.name state
  | .binary left _ right _, state, plain | .alternative left right _, state, plain => by
      simp only [Expr.isPlain, Expr.every, Bool.and_eq_true] at plain
      change ((ofExpr right).run ((ofExpr left).run state).2).2 = state
      rw [ofExpr_snd left state plain.1.2, ofExpr_snd right state plain.2]
  | .unary _ inner _, state, plain | .field inner _ _, state, plain
  | .result _ inner _, state, plain => by
      simp only [Expr.isPlain, Expr.every, Bool.and_eq_true] at plain
      exact ofExpr_snd inner state plain.2
  | .call callee arguments _, state, plain => by
      simp only [Expr.isPlain, Expr.every, Bool.and_eq_true] at plain
      change ((ofExprs arguments).run ((useOf callee.name).run state).2).2 = state
      rw [useOf_snd, ofExprs_snd arguments state plain.2]
  | .delegate .., _, plain => by
      simp [Expr.isPlain, Expr.every, Expr.isPlainPart, Expr.isWrittenPart] at plain
  | .pipe left callee _, state, plain => by
      simp only [Expr.isPlain, Expr.every, Bool.and_eq_true] at plain
      change ((useOf callee.name).run ((ofExpr left).run state).2).2 = state
      rw [ofExpr_snd left state plain.2, useOf_snd]
  | .pipeCall left callee arguments _ _, state, plain => by
      simp only [Expr.isPlain, Expr.every, Bool.and_eq_true] at plain
      change ((ofExprs arguments).run ((useOf callee.name).run ((ofExpr left).run state).2).2).2 =
        state
      rw [ofExpr_snd left state plain.1.2, useOf_snd, ofExprs_snd arguments state plain.2]
  | .tuple elements _, state, plain | .list elements none _, state, plain => by
      simp only [Expr.isPlain, Expr.every, Bool.and_eq_true] at plain
      exact ofExprs_snd elements state plain.2
  | .list elements (some tail) _, state, plain => by
      simp only [Expr.isPlain, Expr.every, Bool.and_eq_true] at plain
      change ((ofExpr tail).run ((ofExprs elements).run state).2).2 = state
      rw [ofExprs_snd elements state plain.1.2, ofExpr_snd tail state plain.2]
  | .map entries _, state, plain | .record _ entries _, state, plain => by
      simp only [Expr.isPlain, Expr.every, Bool.and_eq_true] at plain
      exact ofExprEntries_snd entries state plain.2
  | .lambda .., _, plain => by
      simp [Expr.isPlain, Expr.every, Expr.isPlainPart, Expr.isNoLambda] at plain
  | .conditional condition thenBranch elseBranch _, state, plain => by
      simp only [Expr.isPlain, Expr.every, Bool.and_eq_true] at plain
      change ((ofExpr elseBranch).run
        ((ofExpr thenBranch).run ((ofExpr condition).run state).2).2).2 = state
      rw [ofExpr_snd condition state plain.1.1.2, ofExpr_snd thenBranch state plain.1.2,
        ofExpr_snd elseBranch state plain.2]

theorem ofExprs_snd : ∀ (exprs : List Expr) (state : Numbering),
    Expr.everyOfAll Expr.isPlainPart exprs = true →
      ((ofExprs exprs).run state).2 = state
  | [], _, _ => rfl
  | expr :: rest, state, plain => by
      simp only [Expr.everyOfAll, Bool.and_eq_true] at plain
      change ((ofExprs rest).run ((ofExpr expr).run state).2).2 = state
      rw [ofExpr_snd expr state plain.1, ofExprs_snd rest state plain.2]

theorem ofExprEntries_snd : ∀ (entries : List (String × Expr)) (state : Numbering),
    Expr.everyOfEntries Expr.isPlainPart entries = true →
      ((ofExprEntries entries).run state).2 = state
  | [], _, _ => rfl
  | (_, expr) :: rest, state, plain => by
      simp only [Expr.everyOfEntries, Bool.and_eq_true] at plain
      change ((ofExprEntries rest).run ((ofExpr expr).run state).2).2 = state
      rw [ofExpr_snd expr state plain.1, ofExprEntries_snd rest state plain.2]

end

section

variable (state : Numbering) (span : Span)

@[simp] theorem exprTree_integer (value : Nat) :
    exprTree (.integer value span) state =
      .branch [.word "IntegerLit", .branch [.word "int", .integer value]] := rfl

@[simp] theorem exprTree_decimal (value : Binary64) :
    exprTree (.decimal value span) state =
      .branch [.word "DecimalLit", .branch [.word "float", .decimal value.unsignZero]] := rfl

@[simp] theorem exprTree_text (value : String) :
    exprTree (.text value span) state = .branch [.word "StringLit", Tree.text value] := rfl

@[simp] theorem exprTree_atom (name : String) :
    exprTree (.atom name span) state = .branch [.word "AtomLit", Tree.text name] := rfl

@[simp] theorem exprTree_boolean (value : Bool) :
    exprTree (.boolean value span) state =
      .branch [.word "BooleanLit", .branch [.word "bool", .flag value]] := rfl

@[simp] theorem exprTree_nil : exprTree (.nil span) state = .branch [.word "NilLit"] := rfl

@[simp] theorem exprTree_ident (identifier : Identifier) :
    exprTree (.ident identifier) state = useTree identifier.name state :=
  unsigned_useTree identifier.name state

@[simp] theorem exprTree_typeName (name : String) :
    exprTree (.typeName name span) state =
      .branch [.word "TypeIdentifierExpr", Tree.text name] := rfl

@[simp] theorem exprTree_unary (op : UnaryOp) (operand : Expr) :
    exprTree (.unary op operand span) state =
      .branch [.word "UnaryExpr", Tree.text op.text, exprTree operand state] := rfl

@[simp] theorem exprTree_field (subject : Expr) (name : String) :
    exprTree (.field subject name span) state =
      .branch [.word "FieldExpr", exprTree subject state, Tree.text name] := rfl

@[simp] theorem exprTree_result (tag : ResultTag) (value : Expr) :
    exprTree (.result tag value span) state =
      .branch [.word "ResultExpr", Tree.text tag.text, exprTree value state] := rfl

@[simp] theorem exprTree_tuple (elements : List Expr) :
    exprTree (.tuple elements span) state =
      .branch [.word "TupleLiteral", .branch (exprTrees elements state)] := rfl

@[simp] theorem exprTree_list (elements : List Expr) :
    exprTree (.list elements none span) state =
      .branch [.word "ListLiteral", .branch (exprTrees elements state),
        .branch [.word "NoneType", .absent]] := rfl

@[simp] theorem exprTree_map (entries : List (String × Expr)) :
    exprTree (.map entries span) state =
      .branch [.word "MapLiteral", .branch (exprEntryTrees entries state)] := rfl

@[simp] theorem exprTree_record (tag : String) (entries : List (String × Expr)) :
    exprTree (.record tag entries span) state =
      .branch [.word "RecordLiteral", Tree.text tag, .branch (exprEntryTrees entries state)] := rfl

@[simp] theorem exprTree_call (callee : Identifier) (arguments : List Expr) :
    exprTree (.call callee arguments span) state =
      .branch [.word "CallExpr", useTree callee.name state,
        .branch (exprTrees arguments state)] := by
  change Tree.branch [_, Tree.unsigned (useTree callee.name state),
    .branch (exprTrees arguments ((useOf callee.name).run state).2)] = _
  rw [unsigned_useTree, useOf_snd]
  rfl

variable {state}

theorem exprTree_binary {left right : Expr} (plain : left.isPlain = true) (op : BinaryOp) :
    exprTree (.binary left op right span) state =
      .branch [.word "BinaryExpr", exprTree left state, Tree.text op.text,
        exprTree right state] := by
  change Tree.branch [_, _, _, exprTree right ((ofExpr left).run state).2] = _
  rw [ofExpr_snd left state plain]
  rfl

theorem exprTree_alternative {left right : Expr} (plain : left.isPlain = true) :
    exprTree (.alternative left right span) state =
      .branch [.word "AlternativeExpr", exprTree left state, exprTree right state] := by
  change Tree.branch [_, _, exprTree right ((ofExpr left).run state).2] = _
  rw [ofExpr_snd left state plain]
  rfl

theorem exprTree_pipe {left : Expr} (plain : left.isPlain = true) (callee : Identifier) :
    exprTree (.pipe left callee span) state =
      .branch [.word "PipeExpr", exprTree left state, useTree callee.name state] := by
  change Tree.branch [_, _, Tree.unsigned (useTree callee.name ((ofExpr left).run state).2)] = _
  rw [ofExpr_snd left state plain, unsigned_useTree]
  rfl

theorem exprTree_pipeCall {left : Expr} (plain : left.isPlain = true) (callee : Identifier)
    (arguments : List Expr) (callSpan : Span) :
    exprTree (.pipeCall left callee arguments callSpan span) state =
      .branch [.word "PipeExpr", exprTree left state,
        .branch [.word "CallExpr", useTree callee.name state,
          .branch (exprTrees arguments state)]] := by
  change Tree.branch [_, _, .branch [_,
    Tree.unsigned (useTree callee.name ((ofExpr left).run state).2),
    .branch (exprTrees arguments ((useOf callee.name).run ((ofExpr left).run state).2).2)]] = _
  rw [ofExpr_snd left state plain, unsigned_useTree, useOf_snd]
  rfl

theorem exprTree_listWithTail {elements : List Expr} {tail : Expr}
    (plain : Expr.everyOfAll Expr.isPlainPart elements = true) :
    exprTree (.list elements (some tail) span) state =
      .branch [.word "ListLiteral", .branch (exprTrees elements state), exprTree tail state] := by
  change Tree.branch [_, _, exprTree tail ((ofExprs elements).run state).2] = _
  rw [ofExprs_snd elements state plain]
  rfl

theorem exprTree_conditional {condition thenBranch elseBranch : Expr}
    (plain : condition.isPlain = true) (thenPlain : thenBranch.isPlain = true) :
    exprTree (.conditional condition thenBranch elseBranch span) state =
      .branch [.word "IfExpr", exprTree condition state, exprTree thenBranch state,
        exprTree elseBranch state] := by
  change Tree.branch [_, _, exprTree thenBranch ((ofExpr condition).run state).2,
    exprTree elseBranch ((ofExpr thenBranch).run ((ofExpr condition).run state).2).2] = _
  rw [ofExpr_snd condition state plain, ofExpr_snd thenBranch state thenPlain]
  rfl

theorem exprTrees_cons {expr : Expr} {rest : List Expr} (plain : expr.isPlain = true) :
    exprTrees (expr :: rest) state = exprTree expr state :: exprTrees rest state := by
  change _ :: exprTrees rest ((ofExpr expr).run state).2 = _
  rw [ofExpr_snd expr state plain]
  rfl

theorem exprEntryTrees_cons {key : String} {expr : Expr} {rest : List (String × Expr)}
    (plain : expr.isPlain = true) :
    exprEntryTrees ((key, expr) :: rest) state =
      .branch [Tree.text key, exprTree expr state] :: exprEntryTrees rest state := by
  change _ :: exprEntryTrees rest ((ofExpr expr).run state).2 = _
  rw [ofExpr_snd expr state plain]
  rfl

end

/-! ## What kind of expression a tree is of -/

/-- The kind of expression that a tree is of. -/
def Tree.kind : Tree → String
  | .branch (.word label :: _) =>
      if label = "var" ∨ label = "name" then "IdentifierExpr"
      else if label = "fn" then "LambdaExpr"
      else label
  | _ => ""

theorem kind_useTree (name : String) (state : Numbering) :
    (useTree name state).kind = "IdentifierExpr" := by
  change Tree.kind (useOf name state).1 = _
  rw [useOf]
  cases state.numbers.lookup name <;> simp [Tree.kind, Tree.node]

/-- The tree of an expression tells its kind. -/
theorem kind_exprTree (expr : Expr) (state : Numbering) :
    (exprTree expr state).kind = expr.label := by
  cases expr with
  | ident identifier =>
      rw [exprTree_ident]
      exact kind_useTree identifier.name state
  | list elements tail => cases tail <;> rfl
  | _ => rfl

/-! ## Plain guards of one shape are alike -/

/-- Names are linked if they are used alike: with one number, or as the same name from elsewhere. -/
def link (state state' : Numbering) : Link where
  uses name name' := useTree name state = useTree name' state'
  callees name name' := useTree name state = useTree name' state'

theorem binaryOp_eq_of_text_eq {op op' : BinaryOp} (same : op.text = op'.text) : op = op' := by
  cases op <;> cases op' <;> first | rfl | exact absurd same (by decide)

theorem unaryOp_eq_of_text_eq {op op' : UnaryOp} (same : op.text = op'.text) : op = op' := by
  cases op <;> cases op' <;> first | rfl | exact absurd same (by decide)

theorem Tree.text_inj {value value' : String} :
    Tree.text value = Tree.text value' ↔ value = value' := by
  simp [Tree.text]

theorem label_eq_of_tree_eq {expr expr' : Expr} {state state' : Numbering}
    (same : exprTree expr state = exprTree expr' state') : expr.label = expr'.label := by
  rw [← kind_exprTree expr state, same, kind_exprTree]

theorem useTree_ne_call (name : String) (state : Numbering) (parts : List Tree) :
    useTree name state ≠ .branch (.word "CallExpr" :: parts) := by
  intro same
  have kinds := congrArg Tree.kind same
  rw [kind_useTree] at kinds
  simp [Tree.kind] at kinds

/-- A list without a tail is not taken for one with a tail. -/
theorem exprTree_ne_noTail (expr : Expr) (state : Numbering) :
    exprTree expr state ≠ .branch [.word "NoneType", .absent] := by
  intro same
  have kinds := congrArg Tree.kind same
  rw [kind_exprTree] at kinds
  cases expr <;> simp [Expr.label, Tree.kind] at kinds

mutual

/-- Plain expressions of one shape are alike. -/
theorem alike_of_exprTree_eq : ∀ {expr expr' : Expr} {state state' : Numbering},
    expr.isPlain = true → expr'.isPlain = true → exprTree expr state = exprTree expr' state' →
      expr.Alike (link state state') expr'
  | .integer value _, expr', _, _, plain, plain', same => by
      have labels := label_eq_of_tree_eq same
      cases expr' with
      | integer value' =>
          simp only [exprTree_integer, Tree.branch.injEq, List.cons.injEq, Tree.integer.injEq,
            true_and, and_true] at same
          obtain rfl := Int.ofNat_inj.mp same
          exact .integer ..
      | _ => simp [Expr.label] at labels
  | .decimal value _, expr', _, _, plain, plain', same => by
      have labels := label_eq_of_tree_eq same
      cases expr' with
      | decimal value' =>
          simp only [exprTree_decimal, Tree.branch.injEq, List.cons.injEq, Tree.decimal.injEq,
            true_and, and_true] at same
          rw [Binary64.unsignZero_of_not_negative (Expr.isNegative_of_isPlain plain),
            Binary64.unsignZero_of_not_negative (Expr.isNegative_of_isPlain plain')] at same
          subst same
          exact .decimal ..
      | _ => simp [Expr.label] at labels
  | .text value _, expr', _, _, plain, plain', same => by
      have labels := label_eq_of_tree_eq same
      cases expr' with
      | text value' =>
          simp only [exprTree_text, Tree.branch.injEq, List.cons.injEq, Tree.text_inj, true_and,
            and_true] at same
          subst same
          exact .text ..
      | _ => simp [Expr.label] at labels
  | .atom name _, expr', _, _, plain, plain', same => by
      have labels := label_eq_of_tree_eq same
      cases expr' with
      | atom name' =>
          simp only [exprTree_atom, Tree.branch.injEq, List.cons.injEq, Tree.text_inj, true_and,
            and_true] at same
          subst same
          exact .atom ..
      | _ => simp [Expr.label] at labels
  | .boolean value _, expr', _, _, plain, plain', same => by
      have labels := label_eq_of_tree_eq same
      cases expr' with
      | boolean value' =>
          simp only [exprTree_boolean, Tree.branch.injEq, List.cons.injEq, Tree.flag.injEq,
            true_and, and_true] at same
          subst same
          exact .boolean ..
      | _ => simp [Expr.label] at labels
  | .nil _, expr', _, _, plain, plain', same => by
      have labels := label_eq_of_tree_eq same
      cases expr' with
      | nil =>
          exact .nil ..
      | _ => simp [Expr.label] at labels
  | .ident identifier, expr', _, _, plain, plain', same => by
      have labels := label_eq_of_tree_eq same
      cases expr' with
      | ident identifier' =>
          rw [exprTree_ident, exprTree_ident] at same
          exact .ident _ _ same
      | _ => simp [Expr.label] at labels
  | .typeName name _, expr', _, _, plain, plain', same => by
      have labels := label_eq_of_tree_eq same
      cases expr' with
      | typeName name' =>
          simp only [exprTree_typeName, Tree.branch.injEq, List.cons.injEq, Tree.text_inj, true_and,
            and_true] at same
          subst same
          exact .typeName ..
      | _ => simp [Expr.label] at labels
  | .binary left op right _, expr', _, _, plain, plain', same => by
      have labels := label_eq_of_tree_eq same
      cases expr' with
      | binary left' op' right' =>
          simp only [Expr.isPlain, Expr.every, Bool.and_eq_true] at plain plain'
          rw [exprTree_binary _ plain.1.2, exprTree_binary _ plain'.1.2] at same
          simp only [Tree.branch.injEq, List.cons.injEq, Tree.text_inj, true_and, and_true] at same
          obtain rfl := binaryOp_eq_of_text_eq same.2.1
          exact .binary _ _ _ (alike_of_exprTree_eq plain.1.2 plain'.1.2 same.1)
            (alike_of_exprTree_eq plain.2 plain'.2 same.2.2)
      | _ => simp [Expr.label] at labels
  | .unary op operand _, expr', _, _, plain, plain', same => by
      have labels := label_eq_of_tree_eq same
      cases expr' with
      | unary op' operand' =>
          simp only [Expr.isPlain, Expr.every, Bool.and_eq_true] at plain plain'
          simp only [exprTree_unary, Tree.branch.injEq, List.cons.injEq, Tree.text_inj, true_and,
            and_true] at same
          obtain rfl := unaryOp_eq_of_text_eq same.1
          exact .unary _ _ _ (alike_of_exprTree_eq plain.2 plain'.2 same.2)
      | _ => simp [Expr.label] at labels
  | .call callee arguments _, expr', _, _, plain, plain', same => by
      have labels := label_eq_of_tree_eq same
      cases expr' with
      | call callee' arguments' =>
          simp only [Expr.isPlain, Expr.every, Bool.and_eq_true] at plain plain'
          simp only [exprTree_call, Tree.branch.injEq, List.cons.injEq, true_and, and_true] at same
          exact .call _ _ _ _ same.1 (allAlike_of_exprTrees_eq plain.2 plain'.2 same.2)
      | _ => simp [Expr.label] at labels
  | .delegate .., _, _, _, plain, _, _ => by
      simp [Expr.isPlain, Expr.every, Expr.isPlainPart, Expr.isWrittenPart] at plain
  | .field subject name _, expr', _, _, plain, plain', same => by
      have labels := label_eq_of_tree_eq same
      cases expr' with
      | field subject' name' =>
          simp only [Expr.isPlain, Expr.every, Bool.and_eq_true] at plain plain'
          simp only [exprTree_field, Tree.branch.injEq, List.cons.injEq, Tree.text_inj, true_and,
            and_true] at same
          rcases same with ⟨same, rfl⟩
          exact .field _ _ _ (alike_of_exprTree_eq plain.2 plain'.2 same)
      | _ => simp [Expr.label] at labels
  | .pipe left callee _, expr', _, _, plain, plain', same => by
      have labels := label_eq_of_tree_eq same
      cases expr' with
      | pipe left' callee' =>
          simp only [Expr.isPlain, Expr.every, Bool.and_eq_true] at plain plain'
          rw [exprTree_pipe _ plain.2, exprTree_pipe _ plain'.2] at same
          simp only [Tree.branch.injEq, List.cons.injEq, true_and, and_true] at same
          exact .pipe _ _ _ _ (alike_of_exprTree_eq plain.2 plain'.2 same.1) same.2
      | pipeCall left' callee' arguments' =>
          simp only [Expr.isPlain, Expr.every, Bool.and_eq_true] at plain plain'
          rw [exprTree_pipe _ plain.2, exprTree_pipeCall _ plain'.1.2] at same
          simp only [Tree.branch.injEq, List.cons.injEq, true_and, and_true] at same
          exact absurd same.2 (useTree_ne_call _ _ _)
      | _ => simp [Expr.label] at labels
  | .pipeCall left callee arguments _ _, expr', _, _, plain, plain', same => by
      have labels := label_eq_of_tree_eq same
      cases expr' with
      | pipeCall left' callee' arguments' =>
          simp only [Expr.isPlain, Expr.every, Bool.and_eq_true] at plain plain'
          rw [exprTree_pipeCall _ plain.1.2, exprTree_pipeCall _ plain'.1.2] at same
          simp only [Tree.branch.injEq, List.cons.injEq, true_and, and_true] at same
          exact .pipeCall _ _ _ _ _ _ (alike_of_exprTree_eq plain.1.2 plain'.1.2 same.1) same.2.1
            (allAlike_of_exprTrees_eq plain.2 plain'.2 same.2.2)
      | pipe left' callee' =>
          simp only [Expr.isPlain, Expr.every, Bool.and_eq_true] at plain plain'
          rw [exprTree_pipeCall _ plain.1.2, exprTree_pipe _ plain'.2] at same
          simp only [Tree.branch.injEq, List.cons.injEq, true_and, and_true] at same
          exact absurd same.2.symm (useTree_ne_call _ _ _)
      | _ => simp [Expr.label] at labels
  | .alternative left right _, expr', _, _, plain, plain', same => by
      have labels := label_eq_of_tree_eq same
      cases expr' with
      | alternative left' right' =>
          simp only [Expr.isPlain, Expr.every, Bool.and_eq_true] at plain plain'
          rw [exprTree_alternative _ plain.1.2, exprTree_alternative _ plain'.1.2] at same
          simp only [Tree.branch.injEq, List.cons.injEq, true_and, and_true] at same
          exact .alternative _ _ (alike_of_exprTree_eq plain.1.2 plain'.1.2 same.1)
            (alike_of_exprTree_eq plain.2 plain'.2 same.2)
      | _ => simp [Expr.label] at labels
  | .result tag value _, expr', _, _, plain, plain', same => by
      have labels := label_eq_of_tree_eq same
      cases expr' with
      | result tag' value' =>
          simp only [Expr.isPlain, Expr.every, Bool.and_eq_true] at plain plain'
          simp only [exprTree_result, Tree.branch.injEq, List.cons.injEq, Tree.text_inj, true_and,
            and_true] at same
          obtain rfl := tag_eq_of_text_eq same.1
          exact .result _ _ _ (alike_of_exprTree_eq plain.2 plain'.2 same.2)
      | _ => simp [Expr.label] at labels
  | .tuple elements _, expr', _, _, plain, plain', same => by
      have labels := label_eq_of_tree_eq same
      cases expr' with
      | tuple elements' =>
          simp only [Expr.isPlain, Expr.every, Bool.and_eq_true] at plain plain'
          simp only [exprTree_tuple, Tree.branch.injEq, List.cons.injEq, true_and, and_true] at same
          exact .tuple _ _ (allAlike_of_exprTrees_eq plain.2 plain'.2 same)
      | _ => simp [Expr.label] at labels
  | .list elements none _, expr', _, _, plain, plain', same => by
      have labels := label_eq_of_tree_eq same
      cases expr' with
      | list elements' tail' =>
          cases tail' with
          | none =>
              simp only [Expr.isPlain, Expr.every, Bool.and_eq_true] at plain plain'
              simp only [exprTree_list, Tree.branch.injEq, List.cons.injEq, true_and,
                and_true] at same
              exact .list _ _ (allAlike_of_exprTrees_eq plain.2 plain'.2 same)
          | some tail' =>
              simp only [Expr.isPlain, Expr.every, Bool.and_eq_true] at plain plain'
              rw [exprTree_list, exprTree_listWithTail _ plain'.1.2] at same
              simp only [Tree.branch.injEq, List.cons.injEq, true_and, and_true] at same
              exact absurd same.2.symm (exprTree_ne_noTail _ _)
      | _ => simp [Expr.label] at labels
  | .list elements (some tail) _, expr', _, _, plain, plain', same => by
      have labels := label_eq_of_tree_eq same
      cases expr' with
      | list elements' tail' =>
          cases tail' with
          | none =>
              simp only [Expr.isPlain, Expr.every, Bool.and_eq_true] at plain plain'
              rw [exprTree_listWithTail _ plain.1.2, exprTree_list] at same
              simp only [Tree.branch.injEq, List.cons.injEq, true_and, and_true] at same
              exact absurd same.2 (exprTree_ne_noTail _ _)
          | some tail' =>
              simp only [Expr.isPlain, Expr.every, Bool.and_eq_true] at plain plain'
              rw [exprTree_listWithTail _ plain.1.2, exprTree_listWithTail _ plain'.1.2] at same
              simp only [Tree.branch.injEq, List.cons.injEq, true_and, and_true] at same
              exact .listWithTail _ _ (allAlike_of_exprTrees_eq plain.1.2 plain'.1.2 same.1)
                (alike_of_exprTree_eq plain.2 plain'.2 same.2)
      | _ => simp [Expr.label] at labels
  | .map entries _, expr', _, _, plain, plain', same => by
      have labels := label_eq_of_tree_eq same
      cases expr' with
      | map entries' =>
          simp only [Expr.isPlain, Expr.every, Bool.and_eq_true] at plain plain'
          simp only [exprTree_map, Tree.branch.injEq, List.cons.injEq, true_and, and_true] at same
          exact .map _ _ (entriesAlike_of_exprTrees_eq plain.2 plain'.2 same)
      | _ => simp [Expr.label] at labels
  | .record tag entries _, expr', _, _, plain, plain', same => by
      have labels := label_eq_of_tree_eq same
      cases expr' with
      | record tag' entries' =>
          simp only [Expr.isPlain, Expr.every, Bool.and_eq_true] at plain plain'
          simp only [exprTree_record, Tree.branch.injEq, List.cons.injEq, Tree.text_inj, true_and,
            and_true] at same
          rcases same with ⟨rfl, same⟩
          exact .record _ _ _ (entriesAlike_of_exprTrees_eq plain.2 plain'.2 same)
      | _ => simp [Expr.label] at labels
  | .lambda .., _, _, _, plain, _, _ => by
      simp [Expr.isPlain, Expr.every, Expr.isPlainPart, Expr.isNoLambda] at plain
  | .conditional condition thenBranch elseBranch _, expr', _, _, plain, plain', same => by
      have labels := label_eq_of_tree_eq same
      cases expr' with
      | conditional condition' thenBranch' elseBranch' =>
          simp only [Expr.isPlain, Expr.every, Bool.and_eq_true] at plain plain'
          rw [exprTree_conditional _ plain.1.1.2 plain.1.2,
            exprTree_conditional _ plain'.1.1.2 plain'.1.2] at same
          simp only [Tree.branch.injEq, List.cons.injEq, true_and, and_true] at same
          exact .conditional _ _ (alike_of_exprTree_eq plain.1.1.2 plain'.1.1.2 same.1)
            (alike_of_exprTree_eq plain.1.2 plain'.1.2 same.2.1)
            (alike_of_exprTree_eq plain.2 plain'.2 same.2.2)
      | _ => simp [Expr.label] at labels

theorem allAlike_of_exprTrees_eq : ∀ {exprs exprs' : List Expr} {state state' : Numbering},
    Expr.everyOfAll Expr.isPlainPart exprs = true → Expr.everyOfAll Expr.isPlainPart exprs' = true →
      exprTrees exprs state = exprTrees exprs' state' →
        Expr.AllAlike (link state state') exprs exprs'
  | [], exprs', _, _, _, _, same => by
      cases exprs' with
      | nil => exact .nil
      | cons => cases same
  | expr :: rest, exprs', _, _, plain, plain', same => by
      cases exprs' with
      | nil => cases same
      | cons expr' rest' =>
          simp only [Expr.everyOfAll, Bool.and_eq_true] at plain plain'
          rw [exprTrees_cons plain.1, exprTrees_cons plain'.1] at same
          rcases List.cons.inj same with ⟨sameFirst, sameRest⟩
          exact .cons (alike_of_exprTree_eq plain.1 plain'.1 sameFirst)
            (allAlike_of_exprTrees_eq plain.2 plain'.2 sameRest)

theorem entriesAlike_of_exprTrees_eq : ∀ {entries entries' : List (String × Expr)}
    {state state' : Numbering},
    Expr.everyOfEntries Expr.isPlainPart entries = true →
      Expr.everyOfEntries Expr.isPlainPart entries' = true →
        exprEntryTrees entries state = exprEntryTrees entries' state' →
          Expr.EntriesAlike (link state state') entries entries'
  | [], entries', _, _, _, _, same => by
      cases entries' with
      | nil => exact .nil
      | cons => cases same
  | (key, expr) :: rest, entries', _, _, plain, plain', same => by
      cases entries' with
      | nil => cases same
      | cons entry' rest' =>
          rcases entry' with ⟨key', expr'⟩
          simp only [Expr.everyOfEntries, Bool.and_eq_true] at plain plain'
          rw [exprEntryTrees_cons plain.1, exprEntryTrees_cons plain'.1] at same
          simp only [List.cons.injEq, Tree.branch.injEq, Tree.text_inj, and_true] at same
          rcases same with ⟨⟨rfl, sameFirst⟩, sameRest⟩
          exact .cons _ (alike_of_exprTree_eq plain.1 plain'.1 sameFirst)
            (entriesAlike_of_exprTrees_eq plain.2 plain'.2 sameRest)

end

end ClauseFlow.Shape

import ClauseFlow.Declaration.Print
import ClauseFlow.Text.Quoted

/-!
# Outlines

An outline shows the structure of a module, one part per line, deeper parts further to the right.
-/

namespace ClauseFlow

/-- A part of an outline. A scalar that cannot be written has no text. -/
inductive Outline where
  | node (label : String) (fields : List (String × Outline))
  | sequence (items : List Outline)
  | entry (key : String) (value : Outline)
  | scalar (text? : Option String)
  | word (text : String)
  | absent

namespace Outline

/-! ## Lines -/

/-- A line at a depth. -/
def indented (depth : Nat) (text : String) : String :=
  String.ofList (List.replicate (2 * depth) ' ') ++ text

mutual

/-- The lines of a part that stands by itself. A line that cannot be written is missing. -/
def lines (depth : Nat) : Outline → List (Option String)
  | .node label fields => some (indented depth label) :: linesOfFields depth fields
  | .sequence items => linesOfItems depth items
  | .entry key value => some (indented depth (key ++ ":")) :: lines (depth + 1) value
  | .scalar text? => [text?.map (indented depth)]
  | .word text => [some (indented depth ("str: " ++ Text.quoted text))]
  | .absent => []

def linesOfItems (depth : Nat) : List Outline → List (Option String)
  | [] => []
  | item :: rest => lines depth item ++ linesOfItems depth rest

/-- The lines of the fields of a node. -/
def linesOfFields (depth : Nat) : List (String × Outline) → List (Option String)
  | [] => []
  | (field, value) :: rest =>
      (match value with
        | .absent => []
        | .scalar text? =>
            [text?.map fun text => indented (depth + 1) (field ++ ": " ++ text)]
        | .word text => [some (indented (depth + 1) (field ++ ": " ++ Text.quoted text))]
        | .sequence [] => [some (indented (depth + 1) (field ++ ": []"))]
        | value => some (indented (depth + 1) (field ++ ":")) :: lines (depth + 2) value) ++
        linesOfFields depth rest

end

/-! ## What is shown -/

def ofBool (value : Bool) : Outline :=
  .scalar (some (if value then "True" else "False"))

def ofInt (value : Int) : Outline :=
  .scalar (if Numeral.hasNumeral value then some (Numeral.intText value) else none)

def ofDecimal (value : Binary64) : Outline :=
  .scalar (some value.scientificText)

def ofLiteral : Literal → Outline
  | .nil => .absent
  | .boolean value => ofBool value
  | .integer value => ofInt value
  | .decimal value => ofDecimal value
  | .text value => .word value
  | .atom name => .node "Atom" [("name", .word name)]

mutual

def ofPattern : Pattern → Outline
  | .literal value _ => .node "LiteralPattern" [("value", ofLiteral value)]
  | .wildcard _ => .node "WildcardPattern" []
  | .binding name _ => .node "BindingPattern" [("name", .word name)]
  | .tuple elements _ => .node "TuplePattern" [("elements", .sequence (ofPatterns elements))]
  | .list elements none _ =>
      .node "ListPattern" [("elements", .sequence (ofPatterns elements)), ("tail", .absent)]
  | .list elements (some tail) _ =>
      .node "ListPattern"
        [("elements", .sequence (ofPatterns elements)), ("tail", ofPattern tail)]
  | .map entries _ => .node "MapPattern" [("entries", .sequence (ofPatternEntries entries))]
  | .record tag entries _ =>
      .node "RecordPattern" [("tag", .word tag), ("entries", .sequence (ofPatternEntries entries))]
  | .result tag inner _ =>
      .node "ResultPattern" [("tag", .word tag.text), ("inner", ofPattern inner)]
  | .named inner name _ =>
      .node "AliasPattern" [("pattern", ofPattern inner), ("name", .word name)]

def ofPatterns : List Pattern → List Outline
  | [] => []
  | pattern :: rest => ofPattern pattern :: ofPatterns rest

def ofPatternEntries : List (String × Pattern) → List Outline
  | [] => []
  | (key, pattern) :: rest => .entry key (ofPattern pattern) :: ofPatternEntries rest

end

def ofIdentifier (identifier : Identifier) : Outline :=
  .node "IdentifierExpr" [("name", .word identifier.name)]

def ofCall (label : String) (callee : Identifier) (arguments : List Outline) : Outline :=
  .node label [("func", ofIdentifier callee), ("args", .sequence arguments)]

mutual

def ofExpr : Expr → Outline
  | .integer value _ => .node "IntegerLit" [("value", ofInt value)]
  | .decimal value _ => .node "DecimalLit" [("value", ofDecimal value)]
  | .text value _ => .node "StringLit" [("value", .word value)]
  | .atom name _ => .node "AtomLit" [("name", .word name)]
  | .boolean value _ => .node "BooleanLit" [("value", ofBool value)]
  | .nil _ => .node "NilLit" []
  | .ident identifier => ofIdentifier identifier
  | .typeName name _ => .node "TypeIdentifierExpr" [("name", .word name)]
  | .binary left op right _ =>
      .node "BinaryExpr" [("left", ofExpr left), ("op", .word op.text), ("right", ofExpr right)]
  | .unary op operand _ =>
      .node "UnaryExpr" [("op", .word op.text), ("operand", ofExpr operand)]
  | .call callee arguments _ => ofCall "CallExpr" callee (ofExprs arguments)
  | .delegate callee arguments _ => ofCall "DelegateExpr" callee (ofExprs arguments)
  | .field subject name _ =>
      .node "FieldExpr" [("obj", ofExpr subject), ("field", .word name)]
  | .pipe left callee _ =>
      .node "PipeExpr" [("left", ofExpr left), ("right", ofIdentifier callee)]
  | .pipeCall left callee arguments _ _ =>
      .node "PipeExpr"
        [("left", ofExpr left), ("right", ofCall "CallExpr" callee (ofExprs arguments))]
  | .alternative left right _ =>
      .node "AlternativeExpr" [("left", ofExpr left), ("right", ofExpr right)]
  | .result tag value _ =>
      .node "ResultExpr" [("tag", .word tag.text), ("value", ofExpr value)]
  | .tuple elements _ => .node "TupleLiteral" [("elements", .sequence (ofExprs elements))]
  | .list elements none _ =>
      .node "ListLiteral" [("elements", .sequence (ofExprs elements)), ("tail", .absent)]
  | .list elements (some tail) _ =>
      .node "ListLiteral" [("elements", .sequence (ofExprs elements)), ("tail", ofExpr tail)]
  | .map entries _ => .node "MapLiteral" [("entries", .sequence (ofExprEntries entries))]
  | .record tag entries _ =>
      .node "RecordLiteral" [("tag", .word tag), ("entries", .sequence (ofExprEntries entries))]
  | .lambda params body _ =>
      .node "LambdaExpr" [("params", .sequence (params.map .word)), ("body", ofExpr body)]
  | .conditional condition thenBranch elseBranch _ =>
      .node "IfExpr"
        [ ("condition", ofExpr condition), ("then_expr", ofExpr thenBranch)
        , ("else_expr", ofExpr elseBranch) ]

def ofExprs : List Expr → List Outline
  | [] => []
  | expr :: rest => ofExpr expr :: ofExprs rest

def ofExprEntries : List (String × Expr) → List Outline
  | [] => []
  | (key, expr) :: rest => .entry key (ofExpr expr) :: ofExprEntries rest

end

def ofFunctionHead (head : FunctionHead) : Outline :=
  .node "FunctionHead" [("name", .word head.name), ("params", .sequence (ofPatterns head.params))]

def ofHead : Head → Outline
  | .plain function => ofFunctionHead function
  | .guarded function guard _ =>
      .node "GuardedHead" [("head", ofFunctionHead function), ("guard", ofExpr guard)]

def ofDeclaration (declaration : Declaration) : Outline :=
  .node "PipeDef"
    [ ("head", ofHead declaration.head)
    , ("body", ofExpr declaration.body)
    , ("synthesize", ofBool declaration.synthesized)
    , ("doc_comment", (declaration.doc?.map Outline.word).getD .absent) ]

def ofModule (module : Module) : Outline :=
  .node "Module" [("declarations", .sequence (module.declarations.map ofDeclaration))]

end Outline
end ClauseFlow

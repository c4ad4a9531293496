import StyleValue.Expr
import StyleValue.Json

/-! How a tree is shown: as JSON, and as an outline with one line for each node, indented by its depth. -/
namespace StyleValue

variable {α : Type}

/-! ### JSON -/

def NodeKind.record (kind : NodeKind) (fields : List (Text × Json)) : Json :=
  .record (("type", .text kind.name) :: fields)

def Name.toJson (n : Name α) : Json := NodeKind.identifier.record [("name", .text n.text)]

namespace Expr

mutual
def toJson : Expr α → Json
  | identifier name => name.toJson
  | number value _ => NodeKind.number.record [("value", .number value)]
  | hex value _ => NodeKind.hex.record [("value", .text value)]
  | percent value _ => NodeKind.percent.record [("value", .number value)]
  | binary operator left right _ =>
    NodeKind.binary.record
      [("operator", .text operator), ("left", left.toJson), ("right", right.toJson)]
  | unary operator argument _ =>
    NodeKind.unary.record [("operator", .text operator), ("argument", argument.toJson)]
  | call callee arguments _ =>
    NodeKind.call.record [("callee", callee.toJson), ("arguments", .list (toJsonAll arguments))]
  | group expression _ => NodeKind.group.record [("expression", expression.toJson)]

def toJsonAll : List (Expr α) → List Json
  | [] => []
  | e :: rest => e.toJson :: toJsonAll rest
end

end Expr

def Statement.toJson (s : Statement α) : Json :=
  NodeKind.statement.record [("expression", s.expression.toJson)]

def Program.toJson (p : Program α) : Json :=
  NodeKind.program.record [("body", .list (p.body.map Statement.toJson))]

def Node.toJson : Node α → Json
  | program p => p.toJson
  | statement s => s.toJson
  | expression e => e.toJson

/-! ### Outlines -/

def outlineLine (depth : Nat) (kind : NodeKind) (detail : Option Text) : Text :=
  let shown := match detail with
    | none => []
    | some t => ' ' :: t
  List.replicate (2 * depth) ' ' ++ kind.name ++ shown

mutual
/-- The lines of a node and its parts. The name of a callee stands on the line of its call. -/
def Expr.outline (depth : Nat) : Expr α → List Text
  | identifier name => [outlineLine depth .identifier name.text]
  | number value _ => [outlineLine depth .number (Text.ofInt value)]
  | hex value _ => [outlineLine depth .hex value]
  | percent value _ => [outlineLine depth .percent (Text.ofInt value ++ ['%'])]
  | binary operator left right _ =>
    outlineLine depth .binary operator :: (left.outline (depth + 1) ++ right.outline (depth + 1))
  | unary operator argument _ => outlineLine depth .unary operator :: argument.outline (depth + 1)
  | call callee arguments _ =>
    outlineLine depth .call callee.text :: Expr.outlineAll (depth + 1) arguments
  | group expression _ => outlineLine depth .group none :: expression.outline (depth + 1)

def Expr.outlineAll (depth : Nat) : List (Expr α) → List Text
  | [] => []
  | e :: rest => e.outline depth ++ Expr.outlineAll depth rest
end

def Statement.outline (s : Statement α) : List Text :=
  outlineLine 1 .statement none :: s.expression.outline 2

def Program.outline (p : Program α) : List Text :=
  outlineLine 0 .program none :: p.body.flatMap Statement.outline

def Program.outlineText (p : Program α) : Text := p.outline.flatMap (· ++ ['\n'])

end StyleValue

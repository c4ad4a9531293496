import StyleValue.Character

/-! Trees of value expressions, the kinds of their nodes, and the ways from a node to its parts. Every node
carries a note of a type that the use decides: its span where the text matters, nothing where only the
meaning does. -/
namespace StyleValue

structure Name (α : Type) where
  text : Text
  note : α
  deriving DecidableEq, Repr

/-- A hexadecimal value keeps the spelling that it has in the text, its `#` included. -/
inductive Expr (α : Type) where
  | identifier (name : Name α)
  | number (value : Int) (note : α)
  | hex (value : Text) (note : α)
  | percent (value : Int) (note : α)
  | binary (operator : Text) (left right : Expr α) (note : α)
  | unary (operator : Text) (argument : Expr α) (note : α)
  | call (callee : Name α) (arguments : List (Expr α)) (note : α)
  | group (expression : Expr α) (note : α)
  deriving Repr

structure Statement (α : Type) where
  expression : Expr α
  note : α
  deriving Repr

structure Program (α : Type) where
  body : List (Statement α)
  note : α
  deriving Repr

variable {α β : Type}

mutual
def Expr.decEq [DecidableEq α] (a b : Expr α) : Decidable (a = b) := by
  cases a <;> cases b
  case identifier.identifier m n => exact decidable_of_iff (m = n) (by simp)
  case number.number m s n t => exact decidable_of_iff (m = n ∧ s = t) (by simp)
  case hex.hex m s n t => exact decidable_of_iff (m = n ∧ s = t) (by simp)
  case percent.percent m s n t => exact decidable_of_iff (m = n ∧ s = t) (by simp)
  case binary.binary o a b s p c d t =>
    have := Expr.decEq a c
    have := Expr.decEq b d
    exact decidable_of_iff (o = p ∧ a = c ∧ b = d ∧ s = t) (by simp)
  case unary.unary o a s p b t =>
    have := Expr.decEq a b
    exact decidable_of_iff (o = p ∧ a = b ∧ s = t) (by simp)
  case call.call f as s g bs t =>
    have := Expr.decEqAll as bs
    exact decidable_of_iff (f = g ∧ as = bs ∧ s = t) (by simp)
  case group.group a s b t =>
    have := Expr.decEq a b
    exact decidable_of_iff (a = b ∧ s = t) (by simp)
  all_goals exact isFalse (by simp)

def Expr.decEqAll [DecidableEq α] (as bs : List (Expr α)) : Decidable (as = bs) := by
  cases as <;> cases bs
  case nil.nil => exact isTrue rfl
  case cons.cons a as b bs =>
    have := Expr.decEq a b
    have := Expr.decEqAll as bs
    exact decidable_of_iff (a = b ∧ as = bs) (by simp)
  all_goals exact isFalse (by simp)
end

instance [DecidableEq α] : DecidableEq (Expr α) := Expr.decEq

deriving instance DecidableEq for Statement, Program

def Name.map (f : α → β) (n : Name α) : Name β := ⟨n.text, f n.note⟩

namespace Expr

def note : Expr α → α
  | identifier name => name.note
  | number _ s | hex _ s | percent _ s => s
  | binary _ _ _ s | unary _ _ s | call _ _ s | group _ s => s

mutual
def map (f : α → β) : Expr α → Expr β
  | identifier name => identifier (name.map f)
  | number value s => number value (f s)
  | hex value s => hex value (f s)
  | percent value s => percent value (f s)
  | binary operator left right s => binary operator (left.map f) (right.map f) (f s)
  | unary operator argument s => unary operator (argument.map f) (f s)
  | call callee arguments s => call (callee.map f) (mapAll f arguments) (f s)
  | group expression s => group (expression.map f) (f s)

def mapAll (f : α → β) : List (Expr α) → List (Expr β)
  | [] => []
  | e :: rest => e.map f :: mapAll f rest
end

mutual
/-- The notes in the order of the text: a node before its parts, a callee before its arguments. -/
def notes : Expr α → List α
  | identifier name => [name.note]
  | number _ s | hex _ s | percent _ s => [s]
  | binary _ left right s => s :: (left.notes ++ right.notes)
  | unary _ argument s => s :: argument.notes
  | call callee arguments s => s :: callee.note :: notesAll arguments
  | group expression s => s :: expression.notes

def notesAll : List (Expr α) → List α
  | [] => []
  | e :: rest => e.notes ++ notesAll rest
end

end Expr

namespace Statement

def map (f : α → β) (s : Statement α) : Statement β := ⟨s.expression.map f, f s.note⟩

def notes (s : Statement α) : List α := s.note :: s.expression.notes

end Statement

namespace Program

def map (f : α → β) (p : Program α) : Program β := ⟨p.body.map (Statement.map f), f p.note⟩

def notes (p : Program α) : List α := p.note :: p.body.flatMap Statement.notes

/-- The tree without its notes. Two programs are the same when these agree. -/
def bare (p : Program α) : Program Unit := p.map fun _ => ()

end Program

/-- The note of a node that was read from a text: its span, if the places of its first and last token
are known. -/
abbrev Located := Option Span

/-! ### Nodes -/

inductive NodeKind where
  | program
  | statement
  | binary
  | unary
  | call
  | group
  | number
  | hex
  | percent
  | identifier
  deriving DecidableEq, Repr

def NodeKind.name : NodeKind → Text
  | program => "Program"
  | statement => "ExpressionStatement"
  | binary => "BinaryExpression"
  | unary => "UnaryExpression"
  | call => "CallExpression"
  | group => "GroupExpression"
  | number => "NumericLiteral"
  | hex => "HexLiteral"
  | percent => "PercentLiteral"
  | identifier => "Identifier"

theorem NodeKind.name_eq_iff {a b : NodeKind} : a.name = b.name ↔ a = b := by
  cases a <;> cases b <;> decide

namespace Expr

def kind : Expr α → NodeKind
  | identifier _ => .identifier
  | number _ _ => .number
  | hex _ _ => .hex
  | percent _ _ => .percent
  | binary _ _ _ _ => .binary
  | unary _ _ _ => .unary
  | call _ _ _ => .call
  | group _ _ => .group

end Expr

inductive Node (α : Type) where
  | program (p : Program α)
  | statement (s : Statement α)
  | expression (e : Expr α)

/-- A way from a node to one of its parts. -/
inductive Step where
  | body (index : Nat)
  | expression
  | left
  | right
  | argument
  | callee
  | arguments (index : Nat)
  deriving DecidableEq, Repr

namespace Node

def kind : Node α → NodeKind
  | program _ => .program
  | statement _ => .statement
  | expression e => e.kind

def note : Node α → α
  | program p => p.note
  | statement s => s.note
  | expression e => e.note

def part? : Node α → Step → Option (Node α)
  | program p, .body index => p.body[index]?.map statement
  | statement s, .expression => some (expression s.expression)
  | expression (.group e _), .expression => some (expression e)
  | expression (.binary _ left _ _), .left => some (expression left)
  | expression (.binary _ _ right _), .right => some (expression right)
  | expression (.unary _ e _), .argument => some (expression e)
  | expression (.call callee _ _), .callee => some (expression (.identifier callee))
  | expression (.call _ arguments _), .arguments index => arguments[index]?.map expression
  | _, _ => none

def at? (n : Node α) (path : List Step) : Option (Node α) := path.foldlM part? n

end Node

end StyleValue

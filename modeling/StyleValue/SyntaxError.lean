import StyleValue.Expr
import StyleValue.Token

/-! Why a text is no program, and how that is reported beside the text. -/
namespace StyleValue

inductive Cause where
  /-- An operator without an operand behind it. `node` is the kind of node that it would make. -/
  | operand (operator : Text) (node : NodeKind)
  | argument (callee : Text)
  | callEnd (callee : Text)
  | groupBody
  | groupEnd
  | expression
  /-- A number or percentage whose `length` characters are no numeral, or one too long. -/
  | numeral (node : NodeKind) (length : Nat)
  deriving DecidableEq, Repr

structure SyntaxError where
  cause : Cause
  token : Token
  deriving DecidableEq, Repr

namespace SyntaxError

def found (e : SyntaxError) : Text :=
  if e.token.kind = .endOfInput then "end of input" else e.token.described

def message (e : SyntaxError) : Text :=
  match e.cause with
  | .operand operator _ => "expected operand after '" ++ operator ++ "', found " ++ e.found
  | .argument callee => "expected argument in call to '" ++ callee ++ "', found " ++ e.found
  | .callEnd callee => "expected ')' to close call to '" ++ callee ++ "'"
  | .groupBody => "expected expression after '(', found " ++ e.found
  | .groupEnd => "expected ')' to close group"
  | .expression =>
    if e.token.kind = .error then "unrecognized input " ++ e.token.value.quoted
    else "expected expression, found " ++ e.found
  | .numeral _ length => "numeric literal too long (" ++ Text.ofInt length ++ " digits)"

def construct (e : SyntaxError) : Text :=
  match e.cause with
  | .operand _ node | .numeral node _ => node.name
  | .argument _ | .callEnd _ => NodeKind.call.name
  | .groupBody | .groupEnd => NodeKind.group.name
  | .expression => "Expression"

end SyntaxError

def Position.ofEnd (source : Text) : Position :=
  let lines := source.lines
  ⟨lines.length, (lines.getLast?.getD []).length + 1, source.length⟩

structure Report where
  message : Text
  construct : Text
  token : Token
  source : Text
  deriving DecidableEq, Repr

def SyntaxError.report (e : SyntaxError) (source : Text) : Report :=
  ⟨e.message, e.construct, e.token, source⟩

namespace Report

/-- Where the error is: at its token or, if the place of that is not known, at the end of the
source. -/
def span (r : Report) : Span := r.token.span.getD (.at (.ofEnd r.source))

def atEnd (r : Report) : Bool := r.token.kind = .endOfInput

/-- The line of the source with a number counted from one. Other numbers give an empty line. -/
def sourceLine (r : Report) (line : Int) : Text :=
  if line < 1 then [] else r.source.lines[(line - 1).toNat]?.getD []

/-- How many characters to underline: the whole span when it stays on one line, otherwise all up to
the end of the line, and always at least one. -/
def underlined (r : Report) : Int :=
  let start := r.span.start
  let stop := r.span.stop
  if stop.line = start.line then max 1 (stop.column - start.column)
  else max 1 ((r.sourceLine start.line).length - start.column + 1)

def defaultName : Text := "input.val"

/-- Six lines: the message, the place, and the line of the source between two lines of margin, the
second with carets under the span, then the construct. -/
def render (r : Report) (name : Text) : Text :=
  let start := r.span.start
  let line := Text.ofInt start.line
  let margin := Text.repeated ' ' (line.length + 1)
  "error: " ++ r.message ++ "\n" ++
  margin ++ "--> " ++ name ++ ":" ++ line ++ ":" ++ Text.ofInt start.column ++ "\n" ++
  margin ++ "|\n" ++
  line ++ " | " ++ r.sourceLine start.line ++ "\n" ++
  margin ++ "| " ++ Text.repeated ' ' (start.column - 1) ++ Text.repeated '^' r.underlined ++ "\n" ++
  margin ++ "= while parsing " ++ r.construct

end Report

end StyleValue

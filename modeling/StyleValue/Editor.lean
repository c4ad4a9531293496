import StyleValue.Expr.Parser

/-! Diagnostics for an editor. Lines and characters count from zero here. -/
namespace StyleValue

structure Place where
  line : Int
  character : Int
  deriving DecidableEq, Repr

def Place.ofPosition (p : Position) : Place := ⟨p.line - 1, p.column - 1⟩

inductive Severity where
  | error
  deriving DecidableEq, Repr

def Severity.number : Severity → Int
  | error => 1

structure Diagnostic where
  start : Place
  stop : Place
  message : Text
  severity : Severity
  deriving DecidableEq, Repr

def Diagnostic.source : Text := "valexpr"

def Report.diagnostic (r : Report) : Diagnostic :=
  ⟨.ofPosition r.span.start, .ofPosition r.span.stop,
    r.message ++ " (while parsing " ++ r.construct ++ ")", .error⟩

/-- What an editor sends when a document is opened or changed: all of its text. -/
structure Edit where
  uri : Text
  text : Text
  deriving DecidableEq, Repr

/-- What an editor gets back. An empty list takes earlier diagnostics away. -/
structure Notification where
  uri : Text
  diagnostics : List Diagnostic
  deriving DecidableEq, Repr

def diagnose (text : Text) : List Diagnostic :=
  match parse .standard text with
  | .ok _ => []
  | .error e => [(e.report text).diagnostic]

/-- Every edit is answered by one notification for its document. -/
def Edit.notification (e : Edit) : Notification := ⟨e.uri, diagnose e.text⟩

/-- The answers to a sequence of edits. The stack of calls that reading a text takes has no limit here, so
no edit goes without its answer. How edits and answers travel is not modelled. -/
def notifications (edits : List Edit) : List Notification := edits.map Edit.notification

end StyleValue

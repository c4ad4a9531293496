import StyleValue.Text

/-! Classified characters with their places. Lines and columns count from one, offsets from zero, all in
characters. -/
namespace StyleValue

structure Position where
  line : Int
  column : Int
  offset : Int
  deriving DecidableEq, Repr

def Position.origin : Position := ⟨1, 1, 0⟩

/-- From `start` up to `stop`, the latter not included. -/
structure Span where
  start : Position
  stop : Position
  deriving DecidableEq, Repr

def Span.at (p : Position) : Span := ⟨p, p⟩

/-- From the start of the first span to the stop of the last, if both are known. -/
def Span.cover? (first last : Option Span) : Option Span :=
  match first, last with
  | some a, some b => some ⟨a.start, b.stop⟩
  | _, _ => none

/-- The class of a character decides what the lexer does with it. `start` is the class of a character
that has none yet. -/
inductive CharClass where
  | start
  | whitespace
  | newLine
  | hash
  | percent
  | letter
  | number
  | operator
  | endOfInput
  | other
  deriving DecidableEq, Repr

namespace CharClass

def all : List CharClass :=
  [start, whitespace, newLine, hash, percent, letter, number, operator, endOfInput, other]

def name : CharClass → Text
  | start => "Start"
  | whitespace => "Whitespace"
  | newLine => "NewLine"
  | hash => "Hash"
  | percent => "Percent"
  | letter => "Letter"
  | number => "Number"
  | operator => "Operator"
  | endOfInput => "EndOfInput"
  | other => "Other"

theorem name_eq_iff {a b : CharClass} : a.name = b.name ↔ a = b := by
  cases a <;> cases b <;> decide

/-- Breaks come before other white space, and `#` and `%` before other punctuation. -/
def ofChar (c : Char) : CharClass :=
  if c = '\n' ∨ c = '\r' then newLine
  else if isBlank c then whitespace
  else if c = '#' then hash
  else if c = '%' then percent
  else if isLetter c then letter
  else if isDigit c then number
  else if isSymbol c then operator
  else other

end CharClass

def endText : Text := "EOF"

def CharClass.ofValue : Option Text → CharClass
  | none => other
  | some t =>
    if t = endText then endOfInput
    else match t with
      | [c] => ofChar c
      | _ => other

/-- A piece of the input, nearly always a single character, with its class and the place where it
starts. -/
structure Character where
  value : Text
  charClass : CharClass
  position : Position
  deriving DecidableEq, Repr

namespace Character

/-- The place behind a character. The end of the input takes no room, and a break ends its line. -/
def stop (c : Character) : Position :=
  let p := c.position
  match c.charClass with
  | .endOfInput => p
  | .newLine => ⟨p.line + 1, 1, p.offset + 1⟩
  | _ => ⟨p.line, p.column + 1, p.offset + 1⟩

def endMark (p : Position) : Character := ⟨endText, .endOfInput, p⟩

def errorMark (p : Position) : Character := ⟨"Error", .other, p⟩

end Character

def Span.ofRun (first : Character) (later : List Character) : Span :=
  ⟨first.position, (later.getLast?.getD first).stop⟩

/-- The place of what follows the character `c`. Of a carriage return and a line feed together, the
line feed is the break. -/
def Position.after (p : Position) (c : Char) (rest : Text) : Position :=
  if c = '\n' ∨ (c = '\r' ∧ rest.head? ≠ some '\n') then ⟨p.line + 1, 1, p.offset + 1⟩
  else ⟨p.line, p.column + 1, p.offset + 1⟩

def charactersFrom (p : Position) : Text → List Character
  | [] => []
  | c :: rest => ⟨[c], .ofChar c, p⟩ :: charactersFrom (p.after c rest) rest

def Position.afterText (p : Position) : Text → Position
  | [] => p
  | c :: rest => (p.after c rest).afterText rest

def Text.characters (t : Text) : List Character := charactersFrom .origin t

def Text.endPosition (t : Text) : Position := Position.origin.afterText t

end StyleValue

import StyleValue.Token

/-! The automaton that divides characters into runs. -/
namespace StyleValue

/-- What the run that is being read is. In `initial` no run of a known form is open. -/
inductive State where
  | initial
  | whitespace
  | hex
  | letter
  | number
  | percent
  | operator
  | finished
  deriving DecidableEq, Repr

namespace State

def all : List State := [initial, whitespace, hex, letter, number, percent, operator, finished]

def name : State → Text
  | initial => "Initial"
  | whitespace => "Whitespace"
  | hex => "Hex"
  | letter => "Letter"
  | number => "Number"
  | percent => "Percent"
  | operator => "Operator"
  | finished => "End"

def accepting (s : State) : Bool := s != initial

def representative : State → CharClass
  | initial => .other
  | whitespace => .whitespace
  | hex => .hash
  | letter => .letter
  | number => .number
  | percent => .percent
  | operator => .operator
  | finished => .endOfInput

def opened : CharClass → State
  | .whitespace => whitespace
  | .hash => hex
  | .letter => letter
  | .number => number
  | .operator => operator
  | .endOfInput => finished
  | .start | .newLine | .percent | .other => initial

def stays : State → CharClass → Bool
  | whitespace, .whitespace => true
  | hex, .hash | hex, .letter | hex, .number => true
  | letter, .letter | letter, .number => true
  | number, .number => true
  | operator, .operator => true
  | finished, .endOfInput => true
  | _, _ => false

/-- The state after a character of class `c`. A percent sign makes a number a percentage, operator
characters stay together only where they merge, and any other character that does not go on with the
run leads back to `initial`. -/
def next (merge : Bool) (s : State) (c : CharClass) : State :=
  match s, c with
  | initial, _ => opened c
  | number, .percent => percent
  | operator, _ => if merge && s.stays c then operator else initial
  | _, _ => if s.stays c then s else initial

end State

end StyleValue

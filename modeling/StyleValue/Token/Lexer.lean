import StyleValue.Reader
import StyleValue.Text.Canonical
import StyleValue.Token.State

/-! The lexer: it runs the automaton over characters and cuts them into tokens. -/
namespace StyleValue

inductive LexError where
  | emptyRun
  deriving DecidableEq, Repr

def LexError.message : LexError → Text
  | .emptyRun => "cannot create token from empty buffer"

namespace Token

def ofRun (state : State) (first : Character) (later : List Character) : Token :=
  let value := (first :: later).flatMap (·.value)
  ⟨.ofClass state.representative value, value, some (.ofRun first later)⟩

def ofCharacters (state : State) : List Character → Except LexError Token
  | [] => .error .emptyRun
  | first :: later => .ok (ofRun state first later)

end Token

/-- The state of the automaton, the state before the latest character, and the characters that are not
yet part of a token, latest first. -/
structure Lexer where
  merge : Bool
  state : State
  previous : State
  held : List Character
  deriving DecidableEq, Repr

namespace Lexer

def start (merge : Bool) (state : State) : Lexer := ⟨merge, state, state, []⟩

def buffer (l : Lexer) : List Character := l.held.reverse

def moveTo (l : Lexer) (state : State) : Lexer := { l with state }

def accepting (l : Lexer) : Bool := l.state.accepting

/-- Whether a character that opens a run is a boundary: the end of the input is none when nothing
waits for a token. -/
def closes (l : Lexer) (c : Character) : Bool :=
  !(c.charClass = .endOfInput && l.held.isEmpty)

/-- The automaton's step on one character, and whether the character begins a new run and so closes
the one before it. A character that opens no run joins others of its kind. The buffer stays as it
is. -/
def advance (l : Lexer) (c : Character) : Bool × Lexer :=
  let target := l.state.next l.merge c.charClass
  match l.state, target with
  | .initial, .initial => (l.held.isEmpty, { l with previous := l.state })
  | .initial, _ => (l.closes c, { l with previous := l.state, state := target })
  | _, .initial =>
    (l.closes c, { l with previous := l.state, state := State.initial.next l.merge c.charClass })
  | _, _ => (false, { l with previous := l.state, state := target })

/-- The token of the buffer, if that holds anything. Its kind comes from the state before the latest
character, which is the state in which the buffer was read. -/
def token? (l : Lexer) : Option Token :=
  match l.buffer with
  | [] => none
  | first :: later => some (.ofRun l.previous first later)

/-- Takes one character and gives the token that it completes. The end of the input is part of no
token. -/
def feed (l : Lexer) (c : Character) : Option Token × Lexer :=
  let (boundary, l) := l.advance c
  let token := if boundary then l.token? else none
  let held := if token.isSome then [] else l.held
  (token, { l with held := if c.charClass = .endOfInput then held else c :: held })

def run (l : Lexer) : List Character → List Token × List Character
  | [] => ([], [])
  | c :: rest =>
    let (token, l) := l.feed c
    if c.charClass = .endOfInput then (token.toList, rest)
    else
      let (tokens, unread) := l.run rest
      (token.toList ++ tokens, unread)

end Lexer

def Reader.tokens (r : Reader) (merge : Bool) : List Token × Reader :=
  match (Lexer.start merge .initial).run r.remaining with
  | (tokens, []) => (tokens, r.exhausted)
  | (tokens, unread) => (tokens, { r with upcoming := unread.dropLast })

structure LexOptions where
  /-- Operator characters next to each other form one token. -/
  mergeOperators : Bool
  /-- The text is brought into its composed canonical form first. -/
  normalize : Bool
  deriving DecidableEq, Repr

namespace LexOptions

def standard : LexOptions := ⟨true, false⟩

def text (o : LexOptions) (source : Text) : Text := if o.normalize then source.canonical else source

def characters (o : LexOptions) (source : Text) : List Character := (o.text source).characters

end LexOptions

def tokenize (o : LexOptions) (source : Text) : List Token :=
  ((Reader.ofText (o.text source)).tokens o.mergeOperators).1

def tokenizeCharacters (o : LexOptions) (cs : List Character) : List Token :=
  ((Reader.ofCharacters cs).tokens o.mergeOperators).1

end StyleValue

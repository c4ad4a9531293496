import StyleValue.Character

/-! Tokens, the words that a text is made of, and those of them that a parser looks at: the tokens without
layout, up to the end of the input. -/
namespace StyleValue

inductive TokenKind where
  | identifier
  | hexValue
  | number
  | percent
  | plus
  | minus
  | comma
  | slash
  | leftParen
  | rightParen
  | operator
  | whitespace
  | endOfInput
  | error
  deriving DecidableEq, Repr

namespace TokenKind

def all : List TokenKind :=
  [identifier, hexValue, number, percent, plus, minus, comma, slash, leftParen, rightParen, operator,
    whitespace, endOfInput, error]

def name : TokenKind → Text
  | identifier => "IDENTIFIER"
  | hexValue => "HEXVALUE"
  | number => "NUMBER"
  | percent => "PERCENT"
  | plus => "PLUS"
  | minus => "MINUS"
  | comma => "COMMA"
  | slash => "SLASH"
  | leftParen => "LPAREN"
  | rightParen => "RPAREN"
  | operator => "OPERATOR"
  | whitespace => "WHITESPACE"
  | endOfInput => "ENDOFINPUT"
  | error => "ERROR"

theorem name_eq_iff {a b : TokenKind} : a.name = b.name ↔ a = b := by
  cases a <;> cases b <;> decide

/-- The operators that have a kind of their own are single characters. -/
def ofOperator : Text → TokenKind
  | ['+'] => plus
  | ['-'] => minus
  | [','] => comma
  | ['/'] => slash
  | ['('] => leftParen
  | [')'] => rightParen
  | _ => operator

def ofClass (c : CharClass) (value : Text) : TokenKind :=
  match c with
  | .operator => ofOperator value
  | .hash => hexValue
  | .number => number
  | .percent => percent
  | .letter => identifier
  | .whitespace => whitespace
  | .endOfInput => endOfInput
  | .start | .newLine | .other => error

end TokenKind

structure Token where
  kind : TokenKind
  value : Text
  span : Option Span
  deriving DecidableEq, Repr

namespace Token

/-- Two tokens are the same word when their kinds and values agree. Where they stand is information
only. -/
def SameWord (a b : Token) : Prop := a.kind = b.kind ∧ a.value = b.value

instance (a b : Token) : Decidable (a.SameWord b) := inferInstanceAs (Decidable (_ ∧ _))

def bare (t : Token) : Token := { t with span := none }

def described (t : Token) : Text := t.kind.name ++ " " ++ t.value.quoted

end Token

/-! ### Dumps

One line for each character or token, indented by two spaces. -/

def Character.dumpLine (c : Character) : Text :=
  "  " ++ Text.ofInt c.position.line ++ ":" ++ Text.ofInt c.position.column ++ " [" ++
    Text.ofInt c.position.offset ++ "] " ++ c.charClass.name ++ " " ++ c.value.quoted ++ "\n"

def Token.dumpLine (t : Token) : Text := "  " ++ t.described ++ "\n"

def dumpCharacters (cs : List Character) : Text := cs.flatMap Character.dumpLine

def dumpTokens (ts : List Token) : Text := ts.flatMap Token.dumpLine

/-! ### Words -/

/-- White space, and what the lexer cannot place when that is nothing but line breaks. -/
def Token.isLayout (t : Token) : Bool :=
  match t.kind with
  | .whitespace => true
  | .error => t.value.all fun c => c = '\r' || c = '\n'
  | _ => false

def withoutLayout (ts : List Token) : List Token := ts.filter (!·.isLayout)

/-- The end of the input behind the last of some tokens. It has a place if that token has one, or if
there is no token. -/
def endToken (ts : List Token) : Token :=
  let span := match ts.getLast? with
    | none => some (Span.at .origin)
    | some t => t.span.map fun s => .at s.stop
  ⟨.endOfInput, [], span⟩

structure Significant where
  tokens : List Token
  stop : Token
  deriving DecidableEq, Repr

/-- The first end of the input among the tokens counts. If there is none, it comes behind the last
token, which may be layout only if all of them are. -/
def Significant.ofTokens (ts : List Token) : Significant :=
  let words := withoutLayout ts
  let isWord : Token → Bool := fun t => t.kind != .endOfInput
  ⟨words.takeWhile isWord,
    (words.dropWhile isWord).headD (endToken (if words.isEmpty then ts else words))⟩

namespace Significant

theorem kind_stop (ts : List Token) : (ofTokens ts).stop.kind = .endOfInput := by
  unfold ofTokens
  dsimp only
  cases behind : (withoutLayout ts).dropWhile fun t => t.kind != .endOfInput with
  | nil => rfl
  | cons t rest =>
    have stopped := List.head?_dropWhile_not (fun t : Token => t.kind != .endOfInput) (withoutLayout ts)
    simp only [behind, List.head?_cons, bne_eq_false_iff_eq] at stopped
    exact stopped

theorem kind_tokens {ts : List Token} : ∀ t ∈ (ofTokens ts).tokens, t.kind ≠ .endOfInput := by
  intro t member
  simpa using List.all_eq_true.mp List.all_takeWhile t member

end Significant

end StyleValue

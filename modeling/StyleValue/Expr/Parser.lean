import StyleValue.SyntaxError
import StyleValue.Token.Lexer

/-! Reading programs from tokens.

    program        := expression* end
    expression     := sum
    sum            := product (("+" | "-") product)*
    product        := unary (("/" | operator) unary)*
    unary          := ("+" | "-") unary | primary
    primary        := number | hex | percent | name | name "(" arguments? ")" | "(" expression ")"
    arguments      := expression ("," expression)*

Both binary levels group to the left. A name takes a bracket that follows it, and an expression takes
every operator that it can. Reading takes tokens from the front of a list, and what comes back holds
the proof that fewer are left, so all recursion is on the number of tokens.

A program may be nested to any depth. The stack that holds the calls of a running parser is not modelled,
and no reading fails because it is full. -/
namespace StyleValue

def TokenKind.startsExpression : TokenKind → Bool
  | number | percent | hexValue | identifier | leftParen | plus | minus => true
  | comma | slash | rightParen | operator | whitespace | endOfInput | error => false

def TokenKind.isSign : TokenKind → Bool
  | plus | minus => true
  | _ => false

/-- The two levels of binary operators. -/
inductive Level where
  | sum
  | product
  deriving DecidableEq, Repr

def Level.joins : Level → TokenKind → Bool
  | sum, kind => kind.isSign
  | product, kind => kind = .slash || kind = .operator

/-- What was read from the front of `input`: its value, the last token of it, and the tokens behind
it. -/
structure Parsed (α : Type) (input : List Token) where
  value : α
  last : Token
  rest : List Token
  shorter : rest.length < input.length

namespace Parsed

variable {α β : Type} {input : List Token}

/-- Counts the tokens in front of `input` as read, too. -/
def widen (p : Parsed α input) {whole : List Token} (h : input.length ≤ whole.length) :
    Parsed α whole :=
  ⟨p.value, p.last, p.rest, Nat.lt_of_lt_of_le p.shorter h⟩

def map (p : Parsed α input) (f : α → β) : Parsed β input := ⟨f p.value, p.last, p.rest, p.shorter⟩

end Parsed

namespace Parser

abbrev Result (α : Type) (input : List Token) := Except SyntaxError (Parsed α input)

def spanned (first last : Token) : Located := Span.cover? first.span last.span

def numeral (node : NodeKind) (token : Token) (digits : Text) : Except SyntaxError Int :=
  match Numeral.read? digits with
  | some value => .ok value
  | none => .error ⟨.numeral node digits.length, token⟩

variable (stop : Token)

/-- The next token must begin an expression. -/
def demand (cause : Cause) (input : List Token) : Except SyntaxError Unit :=
  let next := input.headD stop
  if next.kind.startsExpression then .ok () else .error ⟨cause, next⟩

mutual

/-- Operands of a level, joined from the left by its operators. -/
def chain (level : Level) (input : List Token) : Result (Expr Located) input :=
  match operand level input with
  | .error e => .error e
  | .ok first => extend level (input.headD stop) first
  termination_by 10 * input.length + (match level with | .sum => 6 | .product => 4)
  decreasing_by
  · cases level <;> simp
  · have := first.shorter
    omega

/-- An operand of a level is an expression of the next one. -/
def operand (level : Level) (input : List Token) : Result (Expr Located) input :=
  match level with
  | .sum => chain .product input
  | .product => unary input
  termination_by 10 * input.length + (match level with | .sum => 5 | .product => 3)
  decreasing_by all_goals simp

/-- Joins further operands to what was read from the token `start` on. -/
def extend (level : Level) (start : Token) {input : List Token}
    (left : Parsed (Expr Located) input) : Result (Expr Located) input :=
  match h : left.rest with
  | [] => .ok left
  | op :: after =>
    if level.joins op.kind then
      match demand stop (.operand op.value .binary) after with
      | .error e => .error e
      | .ok () =>
        match operand level after with
        | .error e => .error e
        | .ok right =>
          extend level start
            ⟨.binary op.value left.value right.value (spanned start right.last), right.last,
              right.rest, by have := left.shorter; have := right.shorter; simp_all; omega⟩
    else .ok left
  termination_by 10 * left.rest.length + 7
  decreasing_by
  · cases level <;> simp [h] <;> omega
  · have := right.shorter
    simp only [h, List.length_cons]
    omega

/-- Signs in front of a primary expression. The last sign is the first to be applied. -/
def unary (input : List Token) : Result (Expr Located) input :=
  let signs := input.takeWhile (·.kind.isSign)
  let body := input.dropWhile (·.kind.isSign)
  match signs.getLast? with
  | none => primary input
  | some sign =>
    match demand stop (.operand sign.value .unary) body with
    | .error e => .error e
    | .ok () =>
      match primary body with
      | .error e => .error e
      | .ok p =>
        let signed := p.map fun e =>
          signs.foldr (fun op e => .unary op.value e (spanned op p.last)) e
        .ok (signed.widen (List.dropWhile_sublist _).length_le)
  termination_by 10 * input.length + 2
  decreasing_by
  · simp
  · have := (List.dropWhile_sublist (l := input) (·.kind.isSign)).length_le
    omega

def primary (input : List Token) : Result (Expr Located) input :=
  match input with
  | [] => .error ⟨.expression, stop⟩
  | t :: rest =>
    match t.kind with
    | .number =>
      match numeral .number t t.value with
      | .error e => .error e
      | .ok value => .ok ⟨.number value t.span, t, rest, by simp⟩
    | .percent =>
      match numeral .percent t t.value.dropLast with
      | .error e => .error e
      | .ok value => .ok ⟨.percent value t.span, t, rest, by simp⟩
    | .hexValue => .ok ⟨.hex t.value t.span, t, rest, by simp⟩
    | .identifier =>
      let name : Name Located := ⟨t.value, t.span⟩
      match rest with
      | [] => .ok ⟨.identifier name, t, [], by simp⟩
      | paren :: inner =>
        if paren.kind = .leftParen then
          match arguments t.value inner with
          | .error e => .error e
          | .ok p =>
            let call := p.map fun list => Expr.call name list (spanned t p.last)
            .ok (call.widen (by simp; omega))
        else .ok ⟨.identifier name, t, paren :: inner, by simp⟩
    | .leftParen =>
      match demand stop .groupBody rest with
      | .error e => .error e
      | .ok () =>
        match chain .sum rest with
        | .error e => .error e
        | .ok p =>
          match h : p.rest with
          | [] => .error ⟨.groupEnd, stop⟩
          | close :: after =>
            if close.kind = .rightParen then
              .ok ⟨.group p.value (spanned t close), close, after, by
                have := p.shorter
                simp only [h, List.length_cons] at *
                omega⟩
            else .error ⟨.groupEnd, close⟩
    | _ => .error ⟨.expression, t⟩
  termination_by 10 * input.length + 1
  decreasing_by all_goals simp only [List.length_cons]; omega

def arguments (callee : Text) (input : List Token) : Result (List (Expr Located)) input :=
  match input with
  | [] => moreArguments callee []
  | t :: rest =>
    if t.kind = .rightParen then .ok ⟨[], t, rest, by simp⟩ else moreArguments callee (t :: rest)
  termination_by 10 * input.length + 9
  decreasing_by all_goals simp

/-- At least one argument, then the others behind commas, and the closing bracket. -/
def moreArguments (callee : Text) (input : List Token) : Result (List (Expr Located)) input :=
  match demand stop (.argument callee) input with
  | .error e => .error e
  | .ok () =>
    match chain .sum input with
    | .error e => .error e
    | .ok first =>
      match h : first.rest with
      | [] => .error ⟨.callEnd callee, stop⟩
      | t :: after =>
        match t.kind with
        | .comma =>
          match moreArguments callee after with
          | .error e => .error e
          | .ok others =>
            .ok ((others.map (first.value :: ·)).widen (by
              have := first.shorter
              simp only [h, List.length_cons] at this
              omega))
        | .rightParen => .ok ⟨[first.value], t, after, by
            have := first.shorter
            simp only [h, List.length_cons] at this
            omega⟩
        | _ => .error ⟨.callEnd callee, t⟩
  termination_by 10 * input.length + 8
  decreasing_by
  · simp
  · have := first.shorter
    simp only [h, List.length_cons] at this
    omega

end

def statements (input : List Token) : Except SyntaxError (List (Statement Located)) :=
  match input with
  | [] => .ok []
  | first :: rest =>
    match chain stop .sum (first :: rest) with
    | .error e => .error e
    | .ok p =>
      match statements p.rest with
      | .error e => .error e
      | .ok others => .ok (⟨p.value, spanned first p.last⟩ :: others)
  termination_by input.length
  decreasing_by exact p.shorter

/-- A program reaches from its first token to its last one. Without statements it is where the input
ends. -/
def program (input : List Token) : Except SyntaxError (Program Located) :=
  match statements stop input with
  | .error e => .error e
  | .ok body =>
    match input.getLast? with
    | none => .ok ⟨body, stop.span⟩
    | some last => .ok ⟨body, spanned (input.headD stop) last⟩

end Parser

/-- Reads tokens as a program. Layout and all that follows the end of the input do not count. -/
def parseTokens (ts : List Token) : Except SyntaxError (Program Located) :=
  let significant := Significant.ofTokens ts
  Parser.program significant.stop significant.tokens

def parse (o : LexOptions) (source : Text) : Except SyntaxError (Program Located) :=
  parseTokens (tokenize o source)

end StyleValue

import StyleValue.Expr.Parser

/-! The parser with a cursor. It reads one fixed tape of tokens by looking at the place of the cursor and
moving it, in loops and in calls that are given no token of their own, and it watches itself: a look at no
token or behind an end of the input, a span up to nothing, a call that returns without a token and a loop
that turns too often are traps. A full stack of calls is no trap: how much a machine's stack can hold is not
modelled, only how deep the calls of a walk go. -/
namespace StyleValue

/-- What a walk must not come to. -/
inductive Trap where
  /-- A place that is none, or behind an end of the input. -/
  | outside
  /-- A span up to the last token that was taken, where none was. -/
  | unstarted
  /-- A return from a call that took no token. -/
  | stalled
  /-- More turns of a loop, or more expressions in each other, than there were to be. -/
  | exhausted
  deriving DecidableEq, Repr

inductive Halt where
  | refused (e : SyntaxError)
  | trapped (trap : Trap)
  deriving DecidableEq, Repr

/-- A part of a walk, from one place of the cursor to another. -/
abbrev Walk (α : Type) := StateT Nat (Except Halt) α

/-- The tape that is walked: the tokens without layout, and an end of the input if they have none at
their end. -/
def tapeOf (ts : List Token) : List Token :=
  let words := withoutLayout ts
  if words.getLast?.any (·.kind = .endOfInput) then words
  else words ++ [endToken (if words.isEmpty then ts else words)]

namespace Walk

variable {α : Type} (tape : List Token)

def halt (h : Halt) : Walk α := fun _ => .error h

/-- The token at a place that is not behind an end of the input. -/
def look (k : Nat) : Except Halt Token :=
  match tape[k]? with
  | none => .error (.trapped .outside)
  | some t => if (tape.take k).all (·.kind ≠ .endOfInput) then .ok t else .error (.trapped .outside)

def peek : Walk Token := fun k => (look tape k).map (·, k)

/-- Takes a token. The end of the input is never taken. -/
def advance : Walk Token := fun k =>
  (look tape k).map fun t => (t, if t.kind = .endOfInput then k else k + 1)

def spanFrom (start : Token) : Walk Located := fun k => do
  let _ ← look tape k
  match k with
  | 0 => .error (.trapped .unstarted)
  | before + 1 => (look tape before).map fun last => (Parser.spanned start last, k)

/-- A call may be made from any place up to the end of the input. It has to return from a later one. -/
def call (body : Walk α) : Walk α := fun k => do
  let _ ← look tape k
  let (a, k') ← body k
  let _ ← look tape k'
  if k < k' then .ok (a, k') else .error (.trapped .stalled)

/-- Turns until a turn gives nothing. -/
def loop (turn : α → Walk (Option α)) : Nat → α → Walk α
  | 0, _ => halt (.trapped .exhausted)
  | turns + 1, a => do
    match ← turn a with
    | some a => loop turn turns a
    | none => return a

def expect (kind : TokenKind) (cause : Cause) : Walk Token := do
  let t ← peek tape
  if t.kind = kind then advance tape else halt (.refused ⟨cause, t⟩)

def demand (cause : Cause) : Walk Unit := do
  let t ← peek tape
  if t.kind.startsExpression then return () else halt (.refused ⟨cause, t⟩)

def numeral (node : NodeKind) (t : Token) (digits : Text) : Walk Int :=
  match Parser.numeral node t digits with
  | .ok value => return value
  | .error e => halt (.refused e)

/-! ### Chains of operators -/

def chainTurn (level : Level) (operand : Walk (Expr Located)) (start : Token) (left : Expr Located) :
    Walk (Option (Expr Located)) := do
  let t ← peek tape
  if level.joins t.kind then
    let op ← advance tape
    demand tape (.operand op.value .binary)
    let right ← operand
    let span ← spanFrom tape start
    return some (.binary op.value left right span)
  else return none

def chain (turns : Nat) (level : Level) (operand : Walk (Expr Located)) : Walk (Expr Located) :=
  call tape do
    let start ← peek tape
    let left ← operand
    loop (chainTurn tape level operand start) turns left

/-! ### Signs -/

def signTurn (ops : List Token) : Walk (Option (List Token)) := do
  let t ← peek tape
  if t.kind.isSign then
    let op ← advance tape
    return some (ops ++ [op])
  else return none

def applySigns (ops : List Token) (e : Expr Located) : Walk (Expr Located) :=
  ops.foldrM (fun op e => do
    let span ← spanFrom tape op
    return .unary op.value e span) e

def unary (turns : Nat) (primary : Walk (Expr Located)) : Walk (Expr Located) :=
  call tape do
    let ops ← loop (signTurn tape) turns []
    match ops.getLast? with
    | none => primary
    | some op =>
      demand tape (.operand op.value .unary)
      let e ← primary
      applySigns tape ops e

/-! ### Calls, groups and single tokens -/

def argument (callee : Text) (expression : Walk (Expr Located)) : Walk (Expr Located) :=
  call tape do
    demand tape (.argument callee)
    expression

def argumentTurn (callee : Text) (expression : Walk (Expr Located)) (list : List (Expr Located)) :
    Walk (Option (List (Expr Located))) := do
  let t ← peek tape
  if t.kind = .comma then
    let _ ← advance tape
    let e ← argument tape callee expression
    return some (list ++ [e])
  else return none

/-- More arguments, as long as there are commas, and the bracket that closes the call. -/
def closeArguments (turns : Nat) (callee : Text) (expression : Walk (Expr Located))
    (list : List (Expr Located)) : Walk (List (Expr Located)) := do
  let all ← loop (argumentTurn tape callee expression) turns list
  let _ ← expect tape .rightParen (.callEnd callee)
  return all

def arguments (turns : Nat) (callee : Text) (expression : Walk (Expr Located)) :
    Walk (List (Expr Located)) := do
  let t ← peek tape
  if t.kind = .rightParen then
    let _ ← expect tape .rightParen (.callEnd callee)
    return []
  else
    let first ← argument tape callee expression
    closeArguments tape turns callee expression [first]

/-- A call of a function, from the bracket behind its name. -/
def invocation (turns : Nat) (name : Token) (expression : Walk (Expr Located)) :
    Walk (Expr Located) := do
  let _ ← advance tape
  let list ← arguments tape turns name.value expression
  let span ← spanFrom tape name
  return .call ⟨name.value, name.span⟩ list span

def group (expression : Walk (Expr Located)) : Walk (Expr Located) := do
  let start ← advance tape
  demand tape .groupBody
  let e ← expression
  let _ ← expect tape .rightParen .groupEnd
  let span ← spanFrom tape start
  return .group e span

def primary (turns : Nat) (expression : Walk (Expr Located)) : Walk (Expr Located) :=
  call tape do
    let t ← peek tape
    match t.kind with
    | .number =>
      let _ ← advance tape
      let value ← numeral .number t t.value
      return .number value t.span
    | .percent =>
      let _ ← advance tape
      let value ← numeral .percent t t.value.dropLast
      return .percent value t.span
    | .hexValue =>
      let _ ← advance tape
      return .hex t.value t.span
    | .identifier =>
      let _ ← advance tape
      let next ← peek tape
      if next.kind = .leftParen then invocation tape turns t expression
      else return .identifier ⟨t.value, t.span⟩
    | .leftParen => group tape expression
    | _ => halt (.refused ⟨.expression, t⟩)

/-! ### Whole tapes -/

/-- An expression in which no more than `depth` others stand in each other. No loop of it turns more
often. -/
def expression : Nat → Walk (Expr Located)
  | 0 => halt (.trapped .exhausted)
  | depth + 1 =>
    chain tape depth .sum (chain tape depth .product
      (unary tape depth (primary tape depth (expression depth))))

def statementTurn (depth : Nat) (body : List (Statement Located)) :
    Walk (Option (List (Statement Located))) := do
  let start ← peek tape
  if start.kind = .endOfInput then return none
  else
    let e ← expression tape depth
    let span ← spanFrom tape start
    return some (body ++ [⟨e, span⟩])

def program (depth : Nat) : Walk (Program Located) := do
  let first ← peek tape
  let body ← loop (statementTurn tape depth) depth []
  if body.isEmpty then return ⟨body, first.span⟩
  else
    let span ← spanFrom tape first
    return ⟨body, span⟩

end Walk

/-! ### Places of the cursor -/

/-- A tape begins with words, and the first end of the input is behind them. -/
structure Tape (tape tokens : List Token) (stop : Token) : Prop where
  words : ∀ t ∈ tokens, t.kind ≠ .endOfInput
  stops : stop.kind = .endOfInput
  split : ∃ behind, tape = tokens ++ stop :: behind

/-- The cursor at `k` has `input` before it. -/
structure At (tokens : List Token) (k : Nat) (input : List Token) : Prop where
  inside : k ≤ tokens.length
  ahead : tokens.drop k = input

/-- The cursor is behind the token `last`. -/
structure Past (tokens : List Token) (k : Nat) (last : Token) (rest : List Token) : Prop
    extends At tokens k rest where
  behind : ∃ j, k = j + 1 ∧ tokens[j]? = some last

section

variable {tokens input : List Token} {k : Nat} {t : Token}

theorem At.length_eq (place : At tokens k input) : k + input.length = tokens.length := by
  have sizes := congrArg List.length place.ahead
  rw [List.length_drop] at sizes
  have := place.inside
  omega

theorem At.head (place : At tokens k (t :: input)) : tokens[k]? = some t := by
  have first := congrArg (·[0]?) place.ahead
  simpa [List.getElem?_drop] using first

theorem At.next (place : At tokens k (t :: input)) : Past tokens (k + 1) t input := by
  have size := place.length_eq
  rw [List.length_cons] at size
  refine ⟨⟨by omega, ?_⟩, k, rfl, place.head⟩
  rw [← List.tail_drop, place.ahead]
  rfl

end

namespace Walk

variable {α β : Type} {k k' : Nat} {a : α} {h : Halt}

theorem bind_of_ok {m : Walk α} (f : α → Walk β) (done : m k = .ok (a, k')) :
    (m >>= f) k = f a k' := by
  simp [bind, StateT.bind, Except.bind, done]

theorem bind_of_error {m : Walk α} (f : α → Walk β) (halted : m k = .error h) :
    (m >>= f) k = .error h := by
  simp [bind, StateT.bind, Except.bind, halted]

theorem bind_of_eq {m m' : Walk α} (f : α → Walk β) (same : m k = m' k') :
    (m >>= f) k = (m' >>= f) k' := by
  simp [bind, StateT.bind, Except.bind, same]

section

variable {turn : α → Walk (Option α)} {a' : α} {turns : Nat}

theorem loop_goes_on (done : turn a k = .ok (some a', k')) :
    loop turn (turns + 1) a k = loop turn turns a' k' := by
  rw [loop, bind_of_ok _ done]

theorem loop_ends (done : turn a k = .ok (none, k')) : loop turn (turns + 1) a k = .ok (a, k') := by
  rw [loop, bind_of_ok _ done]
  rfl

theorem loop_halts (halted : turn a k = .error h) : loop turn (turns + 1) a k = .error h := by
  rw [loop, bind_of_error _ halted]

end

section

variable {tape tokens input : List Token} {stop t : Token}

theorem peek_ok (seen : look tape k = .ok t) : peek tape k = .ok (t, k) := by
  unfold peek
  rw [seen]
  rfl

theorem peek_error (blind : look tape k = .error h) : peek tape k = .error h := by
  unfold peek
  rw [blind]
  rfl

theorem look_at (l : Tape tape tokens stop) (place : At tokens k input) :
    look tape k = .ok (input.headD stop) := by
  obtain ⟨behind, rfl⟩ := l.split
  have size := place.length_eq
  have here : (tokens ++ stop :: behind)[k]? = some (input.headD stop) := by
    cases input with
    | nil =>
      have reached : k = tokens.length := by simpa using size
      simp [reached]
    | cons t rest =>
      have inside : k < tokens.length := by
        rw [List.length_cons] at size
        omega
      rw [List.getElem?_append_left inside]
      exact place.head
  have plain : ((tokens ++ stop :: behind).take k).all (·.kind ≠ .endOfInput) = true := by
    rw [List.take_append_of_le_length place.inside]
    simp only [ne_eq, decide_not, List.all_eq_true, Bool.not_eq_eq_eq_not, Bool.not_true,
      decide_eq_false_iff_not]
    intro t member
    exact l.words t (List.mem_of_mem_take member)
  unfold look
  rw [here]
  dsimp only
  rw [if_pos plain]

theorem peek_at (l : Tape tape tokens stop) (place : At tokens k input) :
    peek tape k = .ok (input.headD stop, k) :=
  peek_ok (look_at l place)

theorem advance_at (l : Tape tape tokens stop) (place : At tokens k (t :: input)) :
    advance tape k = .ok (t, k + 1) := by
  have word : t.kind ≠ .endOfInput := l.words t (List.mem_of_getElem? place.head)
  unfold advance
  rw [look_at l place]
  simp [Except.map, word]

theorem spanFrom_at (l : Tape tape tokens stop) {last : Token} (past : Past tokens k last input)
    (start : Token) : spanFrom tape start k = .ok (Parser.spanned start last, k) := by
  obtain ⟨place, j, rfl, read⟩ := past
  have inside : j < tokens.length := by
    have := place.inside
    omega
  have before : At tokens j (tokens.drop j) := ⟨Nat.le_of_lt inside, rfl⟩
  have taken : (tokens.drop j).headD stop = last := by
    rw [List.headD_eq_head?_getD, List.head?_drop, read]
    rfl
  unfold spanFrom
  rw [look_at l place]
  simp only [bind, Except.bind]
  rw [look_at l before, taken]
  rfl

theorem demand_at (l : Tape tape tokens stop) (place : At tokens k input) (cause : Cause) :
    demand tape cause k = match Parser.demand stop cause input with
      | .ok () => .ok ((), k)
      | .error e => .error (.refused e) := by
  unfold demand
  rw [bind_of_ok _ (peek_at l place)]
  unfold Parser.demand
  dsimp only
  split <;> rfl

theorem expect_at (l : Tape tape tokens stop) (place : At tokens k (t :: input)) {kind : TokenKind}
    (same : t.kind = kind) (cause : Cause) : expect tape kind cause k = .ok (t, k + 1) := by
  unfold expect
  rw [bind_of_ok _ (peek_at l place), List.headD_cons, if_pos same]
  exact advance_at l place

theorem expect_other (l : Tape tape tokens stop) (place : At tokens k input) {kind : TokenKind}
    (other : (input.headD stop).kind ≠ kind) (cause : Cause) :
    expect tape kind cause k = .error (.refused ⟨cause, input.headD stop⟩) := by
  unfold expect
  rw [bind_of_ok _ (peek_at l place), if_neg other]
  rfl

end

end Walk

end StyleValue

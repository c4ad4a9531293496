import StyleValue.Proofs.Reading

/-! What may come next. A frontier remembers the brackets that are open and what was read last; from it
each token either leads to another frontier or is refused with a cause. No tree is built and nothing is
looked up ahead, so a frontier tells at every token whether the tokens so far can be part of a
program. -/
namespace StyleValue

inductive Bracket where
  | group
  | call (callee : Text)
  deriving DecidableEq, Repr

inductive Phase where
  /-- Before the first token. -/
  | fresh
  /-- Behind an operator, a comma or the bracket of a group: without an operand, `missing` is the
  cause. -/
  | operand (missing : Cause)
  /-- Behind the bracket of a call, which may also close at once. -/
  | arguments (callee : Text)
  /-- Behind a name that a bracket would turn into a callee. -/
  | name (text : Text)
  /-- Behind any other operand. -/
  | complete
  deriving DecidableEq, Repr

structure Frontier where
  brackets : List Bracket
  phase : Phase
  deriving DecidableEq, Repr

namespace Frontier

def start : Frontier := ⟨[], .fresh⟩

/-- The cause when the next token is none of those that may come. -/
def missing (f : Frontier) : Cause :=
  match f.phase with
  | .fresh => .expression
  | .operand cause => cause
  | .arguments callee => .argument callee
  | .name _ | .complete =>
    match f.brackets with
    | [] => .expression
    | .group :: _ => .groupEnd
    | .call callee :: _ => .callEnd callee

/-- Whether the input may end here. -/
def final (f : Frontier) : Bool :=
  match f.phase with
  | .operand _ | .arguments _ => false
  | .fresh | .name _ | .complete => f.brackets.isEmpty

/-- A token where an operand begins. -/
def opens (brackets : List Bracket) (t : Token) : Option Frontier :=
  match t.kind with
  | .number | .percent | .hexValue => some ⟨brackets, .complete⟩
  | .identifier => some ⟨brackets, .name t.value⟩
  | .leftParen => some ⟨.group :: brackets, .operand .groupBody⟩
  | .plus | .minus => some ⟨brackets, .operand (.operand t.value .unary)⟩
  | _ => none

/-- A token behind an operand: an operator, what the innermost bracket takes or, outside of all
brackets, the beginning of another expression. -/
def goesOn (brackets : List Bracket) (t : Token) : Option Frontier :=
  if Level.sum.joins t.kind || Level.product.joins t.kind then
    some ⟨brackets, .operand (.operand t.value .binary)⟩
  else
    match brackets, t.kind with
    | [], _ => opens [] t
    | .group :: outer, .rightParen | .call _ :: outer, .rightParen => some ⟨outer, .complete⟩
    | .call callee :: _, .comma => some ⟨brackets, .operand (.argument callee)⟩
    | _, _ => none

/-- Where a token leads, its digits not looked at. -/
def next? (f : Frontier) (t : Token) : Option Frontier :=
  match f.phase, t.kind with
  | .arguments _, .rightParen => some ⟨f.brackets.tail, .complete⟩
  | .name callee, .leftParen => some ⟨.call callee :: f.brackets, .arguments callee⟩
  | .fresh, _ | .operand _, _ | .arguments _, _ => opens f.brackets t
  | .name _, _ | .complete, _ => goesOn f.brackets t

def run (f : Frontier) : List Token → Option Frontier
  | [] => some f
  | t :: rest => (f.next? t).bind fun g => g.run rest

/-- Whether the next token must begin an operand. -/
def awaits (f : Frontier) : Bool :=
  match f.phase with
  | .fresh | .operand _ | .arguments _ => true
  | .name _ | .complete => false

end Frontier

def Token.fault (t : Token) : Cause :=
  .numeral (if t.kind = .number then .number else .percent) (t.digits?.getD []).length

/-- Reads tokens from a frontier up to the end of the input, and gives the first token that is refused,
if one is. -/
def Frontier.scan (stop : Token) (f : Frontier) : List Token → Except SyntaxError Unit
  | [] => if f.final then .ok () else .error ⟨f.missing, stop⟩
  | t :: rest =>
    match f.next? t with
    | none => .error ⟨f.missing, t⟩
    | some g => if t.converts then g.scan stop rest else .error ⟨t.fault, t⟩

namespace Frontier

theorem run_append (f : Frontier) (ts us : List Token) :
    f.run (ts ++ us) = (f.run ts).bind fun g => g.run us := by
  induction ts generalizing f with
  | nil => rfl
  | cons t ts ih => cases step : f.next? t <;> simp [run, step, ih]

theorem scan_cons {stop t : Token} {f g : Frontier} {rest : List Token} (step : f.next? t = some g)
    (converts : t.converts = true) : f.scan stop (t :: rest) = g.scan stop rest := by
  simp [scan, step, converts]

theorem scan_append {stop : Token} {f g : Frontier} {ts : List Token} (rest : List Token)
    (passed : f.run ts = some g) (converts : ∀ t ∈ ts, t.converts = true) :
    f.scan stop (ts ++ rest) = g.scan stop rest := by
  induction ts generalizing f with
  | nil =>
    cases passed
    rfl
  | cons t ts ih =>
    obtain ⟨h, step, later⟩ := Option.bind_eq_some_iff.mp passed
    rw [List.cons_append, scan_cons step (converts t List.mem_cons_self)]
    exact ih later fun u member => converts u (List.mem_cons_of_mem _ member)

theorem next?_of_awaits {f : Frontier} {t : Token} (awaiting : f.awaits = true)
    (starts : t.kind.startsExpression = true) : f.next? t = opens f.brackets t := by
  cases f with | mk brackets phase =>
  cases phase <;> cases kind : t.kind <;>
    simp_all [awaits, next?, TokenKind.startsExpression]

end Frontier

/-- The name at the end of an expression, if nothing but the name is its last operand. -/
def Expr.lastName? {α : Type} : Expr α → Option Text
  | .identifier name => some name.text
  | .binary _ _ right _ => right.lastName?
  | .unary _ argument _ => argument.lastName?
  | _ => none

def Phase.behind (e : Expr Located) : Phase :=
  match e.lastName? with
  | some text => .name text
  | none => .complete

namespace Frontier

/-- Where a phrase leads from a frontier that awaits it. -/
def Leads : Phrase → Frontier → Frontier → Prop
  | .expr _ e, f, g => g = ⟨f.brackets, .behind e⟩
  | .arguments _, f, g => g.brackets = f.brackets ∧ g.awaits = false

/-- Where a phrase may be read. Arguments need the bracket of their call. -/
def Admits : Phrase → Frontier → Prop
  | .expr _ _, f => f.awaits = true
  | .arguments _, f => f.awaits = true ∧ ∃ callee outer, f.brackets = .call callee :: outer

theorem awaits_behind (brackets : List Bracket) (e : Expr Located) :
    (Frontier.mk brackets (.behind e)).awaits = false := by
  unfold Phase.behind
  cases e.lastName? <;> rfl

theorem missing_behind (brackets : List Bracket) (e : Expr Located) :
    (Frontier.mk brackets (.behind e)).missing = (Frontier.mk brackets .complete).missing := by
  unfold Phase.behind
  cases e.lastName? <;> rfl

theorem final_of_bracket {f : Frontier} {b : Bracket} {outer : List Bracket}
    (inside : f.brackets = b :: outer) : f.final = false := by
  cases f with | mk brackets phase =>
  cases phase <;> simp_all [final]

theorem next?_behind {f : Frontier} {t : Token} (read : f.awaits = false)
    (plain : t.kind ≠ .leftParen) : f.next? t = goesOn f.brackets t := by
  cases f with | mk brackets phase =>
  cases phase <;> simp_all [awaits, next?]

theorem goesOn_operator {brackets : List Bracket} {level : Level} {op : Token}
    (joins : level.joins op.kind = true) :
    goesOn brackets op = some ⟨brackets, .operand (.operand op.value .binary)⟩ := by
  cases level <;> simp [goesOn, joins]

theorem goesOn_close {b : Bracket} {outer : List Bracket} {close : Token}
    (closes : close.kind = .rightParen) :
    goesOn (b :: outer) close = some ⟨outer, .complete⟩ := by
  cases b <;> simp [goesOn, closes, Level.joins, TokenKind.isSign]

theorem goesOn_comma {callee : Text} {outer : List Bracket} {comma : Token}
    (separates : comma.kind = .comma) : goesOn (.call callee :: outer) comma =
      some ⟨.call callee :: outer, .operand (.argument callee)⟩ := by
  simp [goesOn, separates, Level.joins, TokenKind.isSign]

theorem goesOn_outside {t : Token} (apart : ∀ level : Level, level.joins t.kind = false) :
    goesOn [] t = opens [] t := by
  simp [goesOn, apart]

theorem goesOn_cases {brackets : List Bracket} {t : Token} {f : Frontier}
    (step : goesOn brackets t = some f) :
    (∃ level : Level, level.joins t.kind = true ∧
      f = ⟨brackets, .operand (.operand t.value .binary)⟩) ∨
    (brackets = [] ∧ (∀ level : Level, level.joins t.kind = false) ∧ opens [] t = some f) ∨
    (∃ b outer, brackets = b :: outer ∧ t.kind = .rightParen ∧ f = ⟨outer, .complete⟩) ∨
    (∃ callee outer, brackets = .call callee :: outer ∧ t.kind = .comma ∧
      f = ⟨brackets, .operand (.argument callee)⟩) := by
  unfold goesOn at step
  split at step
  · rename_i joins
    cases step
    rcases Bool.or_eq_true_iff.mp joins with joins | joins
    · exact .inl ⟨.sum, joins, rfl⟩
    · exact .inl ⟨.product, joins, rfl⟩
  · rename_i apart
    have alone : ∀ level : Level, level.joins t.kind = false := by
      simp only [Bool.or_eq_true, not_or, Bool.not_eq_true] at apart
      exact fun level => by cases level <;> simp [apart]
    split at step
    · exact .inr (.inl ⟨rfl, alone, step⟩)
    · rename_i outer closes
      cases step
      exact .inr (.inr (.inl ⟨_, outer, rfl, closes, rfl⟩))
    · rename_i callee outer closes
      cases step
      exact .inr (.inr (.inl ⟨_, outer, rfl, closes, rfl⟩))
    · rename_i callee outer separates
      cases step
      exact .inr (.inr (.inr ⟨callee, outer, rfl, separates, rfl⟩))
    · cases step

theorem next?_operator {f : Frontier} {level : Level} {op : Token} (read : f.awaits = false)
    (joins : level.joins op.kind = true) :
    f.next? op = some ⟨f.brackets, .operand (.operand op.value .binary)⟩ := by
  have plain : op.kind ≠ .leftParen := by
    intro same
    cases level <;> simp [same, Level.joins, TokenKind.isSign] at joins
  rw [next?_behind read plain, goesOn_operator joins]

theorem next?_close {f : Frontier} {b : Bracket} {outer : List Bracket} {close : Token}
    (read : f.awaits = false) (inside : f.brackets = b :: outer) (closes : close.kind = .rightParen) :
    f.next? close = some ⟨outer, .complete⟩ := by
  rw [next?_behind read (by simp [closes]), inside, goesOn_close closes]

theorem next?_comma {f : Frontier} {callee : Text} {outer : List Bracket} {comma : Token}
    (read : f.awaits = false) (inside : f.brackets = .call callee :: outer)
    (separates : comma.kind = .comma) :
    f.next? comma = some ⟨f.brackets, .operand (.argument callee)⟩ := by
  rw [next?_behind read (by simp [separates]), inside, goesOn_comma separates]

theorem next?_sign {f : Frontier} {t : Token} (awaiting : f.awaits = true)
    (sign : t.kind.isSign = true) :
    f.next? t = some ⟨f.brackets, .operand (.operand t.value .unary)⟩ := by
  have starts : t.kind.startsExpression = true := by
    cases kind : t.kind <;> simp_all [TokenKind.isSign, TokenKind.startsExpression]
  rw [next?_of_awaits awaiting starts]
  cases kind : t.kind <;> simp_all [opens, TokenKind.isSign]

theorem next?_name {f : Frontier} {t : Token} (awaiting : f.awaits = true)
    (kind : t.kind = .identifier) : f.next? t = some ⟨f.brackets, .name t.value⟩ := by
  rw [next?_of_awaits awaiting (by rw [kind]; rfl), opens, kind]

theorem next?_paren {f : Frontier} {t : Token} (awaiting : f.awaits = true)
    (kind : t.kind = .leftParen) :
    f.next? t = some ⟨.group :: f.brackets, .operand .groupBody⟩ := by
  rw [next?_of_awaits awaiting (by rw [kind]; rfl), opens, kind]

theorem next?_callParen {brackets : List Bracket} {callee : Text} {paren : Token}
    (kind : paren.kind = .leftParen) :
    (Frontier.mk brackets (.name callee)).next? paren =
      some ⟨.call callee :: brackets, .arguments callee⟩ := by
  simp [next?, kind]

theorem run_cons {f g : Frontier} {t : Token} {rest : List Token} (step : f.next? t = some g) :
    f.run (t :: rest) = g.run rest := by
  simp [run, step]

theorem run_trans {f g : Frontier} {ts us : List Token} (first : f.run ts = some g) :
    f.run (ts ++ us) = g.run us := by
  rw [run_append, first, Option.bind_some]

end Frontier

open Frontier

/-- A frontier passes over every phrase that it admits, to the same brackets. -/
theorem Reads.run {phrase : Phrase} {ts : List Token} (h : Reads phrase ts) :
    ∀ f, Admits phrase f → ∃ g, f.run ts = some g ∧ Leads phrase f g := by
  induction h with
  | number kind | percent kind | hex kind =>
    intro f awaiting
    refine ⟨_, run_cons ?_, rfl⟩
    rw [next?_of_awaits awaiting (by rw [kind]; rfl), opens, kind]
    rfl
  | name kind =>
    intro f awaiting
    exact ⟨_, run_cons (next?_name awaiting kind), rfl⟩
  | emptyCall kind opened closed =>
    intro f awaiting
    refine ⟨_, ?_, rfl⟩
    rw [run_cons (next?_name awaiting kind), run_cons (next?_callParen opened), run_cons]
    · rfl
    · simp only [next?, closed]
      rfl
  | @call t paren close es ts kind opened _ closed ih =>
    intro f awaiting
    obtain ⟨g, passed, same, read⟩ :=
      ih ⟨.call t.value :: f.brackets, .arguments t.value⟩ ⟨rfl, _, _, rfl⟩
    refine ⟨_, ?_, rfl⟩
    rw [run_cons (next?_name awaiting kind), run_cons (next?_callParen opened), run_trans passed,
      run_cons (next?_close read same closed)]
    rfl
  | @group paren close e ts opened _ closed ih =>
    intro f awaiting
    obtain ⟨_, passed, rfl⟩ := ih ⟨.group :: f.brackets, .operand .groupBody⟩ rfl
    refine ⟨_, ?_, rfl⟩
    rw [run_cons (next?_paren awaiting opened), run_trans passed,
      run_cons (next?_close (awaits_behind _ _) rfl closed)]
    rfl
  | primary _ ih | operand _ ih => exact ih
  | sign kind _ ih =>
    intro f awaiting
    obtain ⟨_, passed, rfl⟩ := ih ⟨f.brackets, .operand (.operand _ .unary)⟩ rfl
    exact ⟨_, (run_cons (next?_sign awaiting kind)).trans passed, rfl⟩
  | binary _ joins _ ihLeft ihRight =>
    intro f awaiting
    obtain ⟨_, passedLeft, rfl⟩ := ihLeft f awaiting
    obtain ⟨_, passedRight, rfl⟩ := ihRight ⟨f.brackets, .operand (.operand _ .binary)⟩ rfl
    refine ⟨_, ?_, rfl⟩
    rw [run_trans passedLeft, run_cons (next?_operator (awaits_behind _ _) joins)]
    exact passedRight
  | argument _ ih =>
    rintro f ⟨awaiting, _⟩
    obtain ⟨_, passed, rfl⟩ := ih f awaiting
    exact ⟨_, passed, rfl, awaits_behind _ _⟩
  | arguments _ comma _ ihFirst ihOthers =>
    rintro f ⟨awaiting, callee, outer, inside⟩
    obtain ⟨_, passedFirst, rfl⟩ := ihFirst f awaiting
    obtain ⟨g, passedOthers, same, read⟩ :=
      ihOthers ⟨f.brackets, .operand (.argument callee)⟩ ⟨rfl, callee, outer, inside⟩
    refine ⟨g, ?_, same, read⟩
    rw [run_trans passedFirst, run_cons (next?_comma (awaits_behind _ _) inside comma)]
    exact passedOthers

theorem Reads.scan {rank : Rank} {e : Expr Located} {ts input rest : List Token}
    (h : Reads (.expr rank e) ts) (stop : Token) {f : Frontier} (awaiting : f.awaits = true)
    (same : input = ts ++ rest) :
    f.scan stop input = (Frontier.mk f.brackets (.behind e)).scan stop rest := by
  obtain ⟨_, passed, rfl⟩ := h.run f awaiting
  rw [same]
  exact scan_append rest passed h.converts

end StyleValue

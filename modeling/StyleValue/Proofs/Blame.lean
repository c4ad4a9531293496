import StyleValue.Proofs.FirstFault
import StyleValue.Proofs.Nesting
import StyleValue.Proofs.Reparse

/-! What errors blame. A frontier remembers the operator, the comma or the bracket that was read last and
the brackets that are open, so the cause of an error always comes from the innermost construct that is
unfinished in front of its token. -/
namespace StyleValue

open Grammar

/-- Kinds of tokens that demand an operand behind them. -/
def TokenKind.demandsOperand : TokenKind → Bool
  | plus | minus | slash | operator | comma | leftParen => true
  | identifier | hexValue | number | percent | rightParen | whitespace | endOfInput | error => false

/-- Whether an operand must begin behind some tokens: none at all, or the last of them demands it. -/
def OperandDue (ts : List Token) : Prop := ∀ t ∈ ts.getLast?, t.kind.demandsOperand = true

/-- An operator behind some tokens is unary if it is a sign where an operand is due, and binary if none is
due. -/
def NodeKind.OperatorBehind (front : List Token) (op : Token) : NodeKind → Prop
  | unary => op.kind.isSign = true ∧ OperandDue front
  | binary => (∃ level : Level, level.joins op.kind = true) ∧ ¬OperandDue front
  | _ => False

/-- How the tokens end behind which a frontier with these brackets is in a phase. -/
def Phase.Recalls (brackets : List Bracket) (ts : List Token) : Phase → Prop
  | fresh => brackets = [] ∧ ts = []
  | operand (.operand text node) =>
    ∃ front op, ts = front ++ [op] ∧ op.value = text ∧ node.OperatorBehind front op
  | operand .groupBody => brackets.head? = some .group ∧ ∃ t ∈ ts.getLast?, t.kind = .leftParen
  | operand (.argument callee) =>
    brackets.head? = some (.call callee) ∧ ∃ t ∈ ts.getLast?, t.kind = .comma
  | operand _ => False
  | arguments callee => brackets.head? = some (.call callee) ∧ ∃ t ∈ ts.getLast?, t.kind = .leftParen
  | name text => ∃ t ∈ ts.getLast?, t.kind = .identifier ∧ t.value = text
  | complete => ∃ t ∈ ts.getLast?, t.kind.demandsOperand = false ∧ t.kind ≠ .identifier

/-- What a frontier knows of all the tokens that it passed over. -/
structure Frontier.Recalls (f : Frontier) (ts : List Token) : Prop where
  nested : Nested f.brackets ts
  phase : f.phase.Recalls f.brackets ts

theorem demandsOperand_of_joins {level : Level} {k : TokenKind} (joins : level.joins k = true) :
    k.demandsOperand = true := by
  cases level <;> cases k <;> first | rfl | cases joins

namespace Frontier

variable {f g : Frontier} {ts : List Token} {t : Token}

theorem start_recalls : start.Recalls [] := ⟨.flat .nil, rfl, rfl⟩

theorem Recalls.due_iff (h : f.Recalls ts) : OperandDue ts ↔ f.awaits = true := by
  obtain ⟨brackets, phase⟩ := f
  have recalled := h.phase
  cases phase with
  | fresh =>
    obtain ⟨_, rfl⟩ := recalled
    exact iff_of_true (by simp [OperandDue]) rfl
  | arguments callee =>
    obtain ⟨_, t, last, kind⟩ := recalled
    exact iff_of_true (by simp_all [OperandDue, TokenKind.demandsOperand]) rfl
  | name text =>
    obtain ⟨t, last, kind, _⟩ := recalled
    exact iff_of_false (by simp_all [OperandDue, TokenKind.demandsOperand]) (by simp [awaits])
  | complete =>
    obtain ⟨t, last, kind, _⟩ := recalled
    exact iff_of_false (by simp_all [OperandDue]) (by simp [awaits])
  | operand cause =>
    refine iff_of_true (fun t last => ?_) rfl
    cases cause with
    | operand text node =>
      obtain ⟨front, op, rfl, _, operator⟩ := recalled
      obtain rfl : op = t := by simpa using last
      cases node with
      | unary => exact @demandsOperand_of_joins .sum _ operator.1
      | binary =>
        obtain ⟨⟨level, joins⟩, _⟩ := operator
        exact demandsOperand_of_joins joins
      | _ => exact operator.elim
    | groupBody =>
      obtain ⟨_, u, last', kind⟩ := recalled
      simp_all [TokenKind.demandsOperand]
    | argument callee =>
      obtain ⟨_, u, last', kind⟩ := recalled
      simp_all [TokenKind.demandsOperand]
    | _ => exact recalled.elim

/-- Where an operand begins, the token before it is no name: that could take a bracket as its own. -/
theorem opens_recalls {brackets : List Bracket} (nested : Nested brackets ts)
    (sign : t.kind.isSign = true → OperandDue ts)
    (unnamed : t.kind = .leftParen → ∀ u ∈ ts.getLast?, u.kind ≠ .identifier)
    (step : opens brackets t = some g) : g.Recalls (ts ++ [t]) := by
  unfold opens at step
  cases kind : t.kind <;> simp only [kind] at step <;> cases step
  case number | percent | hexValue =>
    exact ⟨nested.plain (by simp [kind]) (by simp [kind]),
      t, by simp, by simp [kind, TokenKind.demandsOperand], by simp [kind]⟩
  case identifier =>
    exact ⟨nested.plain (by simp [kind]) (by simp [kind]), t, by simp, kind, rfl⟩
  case leftParen => exact ⟨nested.opened (unnamed kind) kind, rfl, t, by simp, kind⟩
  case plus | minus =>
    have signed : t.kind.isSign = true := by rw [kind]; rfl
    exact ⟨nested.plain (by simp [kind]) (by simp [kind]), ts, t, rfl, rfl, signed, sign signed⟩

theorem goesOn_recalls {brackets : List Bracket} (nested : Nested brackets ts)
    (behind : ¬OperandDue ts)
    (unnamed : t.kind = .leftParen → ∀ u ∈ ts.getLast?, u.kind ≠ .identifier)
    (step : goesOn brackets t = some g) : g.Recalls (ts ++ [t]) := by
  rcases goesOn_cases step with ⟨level, joins, rfl⟩ | ⟨rfl, apart, opened⟩ | ⟨b, outer, rfl, closes, rfl⟩ |
    ⟨callee, outer, rfl, separates, rfl⟩
  · have plain : t.kind ≠ .leftParen ∧ t.kind ≠ .rightParen := by
      constructor <;> intro same <;> cases level <;> simp [same, Level.joins, TokenKind.isSign] at joins
    exact ⟨nested.plain plain.1 plain.2, ts, t, rfl, rfl, ⟨level, joins⟩, behind⟩
  · have unsigned : t.kind.isSign = false := apart .sum
    exact opens_recalls nested (fun sign => by simp [unsigned] at sign) unnamed opened
  · exact ⟨nested.closed closes, t, by simp, by simp [closes, TokenKind.demandsOperand], by simp [closes]⟩
  · exact ⟨nested.plain (by simp [separates]) (by simp [separates]), rfl, t, by simp, separates⟩

theorem next?_recalls (h : f.Recalls ts) (step : f.next? t = some g) : g.Recalls (ts ++ [t]) := by
  have due := h.due_iff
  obtain ⟨nested, recalled⟩ := h
  obtain ⟨brackets, phase⟩ := f
  have awaiting : OperandDue ts → opens brackets t = some g → g.Recalls (ts ++ [t]) := by
    intro here
    refine opens_recalls nested (fun _ => here) fun _ u last named => ?_
    have demands := here u last
    simp [named, TokenKind.demandsOperand] at demands
  cases phase with
  | fresh => exact awaiting (due.mpr rfl) step
  | operand cause => exact awaiting (due.mpr rfl) step
  | arguments callee =>
    by_cases closes : t.kind = .rightParen
    · simp only [next?, closes] at step
      cases step
      obtain ⟨inside, _⟩ := recalled
      obtain ⟨outer, rfl⟩ := List.head?_eq_some_iff.mp inside
      exact ⟨nested.closed closes, t, by simp, by simp [closes, TokenKind.demandsOperand],
        by simp [closes]⟩
    · refine awaiting (due.mpr rfl) ?_
      unfold next? at step
      split at step <;> simp_all
  | name text =>
    by_cases opens : t.kind = .leftParen
    · rw [next?_callParen opens] at step
      cases step
      exact ⟨nested.opened recalled opens, rfl, t, by simp, opens⟩
    · rw [next?_behind rfl opens] at step
      exact goesOn_recalls nested (mt due.mp (by simp [awaits])) (absurd · opens) step
  | complete =>
    refine goesOn_recalls nested (mt due.mp (by simp [awaits])) (fun _ u last => ?_) step
    obtain ⟨v, last', _, unnamed⟩ := recalled
    cases last.symm.trans last'
    exact unnamed

/-- What is recalled of the tokens passed over so far is kept by every token, and so by a whole run. -/
theorem run_recalls {us : List Token} (h : f.Recalls ts) (passed : f.run us = some g) :
    g.Recalls (ts ++ us) := by
  induction us generalizing f ts with
  | nil =>
    cases passed
    rwa [List.append_nil]
  | cons t us ih =>
    obtain ⟨h', step, later⟩ := Option.bind_eq_some_iff.mp passed
    rw [List.append_cons]
    exact ih (next?_recalls h step) later

end Frontier

/-- The innermost construct that a cause names, at the end of the tokens `pre`. Outside of all constructs
they are a whole program. -/
def Cause.Closes (pre : List Token) : Cause → Prop
  | operand text node =>
    ∃ front op, pre = front ++ [op] ∧ op.value = text ∧ node.OperatorBehind front op
  | argument callee | callEnd callee =>
    ∃ before bracket inside, InnermostOpen pre before bracket inside ∧
      (Bracket.call callee).Follows before
  | groupBody | groupEnd =>
    ∃ before bracket inside, InnermostOpen pre before bracket inside ∧ Bracket.group.Follows before
  | expression => ∃ g, Frontier.start.run pre = some g ∧ g.final = true
  | numeral _ _ => False

theorem Frontier.missing_closes {g : Frontier} {pre : List Token}
    (passed : start.run pre = some g) : g.missing.Closes pre := by
  obtain ⟨nested, recalled⟩ := run_recalls start_recalls passed
  rw [List.nil_append] at nested recalled
  obtain ⟨brackets, phase⟩ := g
  -- Behind an operand the innermost bracket decides.
  have behind : (Frontier.mk [] phase).final = true →
      (Frontier.mk brackets .complete).missing.Closes pre := by
    intro final
    match brackets, nested, passed with
    | [], _, passed => exact ⟨_, passed, final⟩
    | .group :: _, nested, _ => exact nested.innermost
    | .call _ :: _, nested, _ => exact nested.innermost
  cases phase with
  | fresh =>
    obtain ⟨rfl, rfl⟩ := recalled
    exact ⟨_, rfl, rfl⟩
  | arguments callee =>
    obtain ⟨outer, rfl⟩ := List.head?_eq_some_iff.mp recalled.1
    exact nested.innermost
  | name text => exact behind rfl
  | complete => exact behind rfl
  | operand cause =>
    cases cause with
    | operand text node => exact recalled
    | groupBody =>
      obtain ⟨outer, rfl⟩ := List.head?_eq_some_iff.mp recalled.1
      exact nested.innermost
    | argument callee =>
      obtain ⟨outer, rfl⟩ := List.head?_eq_some_iff.mp recalled.1
      exact nested.innermost
    | _ => exact recalled.elim

/-- Where a program may end, only these kinds of words are refused. -/
theorem Frontier.refused_final {g : Frontier} {t : Token} (final : g.final = true)
    (refused : g.next? t = none) (unended : t.kind ≠ .endOfInput) (dark : t.kind ≠ .whitespace) :
    t.kind ∈ [TokenKind.rightParen, .comma, .slash, .operator, .error] := by
  obtain ⟨brackets, phase⟩ := g
  cases phase <;> simp only [Frontier.final, List.isEmpty_iff, Bool.false_eq_true] at final <;>
    subst final <;> cases kind : t.kind <;>
    simp_all [next?, goesOn, opens, Level.joins, TokenKind.isSign]

namespace NodeKind

theorem name_ne_expression (a : NodeKind) : a.name ≠ "Expression" := by
  cases a <;> decide

end NodeKind

/-- What the construct of an error tells of its token and of the tokens `pre` in front of that. -/
structure SyntaxError.Blames (e : SyntaxError) (pre : List Token) : Prop where
  construct : e.construct ∈ [NodeKind.binary.name, NodeKind.unary.name, NodeKind.group.name,
    NodeKind.call.name, NodeKind.number.name, NodeKind.percent.name, "Expression"]
  operator : e.construct = NodeKind.binary.name ∨ e.construct = NodeKind.unary.name →
    ∃ front op, pre = front ++ [op] ∧ op.kind ∈ [TokenKind.plus, .minus, .slash, .operator] ∧
      e.message = "expected operand after '" ++ op.value ++ "', found " ++ e.found ∧
      (e.construct = NodeKind.unary.name ↔
        op.kind ∈ [TokenKind.plus, .minus] ∧ OperandDue front)
  bracket : e.construct = NodeKind.group.name ∨ e.construct = NodeKind.call.name →
    (∃ before bracket inside, InnermostOpen pre before bracket inside) ∧
    ∀ before bracket inside, InnermostOpen pre before bracket inside →
      (e.construct = NodeKind.call.name ↔ ∃ t ∈ before.getLast?, t.kind = .identifier) ∧
      (e.construct = NodeKind.call.name → ∃ t ∈ before.getLast?,
        e.message = "expected argument in call to '" ++ t.value ++ "', found " ++ e.found ∨
        e.message = "expected ')' to close call to '" ++ t.value ++ "'")
  expression : e.construct = "Expression" → (∃ p, parseTokens pre = .ok p) ∧
    e.token.kind ∈ [TokenKind.rightParen, .comma, .slash, .operator, .error]
  number : e.construct = NodeKind.number.name → e.token.kind = .number
  percent : e.construct = NodeKind.percent.name → e.token.kind = .percent

theorem significant_plain {ts : List Token} :
    ∀ t ∈ (Significant.ofTokens ts).tokens, t.isLayout = false ∧ t.kind ≠ .endOfInput := by
  intro t member
  have word := (List.takeWhile_sublist _).subset member
  refine ⟨?_, Significant.kind_tokens t member⟩
  simpa using List.of_mem_filter word

theorem significant_of_plain {ts : List Token}
    (plain : ∀ t ∈ ts, t.isLayout = false ∧ t.kind ≠ .endOfInput) :
    (Significant.ofTokens ts).tokens = ts := by
  rw [significant_eq fun t member => (plain t member).2]
  exact List.filter_eq_self.mpr fun t member => by simp [(plain t member).1]

namespace SyntaxError

variable {pre : List Token} {t : Token}

theorem blames_operator {text : Text} {node : NodeKind}
    (closes : (Cause.operand text node).Closes pre) : (mk (.operand text node) t).Blames pre := by
  obtain ⟨front, op, rfl, rfl, operator⟩ := closes
  cases node with
  | unary =>
    have sign : op.kind ∈ [TokenKind.plus, .minus] := by
      have signed := operator.1
      cases kind : op.kind <;> simp_all [TokenKind.isSign]
    have listed : op.kind ∈ [TokenKind.plus, .minus, .slash, .operator] := List.mem_append_left [_, _] sign
    constructor <;> simp only [SyntaxError.construct, NodeKind.name_eq_iff, NodeKind.name_ne_expression]
    case construct => simp
    case operator => exact fun _ => ⟨front, op, rfl, listed, rfl, iff_of_true trivial ⟨sign, operator.2⟩⟩
    all_goals simp
  | binary =>
    obtain ⟨⟨level, joins⟩, undue⟩ := operator
    have listed : op.kind ∈ [TokenKind.plus, .minus, .slash, .operator] := by
      cases level <;> cases kind : op.kind <;> simp_all [Level.joins, TokenKind.isSign]
    constructor <;> simp only [SyntaxError.construct, NodeKind.name_eq_iff, NodeKind.name_ne_expression]
    case construct => simp
    case operator =>
      exact fun _ => ⟨front, op, rfl, listed, rfl, iff_of_false (by simp) fun due => undue due.2⟩
    all_goals simp
  | _ => exact operator.elim

theorem blames_call {cause : Cause} {callee : Text}
    (closes : ∃ before bracket inside, InnermostOpen pre before bracket inside ∧
      (Bracket.call callee).Follows before)
    (named : cause = .argument callee ∨ cause = .callEnd callee) : (mk cause t).Blames pre := by
  obtain ⟨before, bracket, inside, innermost, name, last, kind, rfl⟩ := closes
  have construct : (mk cause t).construct = NodeKind.call.name := by
    rcases named with rfl | rfl <;> rfl
  constructor <;> simp only [construct, NodeKind.name_eq_iff, NodeKind.name_ne_expression]
  case construct => simp
  case bracket =>
    refine fun _ => ⟨⟨_, _, _, innermost⟩, fun before' bracket' inside' innermost' => ?_⟩
    obtain ⟨rfl, _⟩ := innermost.unique innermost'
    refine ⟨iff_of_true trivial ⟨name, last, kind⟩, fun _ => ⟨name, last, ?_⟩⟩
    rcases named with rfl | rfl
    · exact .inl rfl
    · exact .inr rfl
  all_goals simp

theorem blames_group {cause : Cause}
    (closes : ∃ before bracket inside, InnermostOpen pre before bracket inside ∧
      Bracket.group.Follows before)
    (named : cause = .groupBody ∨ cause = .groupEnd) : (mk cause t).Blames pre := by
  obtain ⟨before, bracket, inside, innermost, unnamed⟩ := closes
  have construct : (mk cause t).construct = NodeKind.group.name := by
    rcases named with rfl | rfl <;> rfl
  constructor <;> simp only [construct, NodeKind.name_eq_iff, NodeKind.name_ne_expression]
  case construct => simp
  case bracket =>
    refine fun _ => ⟨⟨_, _, _, innermost⟩, fun before' bracket' inside' innermost' => ?_⟩
    obtain ⟨rfl, _⟩ := innermost.unique innermost'
    refine ⟨iff_of_false (by simp) ?_, nofun⟩
    rintro ⟨u, last, kind⟩
    exact unnamed u last kind
  all_goals simp

theorem blames_expression (parsed : ∃ p, parseTokens pre = .ok p)
    (kind : t.kind ∈ [TokenKind.rightParen, .comma, .slash, .operator, .error]) :
    (mk .expression t).Blames pre := by
  have other : ∀ a : NodeKind, ("Expression" : Text) ≠ a.name := fun a => a.name_ne_expression.symm
  constructor <;> simp only [SyntaxError.construct, other]
  case construct => simp
  case expression => exact fun _ => ⟨parsed, kind⟩
  all_goals simp

theorem blames_literal {e : SyntaxError} (fault : e.cause = e.token.fault)
    (kind : e.token.kind = .number ∨ e.token.kind = .percent) : e.Blames pre := by
  obtain ⟨cause, t⟩ := e
  dsimp only at fault kind
  rw [fault]
  unfold Token.fault
  rcases kind with kind | kind <;> simp only [kind, reduceCtorEq, if_true, if_false] <;>
    constructor <;>
    simp only [SyntaxError.construct, NodeKind.name_eq_iff, NodeKind.name_ne_expression]
  case inl.construct | inr.construct => simp
  case inl.number | inr.percent => exact fun _ => kind
  all_goals simp

/-- Tokens that could be a program are one, if their literals convert and there is no layout left. -/
theorem parseTokens_plain {g : Frontier} (plain : ∀ t ∈ pre, t.isLayout = false ∧ t.kind ≠ .endOfInput)
    (passed : Frontier.start.run pre = some g) (final : g.final = true)
    (converts : ∀ t ∈ pre, t.converts = true) : ∃ p, parseTokens pre = .ok p := by
  obtain ⟨p, read⟩ := Parser.program_accepts (Significant.kind_stop pre) passed final converts
  refine ⟨p, ?_⟩
  unfold parseTokens
  dsimp only
  rw [significant_of_plain plain]
  exact read

theorem blames_of_closes {e : SyntaxError} (closes : e.cause.Closes pre)
    (outside : e.cause = .expression → (∃ p, parseTokens pre = .ok p) ∧
      e.token.kind ∈ [TokenKind.rightParen, .comma, .slash, .operator, .error]) : e.Blames pre := by
  obtain ⟨cause, t⟩ := e
  cases cause with
  | operand text node => exact blames_operator closes
  | argument callee => exact blames_call closes (.inl rfl)
  | callEnd callee => exact blames_call closes (.inr rfl)
  | groupBody => exact blames_group closes (.inl rfl)
  | groupEnd => exact blames_group closes (.inr rfl)
  | expression => exact blames_expression (outside rfl).1 (outside rfl).2
  | numeral node length => exact closes.elim

end SyntaxError

/-- An error blames the construct that is innermost where its token stands. -/
theorem parseTokens_blames {ts : List Token} {e : SyntaxError} (failed : parseTokens ts = .error e) :
    ∃ pre post : List Token,
      (Significant.ofTokens ts).tokens ++ [(Significant.ofTokens ts).stop] = pre ++ e.token :: post ∧
      Viable (pre.map Token.kind) ∧ (∀ t ∈ pre, t.converts = true) ∧
      (∃ o : Obstacle, o.Holds (Significant.ofTokens ts).tokens pre e.token) ∧ e.Blames pre := by
  have ends := Significant.kind_stop ts
  have plain := @significant_plain ts
  have follow := Parser.program_follows ends (Significant.ofTokens ts).tokens
  unfold parseTokens at failed
  rw [failed] at follow
  obtain ⟨pre, post, g, split, passed, converts, reason⟩ := Frontier.scan_fails follow
  refine ⟨pre, post, split, (viable_iff_run pre).mpr ⟨g, passed⟩, converts,
    Obstacle.of_scan ends Significant.kind_tokens passed converts reason, ?_⟩
  have closes := Frontier.missing_closes passed
  have final : g.missing = .expression → g.final = true := by
    intro outside
    rw [outside] at closes
    obtain ⟨h, passed', final⟩ := closes
    cases passed.symm.trans passed'
    exact final
  rcases reason with ⟨_, rfl, unfinished⟩ | ⟨member, cause, refused⟩ | ⟨_, cause, _, refused⟩
  · refine SyntaxError.blames_of_closes closes fun outside => ?_
    simp [final outside] at unfinished
  · refine SyntaxError.blames_of_closes (cause ▸ closes) fun outside => ?_
    have ended := final (cause ▸ outside)
    obtain ⟨layout, unended⟩ := plain _ member
    have dark : e.token.kind ≠ .whitespace := fun same => by simp [Token.isLayout, same] at layout
    have words := (prefix_of_split split).subset
    exact ⟨SyntaxError.parseTokens_plain (fun t inside => plain t (words inside)) passed ended converts,
      Frontier.refused_final ended refused unended dark⟩
  · exact SyntaxError.blames_literal cause (digits_kind refused)

/-- A comma in a group inside of a call: the group is to blame. -/
theorem parseTokens_blames_group :
    let pre : List Token := [⟨.identifier, ['f'], none⟩, ⟨.leftParen, ['('], none⟩,
      ⟨.leftParen, ['('], none⟩, ⟨.number, ['7'], none⟩]
    let e : SyntaxError := ⟨.groupEnd, ⟨.comma, [','], none⟩⟩
    parseTokens (pre ++ [⟨.whitespace, [' '], none⟩, e.token]) = .error e ∧ e.Blames pre := by
  intro pre e
  have failed : parseTokens (pre ++ [⟨.whitespace, [' '], none⟩, e.token]) = .error e := by cbv
  refine ⟨failed, ?_⟩
  obtain ⟨front, post, split, _, _, _, blames⟩ := parseTokens_blames failed
  have words : (Significant.ofTokens (pre ++ [⟨.whitespace, [' '], none⟩, e.token])).tokens =
      pre ++ [e.token] := by decide
  rw [words, List.append_assoc] at split
  -- There is but one comma.
  obtain ⟨rfl, _⟩ := (List.append_cons_inj_of_notMem (by decide) (by decide)).mp split
  exact blames

end StyleValue

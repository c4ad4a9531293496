import Mathlib.Data.List.Forall2
import StyleValue.Proofs.Derivability
import StyleValue.Proofs.Frontier

/-! Frontiers and the grammar. The grammar is ambiguous where one expression follows another: a sign
may begin the next one or join the two, and a bracket behind a name may be a group or a call. A
frontier takes the longer reading at once. That loses nothing, because a frontier above another takes
every token that the other takes. -/
namespace StyleValue

open Grammar

/-- A call takes all that a group takes. -/
def Bracket.Below : Bracket → Bracket → Prop
  | .group, _ => True
  | .call _, b => b ≠ .group

namespace Frontier

/-- The order of phases. The first token of all may as well come behind an expression, and an operand
may come where arguments may. -/
def PhaseBelow (f g : Frontier) : Prop :=
  match f.phase, g.phase with
  | .fresh, .fresh => True
  | .fresh, .name _ | .fresh, .complete => f.brackets = []
  | .operand _, .operand _ | .operand _, .arguments _ | .arguments _, .arguments _ => True
  | .name _, .name _ | .complete, .name _ | .complete, .complete => True
  | _, _ => False

structure Below (f g : Frontier) : Prop where
  brackets : List.Forall₂ Bracket.Below f.brackets g.brackets
  phase : PhaseBelow f g

theorem bracketsBelow_trans {bs cs ds : List Bracket} (first : List.Forall₂ Bracket.Below bs cs)
    (second : List.Forall₂ Bracket.Below cs ds) : List.Forall₂ Bracket.Below bs ds := by
  induction first generalizing ds with
  | nil => exact second
  | @cons b c _ _ inner _ ih =>
    obtain ⟨d, _, outer, later, rfl⟩ := List.forall₂_cons_left_iff.mp second
    refine .cons ?_ (ih later)
    cases b <;> cases c <;> simp_all [Bracket.Below]

theorem Below.trans {f g h : Frontier} (first : Below f g) (second : Below g h) : Below f h := by
  obtain ⟨inner, low⟩ := first
  obtain ⟨outer, high⟩ := second
  refine ⟨bracketsBelow_trans inner outer, ?_⟩
  cases f with | mk bs p =>
  cases g with | mk cs q =>
  cases h with | mk ds r =>
  cases p <;> cases q <;> cases r <;> simp_all [PhaseBelow]

theorem opens_below {bs cs : List Bracket} {t u : Token} {f : Frontier}
    (below : List.Forall₂ Bracket.Below bs cs) (kind : t.kind = u.kind)
    (step : opens bs t = some f) : ∃ g, opens cs u = some g ∧ Below f g := by
  unfold opens at step
  unfold opens
  rw [← kind]
  cases same : t.kind <;> rw [same] at step <;> cases step
  case leftParen => exact ⟨_, rfl, .cons trivial below, trivial⟩
  all_goals exact ⟨_, rfl, below, trivial⟩

theorem opens_below_goesOn {t u : Token} {f : Frontier} (kind : t.kind = u.kind)
    (step : opens [] t = some f) : ∃ g, goesOn [] u = some g ∧ Below f g := by
  -- Behind an expression a sign is an operator, but an operand is awaited behind it all the same.
  cases sign : t.kind.isSign with
  | true =>
    refine ⟨_, @goesOn_operator [] .sum u (kind ▸ sign), ?_⟩
    unfold opens at step
    cases same : t.kind <;> simp only [same, TokenKind.isSign, Bool.false_eq_true] at sign step <;>
      cases step <;> exact ⟨.nil, trivial⟩
  | false =>
    have apart : ∀ level : Level, level.joins u.kind = false := by
      intro level
      rw [← kind]
      unfold opens at step
      cases level with
      | sum => exact sign
      | product =>
        clear kind
        cases same : t.kind <;> simp_all [Level.joins]
    rw [goesOn_outside apart]
    exact opens_below .nil kind step

theorem goesOn_below {bs cs : List Bracket} {t u : Token} {f : Frontier}
    (below : List.Forall₂ Bracket.Below bs cs) (kind : t.kind = u.kind)
    (step : goesOn bs t = some f) : ∃ g, goesOn cs u = some g ∧ Below f g := by
  rcases goesOn_cases step with ⟨level, joins, rfl⟩ | ⟨rfl, apart, opened⟩ | ⟨b, outer, rfl, closes, rfl⟩ |
    ⟨callee, outer, rfl, separates, rfl⟩
  · exact ⟨_, goesOn_operator (kind ▸ joins), below, trivial⟩
  · cases below
    rw [goesOn_outside (kind ▸ apart)]
    exact opens_below .nil kind opened
  · obtain ⟨c, outer', inner, later, rfl⟩ := List.forall₂_cons_left_iff.mp below
    exact ⟨_, goesOn_close (kind ▸ closes), later, trivial⟩
  · obtain ⟨c, outer', inner, later, rfl⟩ := List.forall₂_cons_left_iff.mp below
    cases c with
    | group => exact absurd rfl inner
    | call other => exact ⟨_, goesOn_comma (kind ▸ separates), .cons inner later, trivial⟩

theorem goesOn_below_name {bs cs : List Bracket} {text : Text} {t u : Token} {f : Frontier}
    (below : List.Forall₂ Bracket.Below bs cs) (kind : t.kind = u.kind)
    (step : goesOn bs t = some f) : ∃ g, (Frontier.mk cs (.name text)).next? u = some g ∧ Below f g := by
  cases paren : t.kind == .leftParen with
  | true =>
    -- What opens a group opens a call behind a name, and a call admits all that a group does.
    have opened := beq_iff_eq.mp paren
    refine ⟨_, next?_callParen (kind ▸ opened), ?_⟩
    rcases goesOn_cases step with ⟨level, joins, _⟩ | ⟨rfl, _, opens⟩ | ⟨_, _, _, closes, _⟩ |
      ⟨_, _, _, separates, _⟩
    · cases level <;> simp [opened, Level.joins, TokenKind.isSign] at joins
    · cases below
      simp only [Frontier.opens, opened, Option.some.injEq] at opens
      subst opens
      exact ⟨.cons trivial .nil, trivial⟩
    · simp [opened] at closes
    · simp [opened] at separates
  | false =>
    rw [next?_behind rfl (by rw [← kind]; simpa using paren)]
    exact goesOn_below below kind step

theorem opens_below_arguments {bs cs : List Bracket} {callee : Text} {t u : Token} {f : Frontier}
    (below : List.Forall₂ Bracket.Below bs cs) (kind : t.kind = u.kind)
    (step : opens bs t = some f) :
    ∃ g, (Frontier.mk cs (.arguments callee)).next? u = some g ∧ Below f g := by
  obtain ⟨g, opened, related⟩ := opens_below below kind step
  refine ⟨g, ?_, related⟩
  have starts : u.kind.startsExpression = true := by
    unfold opens at opened
    cases same : u.kind <;> simp_all [TokenKind.startsExpression]
  rw [next?_of_awaits rfl starts]
  exact opened

theorem next?_below {f g f' : Frontier} {t u : Token} (below : Below f g) (kind : t.kind = u.kind)
    (step : f.next? t = some f') : ∃ g', g.next? u = some g' ∧ Below f' g' := by
  obtain ⟨brackets, phase⟩ := below
  cases f with | mk bs p =>
  cases g with | mk cs q =>
  cases p <;> cases q <;> simp only [PhaseBelow] at phase
  case fresh.fresh => exact opens_below brackets kind step
  case operand.operand => exact opens_below brackets kind step
  case operand.arguments => exact opens_below_arguments brackets kind step
  case complete.complete => exact goesOn_below brackets kind step
  case complete.name => exact goesOn_below_name brackets kind step
  case fresh.complete =>
    cases phase
    cases brackets
    exact opens_below_goesOn kind step
  case fresh.name =>
    -- By way of a finished expression that ends with no name.
    cases phase
    cases brackets
    obtain ⟨g, goes, related⟩ := opens_below_goesOn (u := t) rfl step
    obtain ⟨g', goes', related'⟩ := goesOn_below_name .nil kind goes
    exact ⟨g', goes', related.trans related'⟩
  case arguments.arguments callee _ =>
    cases close : t.kind == .rightParen with
    | true =>
      have closes := beq_iff_eq.mp close
      simp only [next?, closes, Option.some.injEq] at step
      subst step
      refine ⟨⟨cs.tail, .complete⟩, by simp only [next?, ← kind, closes], ?_, trivial⟩
      cases brackets with
      | nil => exact .nil
      | cons _ later => exact later
    | false =>
      have opened : opens bs t = some f' := by
        rw [← step]
        unfold next?
        split <;> simp_all
      exact opens_below_arguments brackets kind opened
  case name.name =>
    cases paren : t.kind == .leftParen with
    | true =>
      have opened := beq_iff_eq.mp paren
      rw [next?_callParen opened] at step
      cases step
      exact ⟨_, next?_callParen (kind ▸ opened), .cons (by simp [Bracket.Below]) brackets, trivial⟩
    | false =>
      rw [next?_behind rfl (by simpa using paren)] at step
      exact goesOn_below_name brackets kind step

/-- What one frontier passes over a higher one passes over too, whatever the values of the tokens. -/
theorem run_below {ts us : List Token} (kinds : ts.map Token.kind = us.map Token.kind)
    {f g f' : Frontier} (below : Below f g) (passed : f.run ts = some f') :
    ∃ g', g.run us = some g' ∧ Below f' g' := by
  induction ts generalizing us f g with
  | nil =>
    cases List.map_eq_nil_iff.mp kinds.symm
    cases passed
    exact ⟨g, rfl, below⟩
  | cons t ts ih =>
    obtain ⟨u, us, rfl, kind, kinds⟩ := List.map_eq_cons_iff.mp kinds.symm
    obtain ⟨h, step, later⟩ := Option.bind_eq_some_iff.mp passed
    obtain ⟨h', step', below⟩ := next?_below below kind.symm step
    obtain ⟨g', passed', related⟩ := ih kinds.symm below later
    exact ⟨g', (run_cons step').trans passed', related⟩

/-- A program may end exactly where its first expression could begin. -/
theorem start_below_iff {f : Frontier} : Below start f ↔ f.final = true := by
  cases f with | mk brackets phase =>
  constructor
  · rintro ⟨inner, low⟩
    cases List.forall₂_nil_left_iff.mp inner
    cases phase <;> simp_all [PhaseBelow, start, final]
  · intro final
    cases phase <;> simp_all [Frontier.final] <;> exact ⟨.nil, by simp [PhaseBelow, start]⟩

theorem start_below_start : Below start start := start_below_iff.mpr rfl

theorem run_expressions (parts : List (List Token))
    (readable : ∀ us ∈ parts, ∃ e, Reads (.expr (.chain .sum) e) us) {f : Frontier}
    (final : f.final = true) : ∃ g, f.run parts.flatten = some g ∧ g.final = true := by
  induction parts generalizing f with
  | nil => exact ⟨f, rfl, final⟩
  | cons us parts ih =>
    obtain ⟨e, read⟩ := readable us List.mem_cons_self
    -- The expression is read from the start, and every end of a program is above the start.
    obtain ⟨_, passed, rfl⟩ := read.run start rfl
    obtain ⟨g, passed', below⟩ := run_below rfl (start_below_iff.mpr final) passed
    have between : g.final = true := by
      have ended : Below start ⟨[], .behind e⟩ := by
        refine start_below_iff.mpr ?_
        unfold Phase.behind
        cases e.lastName? <;> rfl
      exact start_below_iff.mp (ended.trans below)
    obtain ⟨h, passedOthers, ended⟩ :=
      ih (fun vs member => readable vs (List.mem_cons_of_mem _ member)) between
    exact ⟨h, by rw [List.flatten_cons, run_trans passed', passedOthers], ended⟩

theorem close_all (brackets : List Bracket) {p : Phase} (read : (Frontier.mk brackets p).awaits = false) :
    ∃ more g, (Frontier.mk brackets p).run more = some g ∧ g.final = true := by
  induction brackets generalizing p with
  | nil => exact ⟨[], _, rfl, by cases p <;> simp_all [awaits, final]⟩
  | cons b outer ih =>
    have step := @next?_close ⟨_, p⟩ b outer ⟨.rightParen, [], none⟩ read rfl rfl
    obtain ⟨more, g, passed, ended⟩ := @ih .complete rfl
    exact ⟨_ :: more, g, (run_cons step).trans passed, ended⟩

theorem exists_completion (f : Frontier) : ∃ more g, f.run more = some g ∧ g.final = true := by
  -- An operand completes what awaits one, and then the brackets are closed.
  cases awaiting : f.awaits with
  | false => exact close_all f.brackets awaiting
  | true =>
    have step : f.next? ⟨.hexValue, [], none⟩ = some ⟨f.brackets, .complete⟩ :=
      next?_of_awaits awaiting rfl
    obtain ⟨more, g, passed, ended⟩ := @close_all f.brackets .complete rfl
    exact ⟨_ :: more, g, (run_cons step).trans passed, ended⟩

theorem scan_of_run {stop : Token} {f g : Frontier} {ts : List Token} (passed : f.run ts = some g)
    (ended : g.final = true) (converts : ∀ t ∈ ts, t.converts = true) :
    f.scan stop ts = .ok () := by
  have whole := @scan_append stop f g ts [] passed converts
  rw [List.append_nil] at whole
  rw [whole, scan, if_pos ended]

end Frontier

end StyleValue

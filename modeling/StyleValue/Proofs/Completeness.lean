import Mathlib.Data.List.Basic
import StyleValue.Proofs.Programs

/-! The other direction: a reading that cannot be longer is what the parser returns. A chain is read
from the left, so what is known of a chain inside a longer one is only that the parser goes on from
it. -/
namespace StyleValue

namespace Parser

variable {stop : Token}

/-- The result is a value read up to a token, with the rest behind it. -/
def Gives {α : Type} {input : List Token} (result : Result α input) (value : α) (last : Token)
    (rest : List Token) : Prop :=
  ∃ shorter, result = .ok ⟨value, last, rest, shorter⟩

/-- What the parser makes of the tokens of a primary expression, whatever comes behind them. -/
def CompletesPrimary (stop : Token) (e : Expr Located) (ts : List Token) : Prop :=
  ∀ last rest, ts.getLast? = some last → Stops .primary e rest →
    Gives (primary stop (ts ++ rest)) e last rest

/-- What the parser makes of the tokens of a phrase. Signs are all read before their operand. -/
def Completes (stop : Token) : Phrase → List Token → Prop
  | .expr .primary e, ts => CompletesPrimary stop e ts
  | .expr .unary e, ts => ∃ signs body operand, ts = signs ++ body ∧
      (∀ t ∈ signs, t.kind.isSign = true) ∧ Reads (.expr .primary operand) body ∧
      CompletesPrimary stop operand body ∧
      ∀ last, ts.getLast? = some last → e = signedBy signs last operand
  | .expr (.chain level) e, ts => ∀ last rest, ts.getLast? = some last →
      Stops level.operandRank e rest → ∃ shorter, chain stop level (ts ++ rest) =
        extend stop level ((ts ++ rest).headD stop) ⟨e, last, rest, shorter⟩
  | .arguments es, ts => ∀ callee close rest, close.kind = .rightParen →
      Gives (moreArguments stop callee (ts ++ close :: rest)) es close rest

theorem demand_reads {phrase : Phrase} {ts : List Token} (h : Reads phrase ts) (cause : Cause)
    (rest : List Token) : demand stop cause (ts ++ rest) = .ok () := by
  obtain ⟨t, us, rfl, starts⟩ := h.starts
  simp [demand, starts]

/-! ### Operands -/

theorem primary_unsigned {e : Expr Located} {ts : List Token} (h : Reads (.expr .primary e) ts)
    (rest : List Token) : ∀ t ∈ (ts ++ rest).head?, t.kind.isSign = false := by
  intro t member
  cases h <;> cases member <;> simp_all [TokenKind.isSign]

theorem signs_span {signs others : List Token} (signed : ∀ t ∈ signs, t.kind.isSign = true)
    (unsigned : ∀ t ∈ others.head?, t.kind.isSign = false) :
    (signs ++ others).takeWhile (·.kind.isSign) = signs ∧
      (signs ++ others).dropWhile (·.kind.isSign) = others := by
  rw [List.takeWhile_append_of_pos signed, List.dropWhile_append_of_pos signed]
  cases others with
  | nil => simp
  | cons t others => simp [unsigned t rfl]

theorem unary_gives {e : Expr Located} {ts rest : List Token} {last : Token}
    (h : Completes stop (.expr .unary e) ts) (ends : ts.getLast? = some last)
    (stops : Stops .unary e rest) : Gives (unary stop (ts ++ rest)) e last rest := by
  obtain ⟨signs, body, operand, rfl, signed, read, completes, same⟩ := h
  have value := same last ends
  subst value
  have unsigned := primary_unsigned read rest
  obtain ⟨taken, dropped⟩ := signs_span signed (primary_unsigned read rest)
  have bodyEnds : body.getLast? = some last := by
    obtain ⟨t, us, rfl, _⟩ := read.starts
    rwa [List.getLast?_append_cons] at ends
  have bodyStops : Stops .primary operand rest := by
    intro t member
    obtain ⟨_, plain⟩ := stops t member
    exact ⟨rfl, fun named => plain (signedBy_lastName? signs last operand ▸ named)⟩
  have parsed := completes last rest bodyEnds bodyStops
  rw [List.append_assoc, unary]
  simp only [taken]
  cases final : signs.getLast? with
  | none =>
    have empty := List.getLast?_eq_none_iff.mp final
    subst empty
    exact parsed
  | some sign =>
    have demanded : demand stop (.operand sign.value .unary) (body ++ rest) = .ok () :=
      demand_reads read _ rest
    rw [← dropped] at parsed demanded
    obtain ⟨shorter, parsed⟩ := parsed
    simp only [demanded, parsed]
    exact ⟨_, rfl⟩

/-! ### Chains -/

theorem chain_gives {level : Level} {e : Expr Located} {ts rest : List Token} {last : Token}
    (h : Completes stop (.expr (.chain level) e) ts) (ends : ts.getLast? = some last)
    (stops : Stops (.chain level) e rest) : Gives (chain stop level (ts ++ rest)) e last rest := by
  have operandStops : Stops level.operandRank e rest := by
    intro t member
    obtain ⟨nothing, plain⟩ := stops t member
    rw [takes_chain, Bool.or_eq_false_iff] at nothing
    exact ⟨nothing.2, plain⟩
  obtain ⟨shorter, extended⟩ := h last rest ends operandStops
  refine ⟨shorter, ?_⟩
  rw [extended, extend]
  cases rest with
  | nil => rfl
  | cons t rest =>
    have nothing := (stops t rfl).1
    rw [takes_chain, Bool.or_eq_false_iff] at nothing
    simp [nothing.1]

theorem operand_gives {level : Level} {e : Expr Located} {ts rest : List Token} {last : Token}
    (h : Completes stop (.expr level.operandRank e) ts) (ends : ts.getLast? = some last)
    (stops : Stops level.operandRank e rest) :
    Gives (operand stop level (ts ++ rest)) e last rest := by
  cases level with
  | sum =>
    rw [operand]
    exact chain_gives h ends stops
  | product =>
    rw [operand]
    exact unary_gives h ends stops

/-! ### Brackets -/

theorem stops_inside {e : Expr Located} {t : Token} {rest : List Token}
    (ends : t.kind = .rightParen ∨ t.kind = .comma) : Stops (.chain .sum) e (t :: rest) := by
  intro u member
  cases member
  rcases ends with kind | kind <;> simp [kind, Rank.takes, Level.joins, TokenKind.isSign]

theorem stops_operator {level : Level} {e : Expr Located} {op : Token} {rest : List Token}
    (joins : level.joins op.kind = true) : Stops level.operandRank e (op :: rest) := by
  intro u member
  cases member
  cases level <;> cases kind : op.kind <;>
    simp_all [Level.joins, TokenKind.isSign, Level.operandRank, Rank.takes]

theorem call_completes {t paren close : Token} {es : List (Expr Located)} {ts : List Token}
    (kind : t.kind = .identifier) (opens : paren.kind = .leftParen) (read : Reads (.arguments es) ts)
    (closes : close.kind = .rightParen) (inside : Completes stop (.arguments es) ts) :
    CompletesPrimary stop (.call ⟨t.value, t.span⟩ es (covered (t :: paren :: (ts ++ [close]))))
      (t :: paren :: (ts ++ [close])) := by
  intro last rest ends _
  have final : last = close := by simpa [List.getLast?_cons] using ends.symm
  subst final
  have span : covered (t :: paren :: (ts ++ [last])) = spanned t last :=
    covered_eq rfl (by simp [List.getLast?_cons])
  have filled : Gives (arguments stop t.value (ts ++ last :: rest)) es last rest := by
    obtain ⟨shorter, parsed⟩ := inside t.value last rest closes
    obtain ⟨u, us, rfl, starts⟩ := read.starts
    have open' : u.kind ≠ .rightParen := by
      intro same
      simp [same, TokenKind.startsExpression] at starts
    rw [arguments.eq_def]
    simp only [List.cons_append, open', if_false]
    exact ⟨shorter, parsed⟩
  obtain ⟨shorter, parsed⟩ := filled
  have same : t :: paren :: (ts ++ [last]) ++ rest = t :: paren :: (ts ++ last :: rest) := by simp
  rw [same, primary]
  simp only [kind, opens, if_true, parsed, span]
  exact ⟨_, rfl⟩

theorem sum_inside {e : Expr Located} {ts : List Token} {t : Token} (rest : List Token)
    (read : Reads (.expr (.chain .sum) e) ts) (completes : Completes stop (.expr (.chain .sum) e) ts)
    (ends : t.kind = .rightParen ∨ t.kind = .comma) :
    ∃ last, Gives (chain stop .sum (ts ++ t :: rest)) e last (t :: rest) := by
  obtain ⟨last, final⟩ := read.getLast?_eq
  exact ⟨last, chain_gives completes final (stops_inside ends)⟩

theorem group_completes {paren close : Token} {e : Expr Located} {ts : List Token}
    (opens : paren.kind = .leftParen) (read : Reads (.expr (.chain .sum) e) ts)
    (closes : close.kind = .rightParen) (inside : Completes stop (.expr (.chain .sum) e) ts) :
    CompletesPrimary stop (.group e (covered (paren :: (ts ++ [close]))))
      (paren :: (ts ++ [close])) := by
  intro last rest ends _
  have final : last = close := by simpa [List.getLast?_cons] using ends.symm
  subst final
  have span : covered (paren :: (ts ++ [last])) = spanned paren last :=
    covered_eq rfl (by simp [List.getLast?_cons])
  have same : paren :: (ts ++ [last]) ++ rest = paren :: (ts ++ last :: rest) := by simp
  obtain ⟨_, shorter, parsed⟩ := sum_inside rest read inside (.inl closes)
  have demanded : demand stop .groupBody (ts ++ last :: rest) = .ok () := demand_reads read _ _
  rw [same, primary]
  simp only [opens, demanded, parsed, closes, if_true, span]
  exact ⟨_, rfl⟩

theorem argument_completes {e : Expr Located} {ts : List Token}
    (read : Reads (.expr (.chain .sum) e) ts) (inside : Completes stop (.expr (.chain .sum) e) ts) :
    Completes stop (.arguments [e]) ts := by
  intro callee close rest closes
  obtain ⟨_, shorter, parsed⟩ := sum_inside rest read inside (.inl closes)
  have demanded : demand stop (.argument callee) (ts ++ close :: rest) = .ok () :=
    demand_reads read _ _
  rw [moreArguments]
  simp only [demanded, parsed, closes]
  exact ⟨_, rfl⟩

theorem arguments_complete {comma : Token} {e : Expr Located} {es : List (Expr Located)}
    {ts us : List Token} (first : Reads (.expr (.chain .sum) e) ts) (separates : comma.kind = .comma)
    (inside : Completes stop (.expr (.chain .sum) e) ts)
    (others : Completes stop (.arguments es) us) :
    Completes stop (.arguments (e :: es)) (ts ++ comma :: us) := by
  intro callee close rest closes
  obtain ⟨_, shorter, parsed⟩ := sum_inside (us ++ close :: rest) first inside (.inr separates)
  obtain ⟨_, later⟩ := others callee close rest closes
  have demanded : demand stop (.argument callee) (ts ++ comma :: (us ++ close :: rest)) = .ok () :=
    demand_reads first _ _
  have same : ts ++ comma :: us ++ close :: rest = ts ++ comma :: (us ++ close :: rest) := by simp
  rw [same, moreArguments]
  simp only [demanded, parsed, separates, later]
  exact ⟨_, rfl⟩

/-! ### Readings -/

theorem binary_completes {level : Level} {op : Token} {l r : Expr Located} {ts us : List Token}
    (left : Reads (.expr (.chain level) l) ts) (joins : level.joins op.kind = true)
    (right : Reads (.expr level.operandRank r) us)
    (first : Completes stop (.expr (.chain level) l) ts)
    (second : Completes stop (.expr level.operandRank r) us) :
    Completes stop (.expr (.chain level) (.binary op.value l r (covered (ts ++ op :: us))))
      (ts ++ op :: us) := by
  intro last rest ends stops
  obtain ⟨inner, innerEnds⟩ := left.getLast?_eq
  have rightEnds : us.getLast? = some last := by
    rwa [List.getLast?_append_cons, List.getLast?_cons_of_ne_nil right.ne_nil] at ends
  have demanded : demand stop (.operand op.value .binary) (us ++ rest) = .ok () :=
    demand_reads right _ rest
  -- The left operand is no result of the parser here: it goes on from there at the operator.
  obtain ⟨shorter, extended⟩ := first inner (op :: (us ++ rest)) innerEnds (stops_operator joins)
  obtain ⟨_, parsed⟩ := operand_gives second rightEnds stops
  have same : ts ++ op :: us ++ rest = ts ++ op :: (us ++ rest) := by simp
  have span : covered (ts ++ op :: us) = spanned ((ts ++ op :: (us ++ rest)).headD stop) last := by
    obtain ⟨t, more, rfl, _⟩ := left.starts
    exact covered_eq rfl ends
  have behind : rest.length < (op :: (us ++ rest)).length := by
    rw [List.length_cons, List.length_append]
    omega
  rw [same]
  refine ⟨Nat.lt_trans behind shorter, ?_⟩
  rw [extended, extend]
  simp only [joins, if_true, demanded, parsed, ← span]

theorem sign_completes {t : Token} {e : Expr Located} {ts : List Token} (sign : t.kind.isSign = true)
    (read : Reads (.expr .unary e) ts) (completes : Completes stop (.expr .unary e) ts) :
    Completes stop (.expr .unary (.unary t.value e (covered (t :: ts)))) (t :: ts) := by
  obtain ⟨signs, body, operand, rfl, signed, inner, primary, same⟩ := completes
  refine ⟨t :: signs, body, operand, rfl, List.forall_mem_cons.mpr ⟨sign, signed⟩, inner, primary,
    fun last ends => ?_⟩
  have span : covered (t :: (signs ++ body)) = spanned t last := covered_eq rfl ends
  have innerEnds : (signs ++ body).getLast? = some last := by
    rwa [List.getLast?_cons_of_ne_nil read.ne_nil] at ends
  rw [span, same last innerEnds]
  rfl

/-- The parser finds every reading that stops where the tokens do. -/
theorem completes_of_reads {phrase : Phrase} {ts : List Token} (h : Reads phrase ts) :
    Completes stop phrase ts := by
  induction h with
  | number kind digits =>
    intro last rest ends stops
    cases ends
    rw [List.singleton_append, primary]
    simp only [kind, numeral, digits]
    exact ⟨_, rfl⟩
  | percent kind digits =>
    intro last rest ends stops
    cases ends
    rw [List.singleton_append, primary]
    simp only [kind, numeral, digits]
    exact ⟨_, rfl⟩
  | hex kind =>
    intro last rest ends stops
    cases ends
    rw [List.singleton_append, primary]
    simp only [kind]
    exact ⟨_, rfl⟩
  | name kind =>
    intro last rest ends stops
    cases ends
    rw [List.singleton_append, primary]
    simp only [kind]
    cases rest with
    | nil => exact ⟨_, rfl⟩
    | cons t rest =>
      have plain := (stops t rfl).2 (by simp [Expr.lastName?])
      simp only [plain, if_false]
      exact ⟨_, rfl⟩
  | @emptyCall t paren close kind opens closes =>
    intro last rest ends stops
    cases ends
    have span : covered [t, paren, close] = spanned t close := rfl
    rw [List.cons_append, primary]
    simp only [kind, List.cons_append, opens, if_true, List.nil_append]
    rw [arguments.eq_def]
    simp only [closes, if_true, span]
    exact ⟨_, rfl⟩
  | call kind opens read closes ih => exact call_completes kind opens read closes ih
  | group opens read closes ih => exact group_completes opens read closes ih
  | primary read ih => exact ⟨[], _, _, rfl, by simp, read, ih, fun _ _ => rfl⟩
  | sign sign read ih => exact sign_completes sign read ih
  | operand _ ih =>
    intro last rest ends stops
    obtain ⟨shorter, parsed⟩ := operand_gives ih ends stops
    refine ⟨shorter, ?_⟩
    rw [chain, parsed]
  | binary left joins right ihLeft ihRight =>
    exact binary_completes left joins right ihLeft ihRight
  | argument read ih => exact argument_completes read ih
  | arguments first separates _ ihFirst ihOthers =>
    exact arguments_complete first separates ihFirst ihOthers

end Parser

namespace ReadsAll

variable {body : List (Statement Located)} {ts : List Token}

theorem statements_eq (h : ReadsAll body ts) (stop : Token) : Parser.statements stop ts = .ok body := by
  induction h with
  | nil => rw [Parser.statements]
  | @cons e ts us others read stops later ih =>
    obtain ⟨last, ends⟩ := read.getLast?_eq
    obtain ⟨t, rest, rfl, _⟩ := read.starts
    have sum : Parser.Gives (Parser.chain stop .sum (t :: (rest ++ us))) e last us :=
      Parser.chain_gives (Parser.completes_of_reads read) ends stops
    obtain ⟨shorter, parsed⟩ := sum
    have span : covered (t :: rest) = Parser.spanned t last := covered_eq rfl ends
    rw [List.cons_append, Parser.statements]
    simp only [parsed, ih, span]

/-- Tokens are read as statements in one way only. -/
theorem unique {body' : List (Statement Located)} (one : ReadsAll body ts)
    (other : ReadsAll body' ts) : body = body' := by
  have stop : Token := ⟨.endOfInput, [], none⟩
  exact Except.ok.inj ((one.statements_eq stop).symm.trans (other.statements_eq stop))

end ReadsAll

end StyleValue

import StyleValue.Expr.Parser
import StyleValue.Proofs.Grammar

/-! Trees and the tokens that they are read from. `Reads` relates the two directly, rank by rank, so it
fixes precedence and grouping; it does not run the parser. A tree spells its tokens in order, and its
tokens are derivable. -/
namespace StyleValue

/-- The digits of a literal: all of a number, and a percentage without its last character. -/
def Token.digits? (t : Token) : Option Text :=
  match t.kind with
  | .number => some t.value
  | .percent => some t.value.dropLast
  | _ => none

/-- Whether the digits of a token, if it has any, are a numeral within the limit. -/
def Token.converts (t : Token) : Bool := t.digits?.all fun digits => (Numeral.read? digits).isSome

theorem converts_of_kind {t : Token} (number : t.kind ≠ .number) (percent : t.kind ≠ .percent) :
    t.converts = true := by
  cases kind : t.kind <;> simp_all [Token.converts, Token.digits?]

theorem converts_of_joins {level : Level} {op : Token} (joins : level.joins op.kind = true) :
    op.converts = true := by
  apply converts_of_kind <;> intro same <;> cases level <;>
    simp [same, Level.joins, TokenKind.isSign] at joins

/-- From the start of the first of some tokens to the stop of the last. -/
def covered (ts : List Token) : Located :=
  Span.cover? (ts.head?.bind Token.span) (ts.getLast?.bind Token.span)

/-- The ranks of expressions, from operands to chains of operators. -/
inductive Rank where
  | primary
  | unary
  | chain (level : Level)
  deriving DecidableEq, Repr

/-- The rank of what the operators of a level join on their right. -/
def Level.operandRank : Level → Rank
  | .sum => .chain .product
  | .product => .unary

inductive Phrase where
  | expr (rank : Rank) (e : Expr Located)
  | arguments (es : List (Expr Located))

/-- What tokens a phrase is read from, all of them and in order. The note of each node covers its own
tokens. -/
inductive Reads : Phrase → List Token → Prop where
  | number {t : Token} {value : Int} : t.kind = .number → Numeral.read? t.value = some value →
      Reads (.expr .primary (.number value t.span)) [t]
  | percent {t : Token} {value : Int} : t.kind = .percent →
      Numeral.read? t.value.dropLast = some value →
      Reads (.expr .primary (.percent value t.span)) [t]
  | hex {t : Token} : t.kind = .hexValue → Reads (.expr .primary (.hex t.value t.span)) [t]
  | name {t : Token} : t.kind = .identifier →
      Reads (.expr .primary (.identifier ⟨t.value, t.span⟩)) [t]
  | emptyCall {t paren close : Token} : t.kind = .identifier → paren.kind = .leftParen →
      close.kind = .rightParen →
      Reads (.expr .primary (.call ⟨t.value, t.span⟩ [] (covered [t, paren, close])))
        [t, paren, close]
  | call {t paren close : Token} {es : List (Expr Located)} {ts : List Token} :
      t.kind = .identifier → paren.kind = .leftParen → Reads (.arguments es) ts →
      close.kind = .rightParen →
      Reads (.expr .primary (.call ⟨t.value, t.span⟩ es (covered (t :: paren :: (ts ++ [close])))))
        (t :: paren :: (ts ++ [close]))
  | group {paren close : Token} {e : Expr Located} {ts : List Token} : paren.kind = .leftParen →
      Reads (.expr (.chain .sum) e) ts → close.kind = .rightParen →
      Reads (.expr .primary (.group e (covered (paren :: (ts ++ [close])))))
        (paren :: (ts ++ [close]))
  | primary {e : Expr Located} {ts : List Token} :
      Reads (.expr .primary e) ts → Reads (.expr .unary e) ts
  | sign {t : Token} {e : Expr Located} {ts : List Token} : t.kind.isSign = true →
      Reads (.expr .unary e) ts → Reads (.expr .unary (.unary t.value e (covered (t :: ts)))) (t :: ts)
  | operand {level : Level} {e : Expr Located} {ts : List Token} :
      Reads (.expr level.operandRank e) ts → Reads (.expr (.chain level) e) ts
  | binary {level : Level} {op : Token} {l r : Expr Located} {ts us : List Token} :
      Reads (.expr (.chain level) l) ts → level.joins op.kind = true →
      Reads (.expr level.operandRank r) us →
      Reads (.expr (.chain level) (.binary op.value l r (covered (ts ++ op :: us)))) (ts ++ op :: us)
  | argument {e : Expr Located} {ts : List Token} :
      Reads (.expr (.chain .sum) e) ts → Reads (.arguments [e]) ts
  | arguments {comma : Token} {e : Expr Located} {es : List (Expr Located)} {ts us : List Token} :
      Reads (.expr (.chain .sum) e) ts → comma.kind = .comma → Reads (.arguments es) us →
      Reads (.arguments (e :: es)) (ts ++ comma :: us)

namespace Reads

theorem ne_nil {phrase : Phrase} {ts : List Token} (h : Reads phrase ts) : ts ≠ [] := by
  induction h with
  | primary _ ih | operand _ ih | argument _ ih => exact ih
  | _ => simp

theorem getLast?_eq {phrase : Phrase} {ts : List Token} (h : Reads phrase ts) :
    ∃ last, ts.getLast? = some last :=
  Option.isSome_iff_exists.mp (List.getLast?_isSome.mpr h.ne_nil)

theorem starts {phrase : Phrase} {ts : List Token} (h : Reads phrase ts) :
    ∃ t rest, ts = t :: rest ∧ t.kind.startsExpression = true := by
  induction h with
  | number kind | percent kind | hex kind | name kind | emptyCall kind | call kind | group kind =>
    exact ⟨_, _, rfl, by rw [kind]; rfl⟩
  | primary _ ih | operand _ ih | argument _ ih => exact ih
  | @sign t _ _ kind _ _ =>
    refine ⟨_, _, rfl, ?_⟩
    cases same : t.kind <;> simp_all [TokenKind.isSign, TokenKind.startsExpression]
  | binary _ _ _ ih | arguments _ _ _ ih =>
    obtain ⟨t, rest, rfl, starts⟩ := ih
    exact ⟨t, _, rfl, starts⟩

/-- A node's note covers the tokens that the node is read from. -/
theorem note_eq {rank : Rank} {e : Expr Located} {ts : List Token} (h : Reads (.expr rank e) ts) :
    e.note = covered ts := by
  generalize same : Phrase.expr rank e = phrase at h
  induction h generalizing rank with
  | primary _ ih | operand _ ih =>
    cases same
    exact ih rfl
  | argument | arguments => cases same
  | @number t | @percent t | @hex t | @name t =>
    cases same
    cases span : t.span <;> simp [Expr.note, covered, Span.cover?, span]
  | _ =>
    cases same
    rfl

theorem converts {phrase : Phrase} {ts : List Token} (h : Reads phrase ts) :
    ∀ t ∈ ts, t.converts = true := by
  induction h with
  | number kind digits | percent kind digits =>
    simp [Token.converts, Token.digits?, kind, digits]
  | hex kind | name kind => simp [Token.converts, Token.digits?, kind]
  | emptyCall kind opened closed => simp [Token.converts, Token.digits?, kind, opened, closed]
  | call kind opened _ closed ih =>
    simp only [List.forall_mem_cons, List.forall_mem_append]
    refine ⟨?_, ?_, ih, ?_, by simp⟩ <;> apply converts_of_kind <;> simp [kind, opened, closed]
  | group opened _ closed ih =>
    simp only [List.forall_mem_cons, List.forall_mem_append]
    refine ⟨?_, ih, ?_, by simp⟩ <;> apply converts_of_kind <;> simp [opened, closed]
  | primary _ ih | operand _ ih | argument _ ih => exact ih
  | sign kind _ ih => exact List.forall_mem_cons.mpr ⟨@converts_of_joins .sum _ kind, ih⟩
  | binary _ joins _ left right =>
    exact List.forall_mem_append.mpr
      ⟨left, List.forall_mem_cons.mpr ⟨converts_of_joins joins, right⟩⟩
  | @arguments comma e es ts us _ separates _ first others =>
    have converts : comma.converts = true :=
      converts_of_kind (by simp [separates]) (by simp [separates])
    exact List.forall_mem_append.mpr ⟨first, List.forall_mem_cons.mpr ⟨converts, others⟩⟩

end Reads

end StyleValue

import StyleValue.Token

/-! The grammar of value expressions as a table of productions over kinds of tokens. Nothing here runs
the parser: whether a list of kinds is derivable is settled by the table alone. -/
namespace StyleValue.Grammar

inductive Nonterminal where
  | expression
  | additive
  | multiplicative
  | unary
  | primary
  | arguments
  deriving DecidableEq, Repr

/-- The right-hand side of a production. A product is a sequence, a sum a choice. -/
inductive Pattern where
  /-- One token of one of the kinds. -/
  | oneOf (kinds : List TokenKind)
  | ref (n : Nonterminal)
  | seq (first second : Pattern)
  | alt (left right : Pattern)
  | opt (p : Pattern)
  | many (p : Pattern)
  deriving Repr

namespace Pattern

instance : Mul Pattern := ⟨seq⟩
instance : Add Pattern := ⟨alt⟩

def token (kind : TokenKind) : Pattern := oneOf [kind]

end Pattern

open Pattern

/-- The productions, from the loosest operators to the operands. -/
def production : Nonterminal → Pattern
  | .expression => ref .additive
  | .additive => ref .multiplicative * many (oneOf [.plus, .minus] * ref .multiplicative)
  | .multiplicative => ref .unary * many (oneOf [.slash, .operator] * ref .unary)
  | .unary => oneOf [.plus, .minus] * ref .unary + ref .primary
  | .primary =>
    oneOf [.number, .hexValue, .percent]
      + token .identifier * (token .leftParen * (opt (ref .arguments) * token .rightParen))
      + token .identifier
      + token .leftParen * (ref .expression * token .rightParen)
  | .arguments => ref .expression * many (token .comma * ref .expression)

/-- The lists of kinds that a pattern stands for. -/
inductive Derives : Pattern → List TokenKind → Prop where
  | oneOf {kinds : List TokenKind} {k : TokenKind} : k ∈ kinds → Derives (.oneOf kinds) [k]
  | ref {n : Nonterminal} {ks : List TokenKind} : Derives (production n) ks → Derives (.ref n) ks
  | seq {p q : Pattern} {ks ls : List TokenKind} :
      Derives p ks → Derives q ls → Derives (.seq p q) (ks ++ ls)
  | left {p q : Pattern} {ks : List TokenKind} : Derives p ks → Derives (.alt p q) ks
  | right {p q : Pattern} {ks : List TokenKind} : Derives q ks → Derives (.alt p q) ks
  | none {p : Pattern} : Derives (.opt p) []
  | some {p : Pattern} {ks : List TokenKind} : Derives p ks → Derives (.opt p) ks
  | stop {p : Pattern} : Derives (.many p) []
  | more {p : Pattern} {ks ls : List TokenKind} :
      Derives p ks → Derives (.many p) ls → Derives (.many p) (ks ++ ls)

/-- A program is a list of expressions, with nothing between them. -/
def Sentence (ks : List TokenKind) : Prop := Derives (many (ref .expression)) ks

/-- A list that further tokens can complete to a program. -/
def Viable (ks : List TokenKind) : Prop := ∃ more, Sentence (ks ++ more)

theorem Viable.of_append {ks ls : List TokenKind} (h : Viable (ks ++ ls)) : Viable ks := by
  obtain ⟨more, derived⟩ := h
  exact ⟨ls ++ more, by simpa only [List.append_assoc] using derived⟩

namespace Derives

theorem single {p : Pattern} {ks : List TokenKind} (h : Derives p ks) : Derives (.many p) ks := by
  simpa only [List.append_nil] using h.more .stop

/-- A repetition grows at its end as well as at its front. -/
theorem snoc {p : Pattern} {ks ls : List TokenKind} (init : Derives (.many p) ks)
    (last : Derives p ls) : Derives (.many p) (ks ++ ls) := by
  generalize same : Pattern.many p = q at init
  induction init with
  | stop =>
    cases same
    simpa only [List.nil_append] using last.single
  | more first _ _ ih =>
    cases same
    rw [List.append_assoc]
    exact first.more (ih rfl)
  | _ => cases same

theorem token {k : TokenKind} : Derives (Pattern.token k) [k] := .oneOf (List.mem_singleton.mpr rfl)

end Derives

end StyleValue.Grammar

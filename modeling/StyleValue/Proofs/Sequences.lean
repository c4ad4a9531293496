import StyleValue.Proofs.Reparse

/-! Programs one behind another. Their statements stay apart unless the last of the first program takes
the first of the second, and then exactly these two become one. -/
namespace StyleValue

/-- Whether the token `next` could begin an expression but goes on with the one that ends with
`last`. -/
def TokenKind.fuses (last next : TokenKind) : Bool :=
  next.isSign || (next = .leftParen && last = .identifier)

theorem reads_of_parse {merge : Bool} {source : Text} {p : Program Located}
    (parsed : parse ⟨merge, false⟩ source = .ok p) :
    ReadsAll p.body (withoutLayout (tokenize ⟨merge, false⟩ source)) :=
  (parse_reads parsed).1

theorem parse_of_reads {merge : Bool} {source : Text} {body : List (Statement Located)}
    (read : ReadsAll body (withoutLayout (tokenize ⟨merge, false⟩ source))) :
    ∃ p, parse ⟨merge, false⟩ source = .ok p ∧ p.body = body := by
  rw [parse_plain]
  exact read.program_eq _

/-! ### The end of an expression -/

theorem Reads.last_cons {phrase : Phrase} {ts : List Token} {t : Token} (h : Reads phrase ts)
    (op : Token) (last : t ∈ (op :: ts).getLast?) : t ∈ ts.getLast? := by
  rwa [List.getLast?_cons_of_ne_nil h.ne_nil] at last

theorem Reads.last_append {phrase : Phrase} {us : List Token} {t : Token} (h : Reads phrase us)
    (ts : List Token) (last : t ∈ (ts ++ us).getLast?) : t ∈ us.getLast? := by
  obtain ⟨u, ends⟩ := h.getLast?_eq
  rw [List.getLast?_append, ends] at last
  rw [ends]
  exact last

theorem Reads.lastName?_iff {rank : Rank} {e : Expr Located} {ts : List Token} {t : Token}
    (h : Reads (.expr rank e) ts) (last : t ∈ ts.getLast?) :
    e.lastName? ≠ none ↔ t.kind = .identifier := by
  generalize same : Phrase.expr rank e = phrase at h
  induction h generalizing rank e with
  | number kind | percent kind | hex kind | name kind =>
    cases same
    cases last
    simp [Expr.lastName?, kind]
  | emptyCall _ _ closes =>
    cases same
    cases last
    simp [Expr.lastName?, closes]
  | call _ _ _ closes | group _ _ closes =>
    cases same
    simp only [← List.cons_append, List.getLast?_concat] at last
    cases last
    simp [Expr.lastName?, closes]
  | primary _ ih | operand _ ih =>
    cases same
    exact ih last rfl
  | sign _ read ih =>
    cases same
    have inner := ih (read.last_cons _ last) rfl
    exact inner
  | @binary _ op _ _ ts _ _ _ right _ ih =>
    cases same
    rw [List.append_cons] at last
    have inner := ih (right.last_append _ last) rfl
    exact inner
  | argument | arguments => cases same

/-- An expression ends in front of a token that begins another one, unless the two fuse. -/
theorem Reads.stops {e : Expr Located} {ts rest : List Token} {t : Token}
    (h : Reads (.expr (.chain .sum) e) ts) (last : t ∈ ts.getLast?)
    (seam : ∀ u ∈ rest.head?, u.kind.startsExpression = true ∧ t.kind.fuses u.kind = false) :
    Stops (.chain .sum) e rest := by
  intro u next
  obtain ⟨starts, apart⟩ := seam u next
  simp only [TokenKind.fuses, Bool.or_eq_false_iff] at apart
  refine ⟨?_, fun named paren => ?_⟩
  · cases kind : u.kind <;>
      simp_all [Rank.takes, Level.joins, TokenKind.isSign, TokenKind.startsExpression]
  · simp [paren, (h.lastName?_iff last).mp named] at apart

theorem Stops.of_lastName? {rank : Rank} {e f : Expr Located} {rest : List Token}
    (h : Stops rank e rest) (names : f.lastName? ≠ none → e.lastName? ≠ none) : Stops rank f rest :=
  fun t next => ⟨(h t next).1, fun named => (h t next).2 (names named)⟩

/-! ### Statements side by side -/

namespace ReadsAll

variable {body body' : List (Statement Located)} {ts us : List Token}

theorem starts (h : ReadsAll body ts) : ∀ t ∈ ts.head?, t.kind.startsExpression = true := by
  cases h with
  | nil => simp
  | cons read =>
    obtain ⟨t, rest, rfl, starts⟩ := read.starts
    intro u first
    cases first
    exact starts

theorem append (one : ReadsAll body ts) (other : ReadsAll body' us)
    (seam : ∀ t ∈ ts.getLast?, ∀ u ∈ us.head?, t.kind.fuses u.kind = false) :
    ReadsAll (body ++ body') (ts ++ us) := by
  induction one with
  | nil => exact other
  | @cons e ts rest others read stops later ih =>
    have behind := ih fun t last => seam t (List.mem_getLast?_append_of_mem_getLast? last)
    rw [List.append_assoc]
    refine .cons read ?_ behind
    cases rest with
    | cons t rest => exact stops
    | nil =>
      obtain ⟨t, last⟩ := read.getLast?_eq
      rw [List.append_nil] at seam
      exact read.stops last fun u next => ⟨other.starts u next, seam t last u next⟩

end ReadsAll

/-! ### Fused statements -/

namespace Reads

theorem unsign {e : Expr Located} {ts : List Token} {t : Token} (h : Reads (.expr .unary e) ts)
    (first : t ∈ ts.head?) (sign : t.kind.isSign = true) : ∃ f, Reads (.expr .unary f) ts.tail := by
  cases h with
  | primary read =>
    have unsigned := Parser.primary_unsigned read [] t (by simpa using first)
    simp [sign] at unsigned
  | sign _ read => exact ⟨_, read⟩

theorem unsign_product {e : Expr Located} {ts : List Token} {t : Token}
    (h : Reads (.expr (.chain .product) e) ts) (first : t ∈ ts.head?) (sign : t.kind.isSign = true) :
    ∃ f, Reads (.expr (.chain .product) f) ts.tail := by
  generalize same : Phrase.expr (.chain .product) e = phrase at h
  induction h generalizing e with
  | operand read =>
    cases same
    obtain ⟨f, unsigned⟩ := unsign read first sign
    exact ⟨f, @operand .product _ _ unsigned⟩
  | binary left joins right ih =>
    cases same
    rw [List.head?_append_of_ne_nil _ left.ne_nil] at first
    obtain ⟨f, unsigned⟩ := ih first rfl
    rw [List.tail_append_of_ne_nil left.ne_nil]
    exact ⟨_, unsigned.binary joins right⟩
  | _ => cases same

theorem fuse_sign {l e : Expr Located} {ts us : List Token} {u : Token}
    (left : Reads (.expr (.chain .sum) l) ts) (right : Reads (.expr (.chain .sum) e) us)
    (first : u ∈ us.head?) (sign : u.kind.isSign = true) :
    ∃ f, Reads (.expr (.chain .sum) f) (ts ++ us) := by
  generalize same : Phrase.expr (.chain .sum) e = phrase at right
  induction right generalizing e with
  | operand read =>
    cases same
    -- The first sign of the right expression becomes the operator between the two.
    obtain ⟨rest, rfl⟩ := List.head?_eq_some_iff.mp first
    obtain ⟨f, unsigned⟩ := unsign_product read first sign
    exact ⟨_, @binary .sum _ _ _ _ _ left sign unsigned⟩
  | binary inner joins outer ih =>
    cases same
    rw [List.head?_append_of_ne_nil _ inner.ne_nil] at first
    obtain ⟨f, fused⟩ := ih first rfl
    rw [← List.append_assoc]
    exact ⟨_, fused.binary joins outer⟩
  | _ => cases same

/-- A bracket behind a name makes a call of two expressions of the rank. -/
def FusesAt (rank : Rank) : Prop := ∀ {l e : Expr Located} {ts us : List Token} {t u : Token},
  Reads (.expr rank l) ts → t ∈ ts.getLast? → t.kind = .identifier → Reads (.expr rank e) us →
    u ∈ us.head? → u.kind = .leftParen → ∃ f, Reads (.expr rank f) (ts ++ us)

theorem fuse_primary : FusesAt .primary := by
  intro l e ts us t u left last kind right first paren
  cases left with
  | number other | percent other | hex other =>
    cases last
    cases kind.symm.trans other
  | emptyCall _ _ closes =>
    cases last
    cases kind.symm.trans closes
  | call _ _ _ closes | group _ _ closes =>
    simp only [← List.cons_append, List.getLast?_concat] at last
    cases last
    simp [kind] at closes
  | name =>
    cases last
    cases right with
    | group opens inside closes => exact ⟨_, .call kind opens inside.argument closes⟩
    | number other | percent other | hex other | name other | emptyCall other | call other =>
      cases first
      simp [paren] at other

theorem fuse_unary : FusesAt .unary := by
  intro l e ts us t u left last kind right first paren
  have operand : ∃ e, Reads (.expr .primary e) us := by
    cases right with
    | primary read => exact ⟨_, read⟩
    | sign sign =>
      cases first
      simp [paren, TokenKind.isSign] at sign
  obtain ⟨e, operand⟩ := operand
  generalize same : Phrase.expr .unary l = phrase at left
  induction left generalizing l with
  | primary read =>
    cases same
    obtain ⟨f, fused⟩ := fuse_primary read last kind operand first paren
    exact ⟨f, fused.primary⟩
  | sign sign read ih =>
    cases same
    obtain ⟨f, fused⟩ := ih (read.last_cons _ last) rfl
    exact ⟨_, fused.sign sign⟩
  | _ => cases same

/-- The call is made where the operands meet: the last one of the left chain and the first one of the
right chain. -/
theorem fuse_chain {level : Level} (fuses : FusesAt level.operandRank) : FusesAt (.chain level) := by
  intro l e ts us t u left last kind right first paren
  generalize same : Phrase.expr (.chain level) e = phrase at right
  induction right generalizing e with
  | operand read =>
    cases same
    cases left with
    | operand before =>
      obtain ⟨f, fused⟩ := fuses before last kind read first paren
      exact ⟨f, fused.operand⟩
    | @binary _ op _ _ ts _ before joins middle =>
      rw [List.append_cons] at last
      obtain ⟨f, fused⟩ := fuses middle (middle.last_append _ last) kind read first paren
      rw [List.append_assoc, List.cons_append]
      exact ⟨_, before.binary joins fused⟩
  | binary inner joins outer ih =>
    cases same
    rw [List.head?_append_of_ne_nil _ inner.ne_nil] at first
    obtain ⟨f, fused⟩ := ih first rfl
    rw [← List.append_assoc]
    exact ⟨_, fused.binary joins outer⟩
  | _ => cases same

theorem fuse {l e : Expr Located} {ts us : List Token} {t u : Token}
    (left : Reads (.expr (.chain .sum) l) ts) (last : t ∈ ts.getLast?)
    (right : Reads (.expr (.chain .sum) e) us) (first : u ∈ us.head?)
    (fuses : t.kind.fuses u.kind = true) : ∃ f, Reads (.expr (.chain .sum) f) (ts ++ us) := by
  rcases Bool.or_eq_true_iff.mp fuses with sign | call
  · exact fuse_sign left right first sign
  · obtain ⟨paren, kind⟩ := Bool.and_eq_true_iff.mp call
    exact @fuse_chain .sum (@fuse_chain .product fuse_unary) _ _ _ _ _ _ left last
      (of_decide_eq_true kind) right first (of_decide_eq_true paren)

end Reads

namespace ReadsAll

variable {body body' : List (Statement Located)} {ts us : List Token}

/-- Where two programs fuse, one statement of each is lost in one of both. -/
theorem fuse (one : ReadsAll body ts) (other : ReadsAll body' us) {t u : Token}
    (last : t ∈ ts.getLast?) (first : u ∈ us.head?) (fuses : t.kind.fuses u.kind = true) :
    ∃ whole, ReadsAll whole (ts ++ us) ∧ whole.length + 1 = body.length + body'.length := by
  induction one with
  | nil => cases last
  | @cons e ts rest others read stops later ih =>
    rw [List.append_assoc]
    cases later with
    | @cons _ front back _ next =>
      -- Another statement stands between this one and the seam, so this one stays as it is.
      have filled : front ++ back ≠ [] := by simp [next.ne_nil]
      rw [List.getLast?_append_of_ne_nil _ filled] at last
      obtain ⟨whole, behind, lengths⟩ := ih last
      have still : Stops (.chain .sum) e (front ++ back ++ us) := by
        intro v head
        exact stops v (by rwa [List.head?_append_of_ne_nil _ filled] at head)
      refine ⟨_, .cons read still behind, ?_⟩
      simp only [List.length_cons] at lengths ⊢
      omega
    | nil =>
      cases other with
      | nil => cases first
      | @cons e' front back others' read' stops' later' =>
        rw [List.append_nil] at last
        rw [List.head?_append_of_ne_nil _ read'.ne_nil] at first
        obtain ⟨f, fused⟩ := read.fuse last read' first fuses
        -- What fuses ends with the last token of the right statement, and so it stops where that did.
        obtain ⟨v, ends⟩ := read'.getLast?_eq
        have wholeEnds : v ∈ (ts ++ front).getLast? := by
          rw [List.getLast?_append_of_ne_nil _ read'.ne_nil, ends]
          exact rfl
        have still : Stops (.chain .sum) f back := stops'.of_lastName? fun named =>
          (read'.lastName?_iff ends).mpr ((fused.lastName?_iff wholeEnds).mp named)
        rw [List.nil_append, ← List.append_assoc]
        refine ⟨_, .cons fused still later', ?_⟩
        simp only [List.length_cons, List.length_nil]
        omega

end ReadsAll

end StyleValue

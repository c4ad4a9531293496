import StyleValue.Proofs.Reading

/-! Reading and deriving are the same thing: what some tree is read from is derivable, and derivable
tokens whose literals convert are read as some tree. -/
namespace StyleValue

open Grammar

def Level.nonterminal : Level → Nonterminal
  | .sum => .additive
  | .product => .multiplicative

def Rank.nonterminal : Rank → Nonterminal
  | .primary => .primary
  | .unary => .unary
  | .chain level => level.nonterminal

def Phrase.nonterminal : Phrase → Nonterminal
  | .expr rank _ => rank.nonterminal
  | .arguments _ => .arguments

theorem derives_binary {level : Level} {ks ls : List TokenKind} {k : TokenKind}
    (left : Derives (.ref level.nonterminal) ks) (joins : level.joins k = true)
    (right : Derives (.ref level.operandRank.nonterminal) ls) :
    Derives (.ref level.nonterminal) (ks ++ k :: ls) := by
  cases level with
  | sum =>
    cases left with | ref body =>
    cases body with | seq first others =>
    have op : k ∈ [TokenKind.plus, .minus] := by
      cases k <;> simp_all [Level.joins, TokenKind.isSign]
    rw [List.append_assoc]
    exact .ref (.seq first (others.snoc (.seq (.oneOf op) right)))
  | product =>
    cases left with | ref body =>
    cases body with | seq first others =>
    have op : k ∈ [TokenKind.slash, .operator] := by
      cases k <;> simp_all [Level.joins]
    rw [List.append_assoc]
    exact .ref (.seq first (others.snoc (.seq (.oneOf op) right)))

theorem derives_operand {level : Level} {ks : List TokenKind}
    (operand : Derives (.ref level.operandRank.nonterminal) ks) :
    Derives (.ref level.nonterminal) ks := by
  have whole : Derives (.ref level.nonterminal) (ks ++ []) := by
    cases level <;> exact .ref (.seq operand .stop)
  simpa only [List.append_nil] using whole

theorem derives_arguments {ks ls : List TokenKind}
    (first : Derives (.ref .additive) ks) (others : Derives (.ref .arguments) ls) :
    Derives (.ref .arguments) (ks ++ .comma :: ls) := by
  cases others with | ref body =>
  cases body with | seq second more =>
  exact .ref (.seq (.ref first) (.more (.seq .token second) more))

/-- What a phrase is read from is derivable from the nonterminal of its rank. -/
theorem Reads.derives {phrase : Phrase} {ts : List Token} (h : Reads phrase ts) :
    Derives (.ref phrase.nonterminal) (ts.map Token.kind) := by
  induction h with
  | number kind | percent kind | hex kind =>
    rw [List.map_singleton, kind]
    exact .ref (.left (.left (.left (.oneOf (by decide)))))
  | name kind =>
    rw [List.map_singleton, kind]
    exact .ref (.left (.right .token))
  | emptyCall kind opened closed =>
    simp only [List.map_cons, List.map_nil, kind, opened, closed]
    exact .ref (.left (.left (.right (.seq .token (.seq .token (.seq .none .token))))))
  | call kind opened _ closed ih =>
    simp only [List.map_cons, List.map_append, List.map_nil, kind, opened, closed]
    exact .ref (.left (.left (.right (.seq .token (.seq .token (.seq (.some ih) .token))))))
  | group opened _ closed ih =>
    simp only [List.map_cons, List.map_append, List.map_nil, opened, closed]
    exact .ref (.right (.seq .token (.seq (.ref ih) .token)))
  | primary _ ih => exact .ref (.right ih)
  | @sign t _ _ kind _ ih =>
    have op : t.kind ∈ [TokenKind.plus, .minus] := by
      cases same : t.kind <;> simp_all [TokenKind.isSign]
    exact .ref (.left (.seq (.oneOf op) ih))
  | operand _ ih => exact derives_operand ih
  | binary _ joins _ left right =>
    rw [List.map_append, List.map_cons]
    exact derives_binary left joins right
  | argument _ ih =>
    rw [← List.append_nil (List.map _ _)]
    exact .ref (.seq (.ref ih) .stop)
  | arguments _ comma _ first others =>
    rw [List.map_append, List.map_cons, comma]
    exact derives_arguments first others

/-- Whether some tree of the nonterminal is read from the tokens. -/
def Readable : Nonterminal → List Token → Prop
  | .expression, ts | .additive, ts => ∃ e, Reads (.expr (.chain .sum) e) ts
  | .multiplicative, ts => ∃ e, Reads (.expr (.chain .product) e) ts
  | .unary, ts => ∃ e, Reads (.expr .unary e) ts
  | .primary, ts => ∃ e, Reads (.expr .primary e) ts
  | .arguments, ts => ∃ es, Reads (.arguments es) ts

/-- How the tokens of a derivation divide among the parts of its pattern, each of them readable. -/
def Divides : Pattern → List Token → Prop
  | .oneOf kinds, ts => ∃ t : Token, t.kind ∈ kinds ∧ t.converts = true ∧ ts = [t]
  | .ref n, ts => Readable n ts
  | .seq p q, ts => ∃ us vs, Divides p us ∧ Divides q vs ∧ ts = us ++ vs
  | .alt p q, ts => Divides p ts ∨ Divides q ts
  | .opt p, ts => ts = [] ∨ Divides p ts
  | .many p, ts => ∃ parts : List (List Token), (∀ us ∈ parts, Divides p us) ∧ ts = parts.flatten

theorem readable_chain {level : Level} (parts : List (List Token)) {e : Expr Located}
    {ts : List Token} (first : Reads (.expr (.chain level) e) ts)
    (others : ∀ us ∈ parts, ∃ op vs r, level.joins op.kind = true ∧
      Reads (.expr level.operandRank r) vs ∧ us = op :: vs) :
    ∃ e, Reads (.expr (.chain level) e) (ts ++ parts.flatten) := by
  -- Trees lean to the left, so the chain that is read grows with every part.
  induction parts generalizing e ts with
  | nil => exact ⟨e, by simpa using first⟩
  | cons us parts ih =>
    obtain ⟨op, vs, r, joins, operand, rfl⟩ := others us List.mem_cons_self
    obtain ⟨whole, read⟩ := ih (first.binary joins operand)
      (fun us member => others us (List.mem_cons_of_mem _ member))
    exact ⟨whole, by simpa using read⟩

theorem readable_arguments (parts : List (List Token)) {e : Expr Located} {ts : List Token}
    (first : Reads (.expr (.chain .sum) e) ts)
    (others : ∀ us ∈ parts, ∃ comma vs r, comma.kind = .comma ∧
      Reads (.expr (.chain .sum) r) vs ∧ us = comma :: vs) :
    ∃ es, Reads (.arguments es) (ts ++ parts.flatten) := by
  induction parts generalizing e ts with
  | nil => exact ⟨[e], by simpa using first.argument⟩
  | cons us parts ih =>
    obtain ⟨comma, vs, r, kind, second, rfl⟩ := others us List.mem_cons_self
    obtain ⟨es, read⟩ := ih second (fun us member => others us (List.mem_cons_of_mem _ member))
    exact ⟨e :: es, by simpa using Reads.arguments first kind read⟩

theorem divides_literal {ts : List Token} (h : Divides (.oneOf [.number, .hexValue, .percent]) ts) :
    Readable .primary ts := by
  obtain ⟨t, kind, converts, rfl⟩ := h
  simp only [List.mem_cons, List.not_mem_nil, or_false] at kind
  rcases kind with kind | kind | kind
  · simp only [Token.converts, Token.digits?, kind, Option.all_some, Option.isSome_iff_exists] at converts
    obtain ⟨value, digits⟩ := converts
    exact ⟨_, .number kind digits⟩
  · exact ⟨_, .hex kind⟩
  · simp only [Token.converts, Token.digits?, kind, Option.all_some, Option.isSome_iff_exists] at converts
    obtain ⟨value, digits⟩ := converts
    exact ⟨_, .percent kind digits⟩

theorem divides_token {k : TokenKind} {ts : List Token} (h : Divides (Pattern.token k) ts) :
    ∃ t : Token, t.kind = k ∧ ts = [t] := by
  obtain ⟨t, kind, _, rfl⟩ := h
  exact ⟨t, List.mem_singleton.mp kind, rfl⟩

theorem divides_primary {ts : List Token} (h : Divides (production .primary) ts) :
    Readable .primary ts := by
  rcases h with ((literal | call) | name) | group
  · exact divides_literal literal
  · obtain ⟨_, _, name, ⟨_, _, opened, ⟨_, _, inner, closed, rfl⟩, rfl⟩, rfl⟩ := call
    obtain ⟨t, kind, rfl⟩ := divides_token name
    obtain ⟨paren, opens, rfl⟩ := divides_token opened
    obtain ⟨close, closes, rfl⟩ := divides_token closed
    rcases inner with rfl | ⟨es, arguments⟩
    · exact ⟨_, .emptyCall kind opens closes⟩
    · exact ⟨_, .call kind opens arguments closes⟩
  · obtain ⟨t, kind, rfl⟩ := divides_token name
    exact ⟨_, .name kind⟩
  · obtain ⟨_, _, opened, ⟨_, _, ⟨e, inner⟩, closed, rfl⟩, rfl⟩ := group
    obtain ⟨paren, opens, rfl⟩ := divides_token opened
    obtain ⟨close, closes, rfl⟩ := divides_token closed
    exact ⟨_, .group opens inner closes⟩

theorem readable_of_divides {n : Nonterminal} {ts : List Token} (h : Divides (production n) ts) :
    Readable n ts := by
  cases n with
  | expression => exact h
  | additive =>
    obtain ⟨us, _, ⟨e, first⟩, ⟨parts, others, rfl⟩, rfl⟩ := h
    refine readable_chain parts (@Reads.operand .sum _ _ first) fun us member => ?_
    obtain ⟨_, vs, ⟨op, kind, _, rfl⟩, ⟨r, operand⟩, rfl⟩ := others us member
    refine ⟨op, vs, r, ?_, operand, rfl⟩
    simp only [List.mem_cons, List.not_mem_nil, or_false] at kind
    rcases kind with kind | kind <;> rw [kind] <;> rfl
  | multiplicative =>
    obtain ⟨us, _, ⟨e, first⟩, ⟨parts, others, rfl⟩, rfl⟩ := h
    refine readable_chain parts (@Reads.operand .product _ _ first) fun us member => ?_
    obtain ⟨_, vs, ⟨op, kind, _, rfl⟩, ⟨r, operand⟩, rfl⟩ := others us member
    refine ⟨op, vs, r, ?_, operand, rfl⟩
    simp only [List.mem_cons, List.not_mem_nil, or_false] at kind
    rcases kind with kind | kind <;> rw [kind] <;> rfl
  | unary =>
    rcases h with ⟨_, vs, ⟨t, kind, _, rfl⟩, ⟨e, operand⟩, rfl⟩ | ⟨e, operand⟩
    · refine ⟨_, .sign (t := t) ?_ operand⟩
      simp only [List.mem_cons, List.not_mem_nil, or_false] at kind
      rcases kind with kind | kind <;> rw [kind] <;> rfl
    · exact ⟨e, .primary operand⟩
  | primary => exact divides_primary h
  | arguments =>
    obtain ⟨us, _, ⟨e, first⟩, ⟨parts, others, rfl⟩, rfl⟩ := h
    refine readable_arguments parts first fun us member => ?_
    obtain ⟨_, vs, separator, ⟨r, second⟩, rfl⟩ := others us member
    obtain ⟨comma, kind, rfl⟩ := divides_token separator
    exact ⟨comma, vs, r, kind, second, rfl⟩

theorem divides_of_derives {p : Pattern} {ks : List TokenKind} (h : Derives p ks) :
    ∀ ts : List Token, ts.map Token.kind = ks → (∀ t ∈ ts, t.converts = true) → Divides p ts := by
  induction h with
  | oneOf member =>
    intro ts kinds converts
    obtain ⟨t, rfl, rfl⟩ := List.map_eq_singleton_iff.mp kinds
    exact ⟨t, member, converts t List.mem_cons_self, rfl⟩
  | ref _ ih => exact fun ts kinds converts => readable_of_divides (ih ts kinds converts)
  | seq _ _ ihFirst ihSecond =>
    intro ts kinds converts
    obtain ⟨us, vs, rfl, rfl, rfl⟩ := List.map_eq_append_iff.mp kinds
    exact ⟨us, vs, ihFirst us rfl fun t member => converts t (List.mem_append_left _ member),
      ihSecond vs rfl fun t member => converts t (List.mem_append_right _ member), rfl⟩
  | left _ ih => exact fun ts kinds converts => .inl (ih ts kinds converts)
  | right _ ih => exact fun ts kinds converts => .inr (ih ts kinds converts)
  | none => exact fun ts kinds _ => .inl (List.map_eq_nil_iff.mp kinds)
  | some _ ih => exact fun ts kinds converts => .inr (ih ts kinds converts)
  | stop => exact fun ts kinds _ => ⟨[], by simp, List.map_eq_nil_iff.mp kinds⟩
  | more _ _ ihFirst ihOthers =>
    intro ts kinds converts
    obtain ⟨us, vs, rfl, rfl, rfl⟩ := List.map_eq_append_iff.mp kinds
    have first := ihFirst us rfl fun t member => converts t (List.mem_append_left _ member)
    obtain ⟨parts, others, rfl⟩ :=
      ihOthers vs rfl fun t member => converts t (List.mem_append_right _ member)
    exact ⟨us :: parts, List.forall_mem_cons.mpr ⟨first, others⟩, rfl⟩

/-- Derivable tokens divide into expressions, if all their literals convert. -/
theorem expressions_of_sentence {ts : List Token} (derived : Sentence (ts.map Token.kind))
    (converts : ∀ t ∈ ts, t.converts = true) :
    ∃ parts : List (List Token), (∀ us ∈ parts, ∃ e, Reads (.expr (.chain .sum) e) us) ∧
      ts = parts.flatten :=
  divides_of_derives derived ts rfl converts

end StyleValue

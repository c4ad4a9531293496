import StyleValue.Proofs.Frontier

/-! The parser, function by function. What it returns is a reading of the tokens that it took; where it
fails, the frontier is refused the same token for the same cause. Each function has one lemma, which
takes what it needs of the functions that it calls as hypotheses; a single induction on the number of
tokens then joins them. -/
namespace StyleValue

/-- Whether an expression of the rank goes on with a token of the kind behind it. -/
def Rank.takes : Rank → TokenKind → Bool
  | .primary, _ | .unary, _ => false
  | .chain .product, k => Level.product.joins k
  | .chain .sum, k => Level.sum.joins k || Level.product.joins k

/-- The expression ends in front of `rest`: nothing there goes on with it, and no bracket makes its
last name a callee. -/
def Stops (rank : Rank) (e : Expr Located) (rest : List Token) : Prop :=
  ∀ t ∈ rest.head?, rank.takes t.kind = false ∧ (e.lastName? ≠ none → t.kind ≠ .leftParen)

/-- Whether an expression of the rank can begin here. A primary one has no sign. -/
def Begins (rank : Rank) (input : List Token) : Prop :=
  ∃ t rest, input = t :: rest ∧ t.kind.startsExpression = true ∧
    (rank = .primary → t.kind.isSign = false)

theorem stops_nil (rank : Rank) (e : Expr Located) : Stops rank e [] := by
  intro t member
  cases member

theorem takes_chain (level : Level) (k : TokenKind) :
    (Rank.chain level).takes k = (level.joins k || level.operandRank.takes k) := by
  cases level <;> simp [Rank.takes, Level.operandRank]

theorem covered_eq {first last : Token} {ts : List Token} (starts : ts.head? = some first)
    (ends : ts.getLast? = some last) : covered ts = Parser.spanned first last := by
  simp [covered, Parser.spanned, starts, ends]

namespace Frontier

theorem next?_stops {brackets : List Bracket} {rank : Rank} {e : Expr Located} {t : Token}
    {rest : List Token} (stops : Stops rank e (t :: rest)) :
    (Frontier.mk brackets (.behind e)).next? t = goesOn brackets t := by
  have apart := (stops t rfl).2
  unfold Phase.behind
  cases named : e.lastName? with
  | none => rfl
  | some text => exact next?_behind rfl (apart (by simp [named]))

/-- Inside a bracket nothing comes behind a finished expression but the end of the bracket or, in a
call, a comma. -/
theorem next?_refused {b : Bracket} {outer : List Bracket} {e : Expr Located} {t : Token}
    {rest : List Token} (stops : Stops (.chain .sum) e (t :: rest)) (close : t.kind ≠ .rightParen)
    (comma : b = .group ∨ t.kind ≠ .comma) :
    (Frontier.mk (b :: outer) (.behind e)).next? t = none := by
  have nothing := (stops t rfl).1
  rw [next?_stops stops]
  unfold goesOn
  rw [if_neg (by simpa only [Rank.takes, Bool.not_eq_true] using nothing)]
  cases b <;> cases kind : t.kind <;> simp_all

end Frontier

namespace Parser

variable {stop : Token}

/-- What comes of reading an expression from the front of `input`. -/
def ReadsFront (stop : Token) (rank : Rank) {input : List Token} :
    Result (Expr Located) input → Prop
  | .ok p => ∃ ts, input = ts ++ p.rest ∧ ts.getLast? = some p.last ∧
      Reads (.expr rank p.value) ts ∧ Stops rank p.value p.rest
  | .error e => Begins rank input → ∀ f : Frontier, f.awaits = true → f.scan stop input = .error e

/-- What comes of reading at least one argument and the bracket that closes the call. -/
def ReadsMore (stop : Token) (callee : Text) {input : List Token} :
    Result (List (Expr Located)) input → Prop
  | .ok p => ∃ ts, input = ts ++ p.last :: p.rest ∧ p.last.kind = .rightParen ∧
      Reads (.arguments p.value) ts
  | .error e => ∀ (f : Frontier) outer, f.brackets = .call callee :: outer → f.awaits = true →
      f.missing = .argument callee →
      (∀ t ∈ input.head?, f.next? t = Frontier.opens f.brackets t) → f.scan stop input = .error e

/-- What comes of reading all that stands in the brackets of a call. -/
def ReadsCall (stop : Token) (callee : Text) {input : List Token} :
    Result (List (Expr Located)) input → Prop
  | .ok p => ∃ ts, input = ts ++ p.last :: p.rest ∧ p.last.kind = .rightParen ∧
      (p.value = [] ∧ ts = [] ∨ Reads (.arguments p.value) ts)
  | .error e => ∀ outer,
      (Frontier.mk (.call callee :: outer) (.arguments callee)).scan stop input = .error e

theorem begins_of_demand {cause : Cause} {input : List Token} (ends : stop.kind = .endOfInput)
    (h : demand stop cause input = .ok ()) {rank : Rank}
    (unsigned : rank = .primary → ∀ t ∈ input.head?, t.kind.isSign = false) :
    Begins rank input := by
  unfold demand at h
  cases input with
  | nil => simp [ends, TokenKind.startsExpression] at h
  | cons t rest =>
    refine ⟨t, rest, rfl, ?_, fun primary => unsigned primary t rfl⟩
    cases starts : t.kind.startsExpression with
    | true => rfl
    | false => simp [starts] at h

theorem demand_refused {f : Frontier} {input : List Token} {e : SyntaxError}
    (h : demand stop f.missing input = .error e) (unfinished : f.final = false)
    (opening : ∀ t ∈ input.head?, f.next? t = Frontier.opens f.brackets t) :
    f.scan stop input = .error e := by
  unfold demand at h
  cases input with
  | nil =>
    dsimp only [List.headD_nil] at h
    split at h
    · contradiction
    · simpa [Frontier.scan, unfinished] using h
  | cons t rest =>
    dsimp only [List.headD_cons] at h
    split at h
    · contradiction
    · rename_i starts
      have none : f.next? t = none := by
        rw [opening t rfl, Frontier.opens]
        cases kind : t.kind <;> simp_all [TokenKind.startsExpression]
      simpa [Frontier.scan, none] using h

theorem demand_operand_refused {cause : Cause} {brackets : List Bracket} {input : List Token}
    {e : SyntaxError} (h : demand stop cause input = .error e) :
    (Frontier.mk brackets (.operand cause)).scan stop input = .error e :=
  demand_refused h rfl fun _ _ => rfl

/-! ### Operands -/

theorem single_follows {t : Token} {rest : List Token} {e : Expr Located}
    {shorter : rest.length < (t :: rest).length} (read : Reads (.expr .primary e) [t])
    (nameless : e.lastName? = none) : ReadsFront stop .primary (.ok ⟨e, t, rest, shorter⟩) :=
  ⟨[t], rfl, rfl, read, fun _ _ => ⟨rfl, fun named => absurd nameless named⟩⟩

theorem literal_refused (stop : Token) {t : Token} (rest : List Token)
    (kind : t.kind = .number ∨ t.kind = .percent) (bad : t.converts = false) :
    ReadsFront stop .primary (.error ⟨t.fault, t⟩ : Result (Expr Located) (t :: rest)) := by
  intro begins f awaiting
  have starts : t.kind.startsExpression = true := by
    rcases kind with kind | kind <;> rw [kind] <;> rfl
  have step : f.next? t = some ⟨f.brackets, .complete⟩ := by
    rw [Frontier.next?_of_awaits awaiting starts, Frontier.opens]
    rcases kind with kind | kind <;> rw [kind]
  simp [Frontier.scan, step, bad]

theorem number_follows {t : Token} (rest : List Token) (kind : t.kind = .number) :
    ReadsFront stop .primary (primary stop (t :: rest)) := by
  rw [primary]
  simp only [kind]
  unfold numeral
  cases digits : Numeral.read? t.value with
  | none =>
    have refused := literal_refused stop rest (.inl kind)
      (by simp [Token.converts, Token.digits?, kind, digits])
    simpa [Token.fault, Token.digits?, kind] using refused
  | some value => exact single_follows (.number kind digits) rfl

theorem percent_follows {t : Token} (rest : List Token) (kind : t.kind = .percent) :
    ReadsFront stop .primary (primary stop (t :: rest)) := by
  rw [primary]
  simp only [kind]
  unfold numeral
  cases digits : Numeral.read? t.value.dropLast with
  | none =>
    have refused := literal_refused stop rest (.inr kind)
      (by simp [Token.converts, Token.digits?, kind, digits])
    simpa [Token.fault, Token.digits?, kind] using refused
  | some value => exact single_follows (.percent kind digits) rfl

theorem hex_follows {t : Token} (rest : List Token) (kind : t.kind = .hexValue) :
    ReadsFront stop .primary (primary stop (t :: rest)) := by
  rw [primary]
  simp only [kind]
  exact single_follows (.hex kind) rfl

theorem name_follows {t : Token} {rest : List Token} (kind : t.kind = .identifier)
    (calls : ∀ inner : List Token, inner.length < rest.length →
      ReadsCall stop t.value (arguments stop t.value inner)) :
    ReadsFront stop .primary (primary stop (t :: rest)) := by
  rw [primary]
  simp only [kind]
  cases rest with
  | nil => exact ⟨[t], rfl, rfl, .name kind, stops_nil _ _⟩
  | cons paren inner =>
    dsimp only
    split
    · rename_i opens
      have read := calls inner (by simp)
      split
      · rename_i e failed
        rw [failed] at read
        rintro - f awaiting
        have converts := converts_of_kind (t := t) (by simp [kind]) (by simp [kind])
        have opensConverts := converts_of_kind (t := paren) (by simp [opens]) (by simp [opens])
        rw [Frontier.scan_cons (Frontier.next?_name awaiting kind) converts,
          Frontier.scan_cons (Frontier.next?_callParen opens) opensConverts]
        exact read f.brackets
      · rename_i p parsed
        rw [parsed] at read
        obtain ⟨ts, same, closes, inside⟩ := read
        have whole : covered (t :: paren :: (ts ++ [p.last])) = spanned t p.last :=
          covered_eq rfl (by simp [List.getLast?_cons])
        refine ⟨t :: paren :: (ts ++ [p.last]), ?_, ?_, ?_,
          fun _ _ => ⟨rfl, fun named => absurd rfl named⟩⟩
        · simpa [Parsed.map, Parsed.widen] using same
        · simp [Parsed.map, Parsed.widen, List.getLast?_cons]
        · dsimp only [Parsed.map, Parsed.widen]
          rw [← whole]
          rcases inside with ⟨empty, rfl⟩ | inside
          · rw [empty]
            exact .emptyCall kind opens closes
          · exact .call kind opens inside closes
    · rename_i plain
      refine ⟨[t], rfl, rfl, .name kind, ?_⟩
      intro u member
      cases member
      exact ⟨rfl, fun _ => plain⟩

theorem group_follows {t : Token} {rest : List Token} (ends : stop.kind = .endOfInput)
    (kind : t.kind = .leftParen)
    (inside : ReadsFront stop (.chain .sum) (chain stop .sum rest)) :
    ReadsFront stop .primary (primary stop (t :: rest)) := by
  have converts := converts_of_kind (t := t) (by simp [kind]) (by simp [kind])
  rw [primary]
  simp only [kind]
  split
  · rename_i e failed
    rintro - f awaiting
    rw [Frontier.scan_cons (Frontier.next?_paren awaiting kind) converts]
    exact demand_operand_refused failed
  · rename_i demanded
    have begins : Begins (.chain .sum) rest := begins_of_demand ends demanded (by simp)
    split
    · rename_i e failed
      rw [failed] at inside
      rintro - f awaiting
      rw [Frontier.scan_cons (Frontier.next?_paren awaiting kind) converts]
      exact inside begins _ rfl
    · rename_i p parsed
      rw [parsed] at inside
      obtain ⟨ts, same, last, read, stops⟩ := inside
      -- The errors that are left come behind the body, so the frontier passes over that first.
      have enters : ∀ f : Frontier, f.awaits = true → f.scan stop (t :: rest) =
          (Frontier.mk (.group :: f.brackets) (.behind p.value)).scan stop p.rest := by
        intro f awaiting
        rw [Frontier.scan_cons (Frontier.next?_paren awaiting kind) converts]
        exact read.scan stop rfl same
      split
      · rename_i exhausted
        rintro - f awaiting
        rw [enters f awaiting, exhausted, Frontier.scan, Frontier.missing_behind,
          Frontier.final_of_bracket rfl]
        rfl
      · rename_i close after more
        rw [more] at stops same
        split
        · rename_i closes
          have whole : covered (t :: (ts ++ [close])) = spanned t close :=
            covered_eq rfl (by simp [List.getLast?_cons])
          refine ⟨t :: (ts ++ [close]), by simp [same], by simp [List.getLast?_cons], ?_,
            fun _ _ => ⟨rfl, fun named => absurd rfl named⟩⟩
          rw [← whole]
          exact .group kind read closes
        · rename_i unclosed
          rintro - f awaiting
          rw [enters f awaiting, more, Frontier.scan,
            Frontier.next?_refused stops unclosed (.inl rfl), Frontier.missing_behind]
          rfl

theorem primary_follows (ends : stop.kind = .endOfInput) (input : List Token)
    (sums : ∀ inner : List Token, inner.length < input.length →
      ReadsFront stop (.chain .sum) (chain stop .sum inner))
    (calls : ∀ callee, ∀ inner : List Token, inner.length < input.length →
      ReadsCall stop callee (arguments stop callee inner)) :
    ReadsFront stop .primary (primary stop input) := by
  cases input with
  | nil =>
    rw [primary]
    rintro ⟨_, _, impossible, _⟩
    cases impossible
  | cons t rest =>
    cases kind : t.kind with
    | number => exact number_follows rest kind
    | percent => exact percent_follows rest kind
    | hexValue => exact hex_follows rest kind
    | identifier =>
      exact name_follows kind fun inner shorter => calls t.value inner (Nat.lt_succ_of_lt shorter)
    | leftParen => exact group_follows ends kind (sums rest (Nat.lt_succ_self _))
    | _ =>
      rw [primary]
      simp only [kind]
      rintro ⟨_, _, same, starts, unsigned⟩
      cases same
      simp [kind, TokenKind.startsExpression, TokenKind.isSign] at starts unsigned

/-! ### Signs -/

theorem signs_next (signs : List Token) (sign : Token) (signed : ∀ t ∈ signs, t.kind.isSign = true)
    (last : signs.getLast? = some sign) {f : Frontier} (awaiting : f.awaits = true) :
    f.run signs = some ⟨f.brackets, .operand (.operand sign.value .unary)⟩ := by
  induction signs generalizing f with
  | nil => cases last
  | cons t signs ih =>
    rw [Frontier.run_cons (Frontier.next?_sign awaiting (signed t List.mem_cons_self))]
    cases signs with
    | nil =>
      cases last
      rfl
    | cons u signs =>
      exact ih (fun t member => signed t (List.mem_cons_of_mem _ member)) (by simpa using last) rfl

theorem signs_convert {signs : List Token} (signed : ∀ t ∈ signs, t.kind.isSign = true) :
    ∀ t ∈ signs, t.converts = true := by
  intro t member
  exact @converts_of_joins .sum t (signed t member)

/-- The signs in front of an operand, the last one applied first. -/
def signedBy (signs : List Token) (last : Token) (e : Expr Located) : Expr Located :=
  signs.foldr (fun op e => .unary op.value e (spanned op last)) e

theorem reads_signs {signs ts : List Token} {last : Token} {e : Expr Located}
    (signed : ∀ t ∈ signs, t.kind.isSign = true) (ends : ts.getLast? = some last)
    (read : Reads (.expr .unary e) ts) :
    Reads (.expr .unary (signedBy signs last e)) (signs ++ ts) := by
  induction signs with
  | nil => exact read
  | cons t signs ih =>
    have inner := ih fun u member => signed u (List.mem_cons_of_mem _ member)
    have whole : covered (t :: (signs ++ ts)) = spanned t last :=
      covered_eq rfl (by simp [List.getLast?_cons, ends])
    have outer := inner.sign (signed t List.mem_cons_self)
    rw [whole] at outer
    exact outer

theorem signedBy_lastName? (signs : List Token) (last : Token) (e : Expr Located) :
    (signedBy signs last e).lastName? = e.lastName? := by
  induction signs with
  | nil => rfl
  | cons t signs ih => exact ih

theorem unary_follows (ends : stop.kind = .endOfInput) (input : List Token)
    (operands : ∀ body : List Token, body.length ≤ input.length →
      ReadsFront stop .primary (primary stop body)) :
    ReadsFront stop .unary (unary stop input) := by
  have parts : input = input.takeWhile (·.kind.isSign) ++ input.dropWhile (·.kind.isSign) :=
    List.takeWhile_append_dropWhile.symm
  have signed : ∀ t ∈ input.takeWhile (·.kind.isSign), t.kind.isSign = true :=
    fun t member => List.all_eq_true.mp List.all_takeWhile t member
  rw [unary]
  dsimp only
  split
  · rename_i unsigned
    have read := operands input (Nat.le_refl _)
    cases parsed : primary stop input with
    | error e =>
      rw [parsed] at read
      rintro ⟨t, rest, rfl, starts, _⟩
      refine read ⟨t, rest, rfl, starts, fun _ => ?_⟩
      simpa [List.takeWhile_cons] using unsigned
    | ok p =>
      rw [parsed] at read
      obtain ⟨ts, same, last, tree, stops⟩ := read
      exact ⟨ts, same, last, .primary tree, stops⟩
  · rename_i sign last
    have passed : ∀ f : Frontier, f.awaits = true → f.scan stop input =
        (Frontier.mk f.brackets (.operand (.operand sign.value .unary))).scan stop
          (input.dropWhile (·.kind.isSign)) := by
      intro f awaiting
      exact (congrArg (f.scan stop) parts).trans (Frontier.scan_append _
        (signs_next _ sign signed last awaiting) (signs_convert signed))
    split
    · rename_i e failed
      intro _ f awaiting
      rw [passed f awaiting]
      exact demand_operand_refused failed
    · rename_i demanded
      have read := operands (input.dropWhile (·.kind.isSign)) (List.dropWhile_sublist _).length_le
      split
      · rename_i e failed
        rw [failed] at read
        intro _ f awaiting
        rw [passed f awaiting]
        refine read (begins_of_demand ends demanded fun _ t member => ?_) _ rfl
        have head := List.head?_dropWhile_not (·.kind.isSign) input
        rw [Option.mem_def.mp member] at head
        exact head
      · rename_i p parsed
        rw [parsed] at read
        obtain ⟨ts, same, ending, tree, stops⟩ := read
        refine ⟨input.takeWhile (·.kind.isSign) ++ ts, ?_, ?_, reads_signs signed ending tree.primary, ?_⟩
        · rw [List.append_assoc]
          exact parts.trans (congrArg _ same)
        · simp [ending, Parsed.map, Parsed.widen]
        · intro t member
          obtain ⟨_, apart⟩ := stops t member
          exact ⟨rfl, fun named => apart (signedBy_lastName? _ _ _ ▸ named)⟩

/-! ### Chains -/

/-- What comes of extending a chain that was read from `ts`. -/
def ReadsExtended (stop : Token) (level : Level) (left : Expr Located) (rest : List Token)
    {input : List Token} : Result (Expr Located) input → Prop
  | .ok p => ReadsFront stop (.chain level) (.ok p : Result (Expr Located) input)
  | .error e => ∀ brackets, (Frontier.mk brackets (.behind left)).scan stop rest = .error e

theorem extend_follows {level : Level} {input : List Token} (ends : stop.kind = .endOfInput)
    (operands : ∀ after : List Token, after.length < input.length →
      ReadsFront stop level.operandRank (operand stop level after))
    (start : Token) (left : Parsed (Expr Located) input) (ts : List Token)
    (same : input = ts ++ left.rest) (first : ts.head? = some start)
    (last : ts.getLast? = some left.last) (read : Reads (.expr (.chain level) left.value) ts)
    (stops : Stops level.operandRank left.value left.rest) :
    ReadsExtended stop level left.value left.rest (extend stop level start left) := by
  -- What has been read grows from `ts` by an operator and an operand at a time, and what is left of
  -- the input gets shorter by as much.
  induction size : left.rest.length using Nat.strongRecOn generalizing left ts with
  | ind n ih =>
    rw [extend]
    split
    · rename_i exhausted
      exact ⟨ts, same, last, read, exhausted ▸ stops_nil _ _⟩
    · rename_i op after more
      rw [more] at same stops
      split
      · rename_i joins
        have step : ∀ brackets, (Frontier.mk brackets (.behind left.value)).scan stop left.rest =
            (Frontier.mk brackets (.operand (.operand op.value .binary))).scan stop after := by
          intro brackets
          have next := Frontier.next?_operator (Frontier.awaits_behind brackets left.value) joins
          rw [more]
          exact Frontier.scan_cons next (converts_of_joins joins)
        split
        · rename_i e failed
          intro brackets
          rw [step brackets]
          exact demand_operand_refused failed
        · rename_i demanded
          have shorter : after.length < input.length := by
            have sizes := congrArg List.length same
            simp only [List.length_append, List.length_cons] at sizes
            omega
          have operandRead := operands after shorter
          split
          · rename_i e failed
            rw [failed] at operandRead
            intro brackets
            rw [step brackets]
            refine operandRead (begins_of_demand ends demanded ?_) _ rfl
            cases level <;> simp [Level.operandRank]
          · rename_i right parsed
            rw [parsed] at operandRead
            obtain ⟨us, sameAfter, lastRight, readRight, stopsRight⟩ := operandRead
            have firstBoth : (ts ++ op :: us).head? = some start := by simp [first]
            have lastBoth : (ts ++ op :: us).getLast? = some right.last := by
              simp [List.getLast?_cons, lastRight]
            have joined := read.binary joins readRight
            rw [covered_eq firstBoth lastBoth] at joined
            have fewer : right.rest.length < n := by
              have decreased := right.shorter
              simp only [more, List.length_cons] at size
              omega
            have later := ih right.rest.length fewer
              ⟨.binary op.value left.value right.value (spanned start right.last), right.last,
                right.rest, by have := left.shorter; have := right.shorter; simp_all; omega⟩
              (ts ++ op :: us) (by simp [same, sameAfter]) firstBoth lastBoth joined stopsRight rfl
            -- The bound in the result that `extend` gets does not matter, only what it makes of it.
            revert later
            generalize extend stop level start _ = outcome
            intro later
            cases outcome with
            | ok p => exact later
            | error e =>
              intro brackets
              rw [step brackets]
              exact (readRight.scan stop rfl sameAfter).trans (later brackets)
      · rename_i apart
        -- What goes on neither with the operand nor with the chain stops the chain.
        refine ⟨ts, same.trans (congrArg _ more.symm), last, read, ?_⟩
        rw [more]
        intro t member
        obtain ⟨nothing, plain⟩ := stops t member
        cases member
        exact ⟨by simp [takes_chain, nothing, apart], plain⟩

theorem chain_follows {level : Level} (ends : stop.kind = .endOfInput) (input : List Token)
    (operands : ∀ body : List Token, body.length ≤ input.length →
      ReadsFront stop level.operandRank (operand stop level body)) :
    ReadsFront stop (.chain level) (chain stop level input) := by
  have read := operands input (Nat.le_refl _)
  have compound : level.operandRank ≠ .primary := by
    cases level <;> simp [Level.operandRank]
  rw [chain]
  split
  · rename_i e failed
    rw [failed] at read
    rintro ⟨t, rest, same, starts, _⟩
    exact read ⟨t, rest, same, starts, fun primary => absurd primary compound⟩
  · rename_i first parsed
    rw [parsed] at read
    obtain ⟨ts, same, last, tree, stops⟩ := read
    have head : ts.head? = some (input.headD stop) := by
      obtain ⟨t, rest, rfl, _⟩ := tree.starts
      have heads := congrArg (List.headD · stop) same
      simpa using heads.symm
    have extended := extend_follows ends (fun after shorter => operands after (Nat.le_of_lt shorter))
      (input.headD stop) first ts same head last tree.operand stops
    revert extended
    generalize extend stop level _ first = outcome
    intro extended
    cases outcome with
    | ok p => exact extended
    | error e =>
      intro _ f awaiting
      exact (tree.scan stop awaiting same).trans (extended f.brackets)

/-! ### Calls -/

theorem more_follows {callee : Text} (ends : stop.kind = .endOfInput) (input : List Token)
    (first : ReadsFront stop (.chain .sum) (chain stop .sum input))
    (others : ∀ after : List Token, after.length < input.length →
      ReadsMore stop callee (moreArguments stop callee after)) :
    ReadsMore stop callee (moreArguments stop callee input) := by
  rw [moreArguments]
  split
  · rename_i e failed
    intro f outer inside awaiting missing opening
    exact demand_refused (missing ▸ failed) (Frontier.final_of_bracket inside) opening
  · rename_i demanded
    split
    · rename_i e failed
      rw [failed] at first
      intro f outer inside awaiting missing opening
      exact first (begins_of_demand ends demanded (by simp)) f awaiting
    · rename_i p parsed
      rw [parsed] at first
      obtain ⟨ts, same, last, read, stops⟩ := first
      have passes : ∀ f : Frontier, f.awaits = true → f.scan stop input =
          (Frontier.mk f.brackets (.behind p.value)).scan stop p.rest := fun f awaiting =>
        read.scan stop awaiting same
      split
      · rename_i exhausted
        intro f outer inside awaiting _ _
        rw [passes f awaiting, exhausted, inside, Frontier.scan, Frontier.missing_behind,
          Frontier.final_of_bracket rfl]
        rfl
      · rename_i t after more
        rw [more] at same stops
        cases kind : t.kind with
        | comma =>
          simp only
          have shorter : after.length < input.length := by
            have sizes := congrArg List.length same
            simp only [List.length_append, List.length_cons] at sizes
            omega
          have later := others after shorter
          split
          · rename_i e failed
            rw [failed] at later
            intro f outer inside awaiting _ _
            have next := Frontier.next?_comma (Frontier.awaits_behind f.brackets p.value) inside kind
            rw [passes f awaiting, more, Frontier.scan_cons next
              (converts_of_kind (by simp [kind]) (by simp [kind]))]
            exact later _ outer inside rfl rfl fun _ _ => rfl
          · rename_i q parsedMore
            rw [parsedMore] at later
            obtain ⟨us, sameAfter, closes, readMore⟩ := later
            refine ⟨ts ++ t :: us, ?_, closes, .arguments read kind readMore⟩
            simp [same, sameAfter, Parsed.map, Parsed.widen]
        | rightParen => exact ⟨ts, same, kind, read.argument⟩
        | _ =>
          intro f outer inside awaiting _ _
          rw [passes f awaiting, more, inside, Frontier.scan, Frontier.next?_refused stops
            (by simp [kind]) (.inr (by simp [kind])), Frontier.missing_behind]
          rfl

theorem call_follows {callee : Text} (input : List Token)
    (more : ReadsMore stop callee (moreArguments stop callee input)) :
    ReadsCall stop callee (arguments stop callee input) := by
  have any : (∀ t ∈ input.head?, t.kind ≠ .rightParen) →
      ReadsCall stop callee (moreArguments stop callee input) := by
    intro filled
    cases outcome : moreArguments stop callee input with
    | error e =>
      rw [outcome] at more
      intro outer
      refine more _ outer rfl rfl rfl fun t member => ?_
      have kind := filled t member
      unfold Frontier.next?
      split <;> simp_all
    | ok p =>
      rw [outcome] at more
      obtain ⟨ts, same, closes, read⟩ := more
      exact ⟨ts, same, closes, .inr read⟩
  cases input with
  | nil =>
    rw [arguments.eq_def]
    exact any (by simp)
  | cons t rest =>
    rw [arguments.eq_def]
    dsimp only
    split
    · rename_i closes
      exact ⟨[], rfl, closes, .inl ⟨rfl, rfl⟩⟩
    · rename_i filled
      exact any fun u member => by
        cases member
        exact filled

/-! ### All of them -/

theorem descent (ends : stop.kind = .endOfInput) (input : List Token) :
    ReadsFront stop (.chain .sum) (chain stop .sum input) ∧
      ∀ callee, ReadsMore stop callee (moreArguments stop callee input) := by
  -- The functions call each other in a circle, but only behind a bracket or a comma does it close:
  -- what stands there is shorter.
  induction size : input.length using Nat.strongRecOn generalizing input with
  | ind n ih =>
    subst size
    have primaries : ∀ body : List Token, body.length ≤ input.length →
        ReadsFront stop .primary (primary stop body) := by
      intro body bound
      refine primary_follows ends body (fun inner shorter => ?_) (fun callee inner shorter => ?_)
      · exact (ih _ (Nat.lt_of_lt_of_le shorter bound) inner rfl).1
      · exact call_follows inner ((ih _ (Nat.lt_of_lt_of_le shorter bound) inner rfl).2 callee)
    have products : ∀ body : List Token, body.length ≤ input.length →
        ReadsFront stop (.chain .product) (chain stop .product body) := by
      intro body bound
      refine chain_follows ends body fun operandBody within => ?_
      rw [operand]
      exact unary_follows ends operandBody fun inner deeper =>
        primaries inner (Nat.le_trans deeper (Nat.le_trans within bound))
    have sum : ReadsFront stop (.chain .sum) (chain stop .sum input) := by
      refine chain_follows ends input fun body bound => ?_
      rw [operand]
      exact products body bound
    refine ⟨sum, fun callee => more_follows ends input sum fun after shorter => ?_⟩
    exact (ih _ shorter after rfl).2 callee

theorem sum_follows (ends : stop.kind = .endOfInput) (input : List Token) :
    ReadsFront stop (.chain .sum) (chain stop .sum input) :=
  (descent ends input).1

end Parser

end StyleValue

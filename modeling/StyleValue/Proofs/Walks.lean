import StyleValue.Proofs.Cursor

/-! The walk with the cursor, part by part, against the parser. A part that is given what its own parts do
comes to the same tree behind the same token, or is refused the same token for the same cause. -/
namespace StyleValue.Walk

variable {α : Type} {k : Nat} {a : α} {h : Halt}

/-- The walk has come from `k` to a later place, with a value. -/
def Reaches (tokens : List Token) (k : Nat) (value : α) (last : Token) (rest : List Token)
    (walked : Except Halt (α × Nat)) : Prop :=
  ∃ k', k < k' ∧ Past tokens k' last rest ∧ walked = .ok (value, k')

/-- A walk from `k` and what the parser has read from there agree. -/
def Follows (tokens : List Token) (k : Nat) {input : List Token} (read : Parser.Result α input)
    (walked : Except Halt (α × Nat)) : Prop :=
  match read with
  | .ok p => Reaches tokens k p.value p.last p.rest walked
  | .error e => walked = .error (.refused e)

section

variable {tape tokens input : List Token} {stop t : Token}

theorem call_reaches (l : Tape tape tokens stop) (place : At tokens k input) {body : Walk α}
    {last : Token} {rest : List Token} (reaches : Reaches tokens k a last rest (body k)) :
    Reaches tokens k a last rest (call tape body k) := by
  obtain ⟨k', later, past, done⟩ := reaches
  refine ⟨k', later, past, ?_⟩
  unfold call
  simp only [look_at l place, done, look_at l past.toAt, bind, Except.bind]
  exact if_pos later

theorem call_error (l : Tape tape tokens stop) (place : At tokens k input) {body : Walk α}
    (halted : body k = .error h) : call tape body k = .error h := by
  unfold call
  simp only [look_at l place, halted, bind, Except.bind]

theorem call_follows (l : Tape tape tokens stop) (place : At tokens k input) {body : Walk α}
    {read : Parser.Result α input} (follows : Follows tokens k read (body k)) :
    Follows tokens k read (call tape body k) := by
  cases read with
  | ok p => exact call_reaches l place follows
  | error e => exact call_error l place follows

/-! ### Chains -/

theorem chainTurn_apart (l : Tape tape tokens stop) {level : Level} (place : At tokens k input)
    (apart : level.joins (input.headD stop).kind = false) (operand : Walk (Expr Located))
    (start : Token) (left : Expr Located) :
    chainTurn tape level operand start left k = .ok (none, k) := by
  unfold chainTurn
  rw [bind_of_ok _ (peek_at l place), apart]
  rfl

theorem chainTurn_joins (l : Tape tape tokens stop) {level : Level} {op : Token}
    (place : At tokens k (op :: input)) (joins : level.joins op.kind = true)
    (operand : Walk (Expr Located)) (start : Token) (left : Expr Located) :
    chainTurn tape level operand start left k = (do
      demand tape (.operand op.value .binary)
      let right ← operand
      let span ← spanFrom tape start
      return some (.binary op.value left right span) : Walk (Option (Expr Located))) (k + 1) := by
  unfold chainTurn
  rw [bind_of_ok _ (peek_at l place), List.headD_cons, if_pos joins,
    bind_of_ok _ (advance_at l place)]

theorem not_joins_end (l : Tape tape tokens stop) (level : Level) :
    level.joins stop.kind = false := by
  rw [l.stops]
  cases level <;> rfl

theorem extend_follows (l : Tape tape tokens stop) {level : Level} {operand : Walk (Expr Located)}
    {bound : Nat} (operands : ∀ k input, At tokens k input → input.length ≤ bound →
      Follows tokens k (Parser.operand stop level input) (operand k)) (start : Token) {turns origin : Nat}
    (left : Parsed (Expr Located) input) (past : Past tokens k left.last left.rest)
    (later : origin < k) (within : left.rest.length ≤ bound) (enough : left.rest.length < turns) :
    Follows tokens origin (Parser.extend stop level start left)
      (loop (chainTurn tape level operand start) turns left.value k) := by
  -- Each turn takes an operator and an operand, so the turns last as long as there are tokens.
  induction turns generalizing k left with
  | zero => exact absurd enough (Nat.not_lt_zero _)
  | succ turns ih =>
    rw [Parser.extend]
    split
    · rename_i exhausted
      have apart : level.joins (left.rest.headD stop).kind = false := by
        rw [exhausted]
        exact not_joins_end l level
      exact ⟨k, later, past, loop_ends (chainTurn_apart l past.toAt apart operand start left.value)⟩
    · rename_i op after more
      have here : At tokens k (op :: after) := more ▸ past.toAt
      split
      · rename_i joins
        have turn := chainTurn_joins l here joins operand start left.value
        have demanded := demand_at l here.next.toAt (.operand op.value .binary)
        split
        · rename_i e failed
          rw [failed] at demanded
          rw [bind_of_error _ demanded] at turn
          exact loop_halts turn
        · rename_i starts
          rw [starts] at demanded
          rw [bind_of_ok _ demanded] at turn
          have sizes := congrArg List.length more
          rw [List.length_cons] at sizes
          have read := operands (k + 1) after here.next.toAt (by omega)
          split
          · rename_i e failed
            rw [failed] at read
            rw [bind_of_error _ read] at turn
            exact loop_halts turn
          · rename_i right parsed
            rw [parsed] at read
            obtain ⟨k', deeper, pastRight, done⟩ := read
            rw [bind_of_ok _ done, bind_of_ok _ (spanFrom_at l pastRight start)] at turn
            have fewer := right.shorter
            have withinRight : right.rest.length ≤ bound := by omega
            have enoughRight : right.rest.length < turns := by omega
            rw [loop_goes_on turn]
            exact ih _ pastRight (by omega) withinRight enoughRight
      · rename_i apart
        have apart : level.joins (left.rest.headD stop).kind = false := by
          rw [more]
          simpa using apart
        exact ⟨k, later, past,
          loop_ends (chainTurn_apart l past.toAt apart operand start left.value)⟩

theorem chain_follows (l : Tape tape tokens stop) {level : Level} {operand : Walk (Expr Located)}
    {bound turns : Nat} (operands : ∀ k input, At tokens k input → input.length ≤ bound →
      Follows tokens k (Parser.operand stop level input) (operand k)) (place : At tokens k input)
    (within : input.length ≤ bound) (enough : bound < turns) :
    Follows tokens k (Parser.chain stop level input) (chain tape turns level operand k) := by
  have read := operands k input place within
  apply call_follows l place
  rw [bind_of_ok _ (peek_at l place), Parser.chain]
  split
  · rename_i e failed
    rw [failed] at read
    exact bind_of_error _ read
  · rename_i first parsed
    rw [parsed] at read
    obtain ⟨k', later, past, done⟩ := read
    have fewer := first.shorter
    rw [bind_of_ok _ done]
    exact extend_follows l operands _ first past later (by omega) (by omega)

/-! ### Signs -/

theorem signs_at (l : Tape tape tokens stop) (place : At tokens k input) {turns : Nat}
    (enough : input.length < turns) (ops : List Token) :
    let signs := input.takeWhile (·.kind.isSign)
    At tokens (k + signs.length) (input.dropWhile (·.kind.isSign)) ∧
      loop (signTurn tape) turns ops k = .ok (ops ++ signs, k + signs.length) := by
  induction turns generalizing k input ops with
  | zero => exact absurd enough (Nat.not_lt_zero _)
  | succ turns ih =>
    have turn : signTurn tape ops k =
        if (input.headD stop).kind.isSign then (do
          let op ← advance tape
          return some (ops ++ [op]) : Walk (Option (List Token))) k
        else .ok (none, k) := by
      unfold signTurn
      rw [bind_of_ok _ (peek_at l place)]
      split <;> rfl
    cases input with
    | nil =>
      have unsigned : stop.kind.isSign = false := by rw [l.stops]; rfl
      rw [List.headD_nil, unsigned] at turn
      exact ⟨place, by simp [loop_ends turn]⟩
    | cons t rest =>
      rw [List.headD_cons] at turn
      cases sign : t.kind.isSign with
      | false =>
        rw [sign] at turn
        simpa [sign, loop_ends turn] using place
      | true =>
        rw [sign, if_pos rfl, bind_of_ok _ (advance_at l place)] at turn
        obtain ⟨there, done⟩ := ih place.next.toAt (Nat.lt_of_succ_lt_succ enough) (ops ++ [t])
        rw [loop_goes_on turn]
        simpa [sign, Nat.add_assoc, Nat.add_comm 1] using And.intro there done

theorem applySigns_at (l : Tape tape tokens stop) {last : Token} (past : Past tokens k last input)
    (ops : List Token) (e : Expr Located) : applySigns tape ops e k = .ok
      (ops.foldr (fun op e => .unary op.value e (Parser.spanned op last)) e, k) := by
  unfold applySigns
  induction ops with
  | nil => rfl
  | cons op ops ih =>
    rw [List.foldrM_cons, bind_of_ok _ ih, bind_of_ok _ (spanFrom_at l past op)]
    rfl

theorem unary_follows (l : Tape tape tokens stop) {primary : Walk (Expr Located)} {bound turns : Nat}
    (primaries : ∀ k input, At tokens k input → input.length ≤ bound →
      Follows tokens k (Parser.primary stop input) (primary k)) (place : At tokens k input)
    (within : input.length ≤ bound) (enough : bound < turns) :
    Follows tokens k (Parser.unary stop input) (unary tape turns primary k) := by
  obtain ⟨there, collected⟩ := signs_at l place (by omega : input.length < turns) []
  have size := (List.dropWhile_sublist (l := input) (·.kind.isSign)).length_le
  have read := primaries _ _ there (by omega)
  apply call_follows l place
  rw [bind_of_ok _ collected, Parser.unary, List.nil_append]
  dsimp only
  cases last : (input.takeWhile (·.kind.isSign)).getLast? with
  | none =>
    rw [List.getLast?_eq_none_iff.mp last]
    exact primaries k input place within
  | some sign =>
    have demanded := demand_at l there (.operand sign.value .unary)
    dsimp only
    split
    · rename_i e failed
      rw [failed] at demanded
      exact bind_of_error _ demanded
    · rename_i starts
      rw [starts] at demanded
      rw [bind_of_ok _ demanded]
      split
      · rename_i e failed
        rw [failed] at read
        exact bind_of_error _ read
      · rename_i p parsed
        rw [parsed] at read
        obtain ⟨k', deeper, past, done⟩ := read
        rw [bind_of_ok _ done]
        exact ⟨k', by omega, past, applySigns_at l past _ _⟩

/-! ### Calls -/

/-- An argument is refused as the parser refuses it, or it is an expression. -/
theorem argument_walks (l : Tape tape tokens stop) (place : At tokens k input) {callee : Text}
    {expression : Walk (Expr Located)}
    (read : Follows tokens k (Parser.chain stop .sum input) (expression k)) :
    (∃ e, Parser.moreArguments stop callee input = .error e ∧
      argument tape callee expression k = .error (.refused e)) ∨
    ∃ p, Parser.demand stop (.argument callee) input = .ok () ∧
      Parser.chain stop .sum input = .ok p ∧
      Reaches tokens k p.value p.last p.rest (argument tape callee expression k) := by
  have demanded := demand_at l place (.argument callee)
  cases starts : Parser.demand stop (.argument callee) input with
  | error e =>
    rw [starts] at demanded
    refine .inl ⟨e, ?_, call_error l place (bind_of_error _ demanded)⟩
    rw [Parser.moreArguments, starts]
  | ok _ =>
    rw [starts] at demanded
    cases parsed : Parser.chain stop .sum input with
    | error e =>
      rw [parsed] at read
      refine .inl ⟨e, ?_, call_error l place ((bind_of_ok _ demanded).trans read)⟩
      rw [Parser.moreArguments, starts]
      dsimp only
      rw [parsed]
    | ok p =>
      rw [parsed] at read
      refine .inr ⟨p, rfl, rfl, call_reaches l place ?_⟩
      rw [bind_of_ok _ demanded]
      exact read

/-- A walk through arguments behind a list of others. -/
def FollowsMore (tokens : List Token) (k : Nat) (list : List (Expr Located)) {input : List Token}
    (read : Parser.Result (List (Expr Located)) input)
    (walked : Except Halt (List (Expr Located) × Nat)) : Prop :=
  match read with
  | .ok p => Reaches tokens k (list ++ p.value) p.last p.rest walked
  | .error e => walked = .error (.refused e)

section

variable {callee : Text} {expression : Walk (Expr Located)} {list : List (Expr Located)} {turns : Nat}

theorem argumentTurn_apart (l : Tape tape tokens stop) (place : At tokens k input)
    (apart : (input.headD stop).kind ≠ .comma) :
    argumentTurn tape callee expression list k = .ok (none, k) := by
  unfold argumentTurn
  rw [bind_of_ok _ (peek_at l place), if_neg apart]
  rfl

theorem argumentTurn_comma (l : Tape tape tokens stop) (place : At tokens k (t :: input))
    (comma : t.kind = .comma) (callee : Text) (expression : Walk (Expr Located))
    (list : List (Expr Located)) : argumentTurn tape callee expression list k = (do
      let e ← argument tape callee expression
      return some (list ++ [e]) : Walk (Option (List (Expr Located)))) (k + 1) := by
  unfold argumentTurn
  rw [bind_of_ok _ (peek_at l place), List.headD_cons, if_pos comma, bind_of_ok _ (advance_at l place)]

theorem closeArguments_closes (l : Tape tape tokens stop) (place : At tokens k (t :: input))
    (closes : t.kind = .rightParen) :
    closeArguments tape (turns + 1) callee expression list k = .ok (list, k + 1) := by
  have apart : ((t :: input).headD stop).kind ≠ .comma := by
    rw [List.headD_cons, closes]
    decide
  unfold closeArguments
  rw [bind_of_ok _ (loop_ends (argumentTurn_apart l place apart)),
    bind_of_ok _ (expect_at l place closes (.callEnd callee))]
  rfl

theorem closeArguments_refused (l : Tape tape tokens stop) (place : At tokens k input)
    (apart : (input.headD stop).kind ≠ .comma) (unclosed : (input.headD stop).kind ≠ .rightParen) :
    closeArguments tape (turns + 1) callee expression list k =
      .error (.refused ⟨.callEnd callee, input.headD stop⟩) := by
  unfold closeArguments
  rw [bind_of_ok _ (loop_ends (argumentTurn_apart l place apart)),
    bind_of_error _ (expect_other l place unclosed (.callEnd callee))]

end

theorem closeArguments_follows (l : Tape tape tokens stop) {callee : Text}
    {expression : Walk (Expr Located)} {bound : Nat}
    (expressions : ∀ k input, At tokens k input → input.length ≤ bound →
      Follows tokens k (Parser.chain stop .sum input) (expression k))
    (starts : Parser.demand stop (.argument callee) input = .ok ()) {first : Parsed (Expr Located) input}
    (parsed : Parser.chain stop .sum input = .ok first) (past : Past tokens k first.last first.rest)
    {origin turns : Nat} (later : origin < k) (within : first.rest.length ≤ bound)
    (enough : first.rest.length < turns) (list : List (Expr Located)) :
    FollowsMore tokens origin list (Parser.moreArguments stop callee input)
      (closeArguments tape turns callee expression (list ++ [first.value]) k) := by
  -- The parser comes back to its own start behind a comma. The walk has read that argument in its turn.
  induction turns generalizing input k first list with
  | zero => exact absurd enough (Nat.not_lt_zero _)
  | succ turns ih =>
    rw [Parser.moreArguments, starts]
    dsimp only
    rw [parsed]
    dsimp only
    split
    · rename_i exhausted
      have ended : first.rest.headD stop = stop := by rw [exhausted]; rfl
      have apart : (first.rest.headD stop).kind ≠ .comma := by rw [ended, l.stops]; decide
      have unclosed : (first.rest.headD stop).kind ≠ .rightParen := by rw [ended, l.stops]; decide
      rw [closeArguments_refused l past.toAt apart unclosed, ended]
      rfl
    · rename_i t after more
      have here : At tokens k (t :: after) := more ▸ past.toAt
      have sizes := congrArg List.length more
      rw [List.length_cons] at sizes
      cases kind : t.kind with
      | comma =>
        dsimp only
        have turn := argumentTurn_comma l here kind callee expression (list ++ [first.value])
        have read := expressions (k + 1) after here.next.toAt (by omega)
        rcases argument_walks l here.next.toAt read with
          ⟨e, refused, halted⟩ | ⟨p, demanded, second, k', deeper, pastSecond, done⟩
        · rw [bind_of_error _ halted] at turn
          rw [refused]
          exact bind_of_error _ (loop_halts turn)
        · have fewer := p.shorter
          rw [bind_of_ok _ done] at turn
          have others := ih demanded second pastSecond (by omega) (by omega) (by omega)
            (list ++ [first.value])
          have goesOn : closeArguments tape (turns + 1) callee expression (list ++ [first.value]) k =
              closeArguments tape turns callee expression (list ++ [first.value] ++ [p.value]) k' :=
            bind_of_eq _ (loop_goes_on turn)
          rw [goesOn]
          cases rest : Parser.moreArguments stop callee after with
          | error e =>
            rw [rest] at others
            exact others
          | ok q =>
            rw [rest, FollowsMore, List.append_assoc] at others
            exact others
      | rightParen =>
        rw [closeArguments_closes l here kind]
        exact ⟨k + 1, by omega, here.next, rfl⟩
      | _ =>
        have next : first.rest.headD stop = t := by rw [more]; rfl
        have apart : (first.rest.headD stop).kind ≠ .comma := by rw [next, kind]; decide
        have unclosed : (first.rest.headD stop).kind ≠ .rightParen := by rw [next, kind]; decide
        rw [closeArguments_refused l past.toAt apart unclosed, next]
        rfl

theorem arguments_follow (l : Tape tape tokens stop) {callee : Text}
    {expression : Walk (Expr Located)} {bound turns : Nat}
    (expressions : ∀ k input, At tokens k input → input.length ≤ bound →
      Follows tokens k (Parser.chain stop .sum input) (expression k)) (place : At tokens k input)
    (within : input.length ≤ bound) (enough : bound < turns) :
    Follows tokens k (Parser.arguments stop callee input)
      (arguments tape turns callee expression k) := by
  have more : (input.headD stop).kind ≠ .rightParen →
      Follows tokens k (Parser.moreArguments stop callee input)
        (arguments tape turns callee expression k) := by
    intro unclosed
    unfold arguments
    rw [bind_of_ok _ (peek_at l place), if_neg unclosed]
    rcases argument_walks l place (expressions k input place within) with
      ⟨e, refused, halted⟩ | ⟨p, demanded, first, k', later, past, done⟩
    · rw [refused]
      exact bind_of_error _ halted
    · have fewer := p.shorter
      have withinRest : p.rest.length ≤ bound := by omega
      have enoughRest : p.rest.length < turns := by omega
      have closed :=
        closeArguments_follows l expressions demanded first past later withinRest enoughRest []
      rw [bind_of_ok _ done]
      cases read : Parser.moreArguments stop callee input with
      | ok _ => exact (read ▸ closed :)
      | error _ => exact (read ▸ closed :)
  cases input with
  | nil =>
    rw [Parser.arguments.eq_def]
    exact more (by rw [List.headD_nil, l.stops]; decide)
  | cons t rest =>
    rw [Parser.arguments.eq_def]
    dsimp only
    split
    · rename_i closes
      unfold arguments
      rw [bind_of_ok _ (peek_at l place), List.headD_cons, if_pos closes,
        bind_of_ok _ (expect_at l place closes (.callEnd callee))]
      exact ⟨k + 1, Nat.lt_succ_self k, place.next, rfl⟩
    · rename_i unclosed
      exact more unclosed

/-! ### Operands -/

/-- A literal is one token with a numeral in it. -/
theorem literal_follows (l : Tape tape tokens stop) (place : At tokens k (t :: input)) (node : NodeKind)
    (digits : Text) (make : Int → Expr Located) : Follows tokens k
      (match Parser.numeral node t digits with
        | .error e => .error e
        | .ok value => .ok ⟨make value, t, input, Nat.lt_succ_self _⟩ :
          Parser.Result (Expr Located) (t :: input))
      ((do
        let _ ← advance tape
        let value ← numeral node t digits
        return make value : Walk (Expr Located)) k) := by
  rw [bind_of_ok _ (advance_at l place)]
  unfold numeral
  cases Parser.numeral node t digits with
  | error e => rfl
  | ok value => exact ⟨k + 1, Nat.lt_succ_self k, place.next, rfl⟩

theorem name_follows (l : Tape tape tokens stop) {name : Token} {rest : List Token}
    (place : At tokens k (name :: rest)) (kind : name.kind = .identifier)
    {expression : Walk (Expr Located)} {turns : Nat}
    (calls : ∀ k input, At tokens k input → input.length < rest.length →
      Follows tokens k (Parser.arguments stop name.value input)
        (arguments tape turns name.value expression k)) :
    Follows tokens k (Parser.primary stop (name :: rest)) (primary tape turns expression k) := by
  apply call_follows l place
  rw [bind_of_ok _ (peek_at l place), List.headD_cons, Parser.primary]
  simp only [kind]
  rw [bind_of_ok _ (advance_at l place), bind_of_ok _ (peek_at l place.next.toAt)]
  cases rest with
  | nil =>
    have plain : (List.headD [] stop).kind ≠ .leftParen := by
      rw [List.headD_nil, l.stops]
      decide
    rw [if_neg plain]
    exact ⟨k + 1, Nat.lt_succ_self k, place.next, rfl⟩
  | cons paren inner =>
    have there := place.next.toAt
    have read := calls (k + 1 + 1) inner there.next.toAt (Nat.lt_succ_self _)
    rw [List.headD_cons]
    dsimp only
    split
    · unfold invocation
      rw [bind_of_ok _ (advance_at l there)]
      split
      · rename_i e failed
        rw [failed] at read
        exact bind_of_error _ read
      · rename_i p parsed
        rw [parsed] at read
        obtain ⟨k', later, past, done⟩ := read
        rw [bind_of_ok _ done, bind_of_ok _ (spanFrom_at l past name)]
        exact ⟨k', by omega, past, rfl⟩
    · exact ⟨k + 1, Nat.lt_succ_self k, place.next, rfl⟩

theorem group_follows (l : Tape tape tokens stop) {rest : List Token} (place : At tokens k (t :: rest))
    (kind : t.kind = .leftParen) {expression : Walk (Expr Located)} (turns : Nat)
    (read : Follows tokens (k + 1) (Parser.chain stop .sum rest) (expression (k + 1))) :
    Follows tokens k (Parser.primary stop (t :: rest)) (primary tape turns expression k) := by
  have demanded := demand_at l place.next.toAt .groupBody
  apply call_follows l place
  rw [bind_of_ok _ (peek_at l place), List.headD_cons, Parser.primary]
  simp only [kind]
  unfold group
  rw [bind_of_ok _ (advance_at l place)]
  split
  · rename_i e failed
    rw [failed] at demanded
    exact bind_of_error _ demanded
  · rename_i starts
    rw [starts] at demanded
    rw [bind_of_ok _ demanded]
    split
    · rename_i e failed
      rw [failed] at read
      exact bind_of_error _ read
    · rename_i p parsed
      rw [parsed] at read
      obtain ⟨k', later, past, done⟩ := read
      rw [bind_of_ok _ done]
      split
      · rename_i exhausted
        have ended : p.rest.headD stop = stop := by rw [exhausted]; rfl
        have unclosed : (p.rest.headD stop).kind ≠ .rightParen := by rw [ended, l.stops]; decide
        rw [bind_of_error _ (expect_other l past.toAt unclosed .groupEnd), ended]
        rfl
      · rename_i close after more
        have here : At tokens k' (close :: after) := more ▸ past.toAt
        split
        · rename_i closes
          rw [bind_of_ok _ (expect_at l here closes .groupEnd),
            bind_of_ok _ (spanFrom_at l here.next t)]
          exact ⟨k' + 1, by omega, here.next, rfl⟩
        · rename_i unclosed
          rw [bind_of_error _ (expect_other l here unclosed .groupEnd)]
          rfl

theorem primary_follows (l : Tape tape tokens stop) {expression : Walk (Expr Located)}
    {bound turns : Nat} (expressions : ∀ k input, At tokens k input → input.length < bound →
      Follows tokens k (Parser.chain stop .sum input) (expression k)) (place : At tokens k input)
    (within : input.length ≤ bound) (enough : bound ≤ turns) :
    Follows tokens k (Parser.primary stop input) (primary tape turns expression k) := by
  cases input with
  | nil =>
    apply call_follows l place
    have ends : (List.headD [] stop).kind = .endOfInput := l.stops
    rw [bind_of_ok _ (peek_at l place), Parser.primary]
    simp only [ends]
    rfl
  | cons t rest =>
    rw [List.length_cons] at within
    -- A name and a bracket have walks of their own. The others take one token or none.
    by_cases name : t.kind = .identifier
    · refine name_follows l place name fun k input place shorter => ?_
      have inner : ∀ k input', At tokens k input' → input'.length ≤ input.length →
          Follows tokens k (Parser.chain stop .sum input') (expression k) :=
        fun k input' place _ => expressions k input' place (by omega)
      exact arguments_follow l inner place (Nat.le_refl _) (by omega)
    by_cases paren : t.kind = .leftParen
    · exact group_follows l place paren turns (expressions (k + 1) rest place.next.toAt (by omega))
    apply call_follows l place
    rw [bind_of_ok _ (peek_at l place), List.headD_cons, Parser.primary]
    cases kind : t.kind with
    | number =>
      dsimp only
      exact literal_follows l place .number t.value fun value => .number value t.span
    | percent =>
      dsimp only
      exact literal_follows l place .percent t.value.dropLast fun value => .percent value t.span
    | hexValue =>
      dsimp only
      rw [bind_of_ok _ (advance_at l place)]
      exact ⟨k + 1, Nat.lt_succ_self k, place.next, rfl⟩
    | identifier => exact absurd kind name
    | leftParen => exact absurd kind paren
    | _ =>
      dsimp only
      rfl

end

end StyleValue.Walk

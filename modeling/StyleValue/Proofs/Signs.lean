import StyleValue.Proofs.Cursor

/-! Signs in front of an operand. The parser takes all of them, asks for an operand behind the last one and
then applies them backwards. That is the rule of the grammar, in which every sign asks for an operand, reads
it by the same rule and is applied to it at once. -/
namespace StyleValue

theorem TokenKind.startsExpression_of_isSign {kind : TokenKind} (sign : kind.isSign = true) :
    kind.startsExpression = true := by
  cases kind <;> simp_all [isSign, startsExpression]

namespace Parser

variable {stop : Token} {input : List Token}

/-- A sign in front of what is read behind it. -/
def underSign (stop op : Token) {rest : List Token} (read : Result (Expr Located) rest) :
    Result (Expr Located) (op :: rest) :=
  match demand stop (.operand op.value .unary) rest with
  | .error e => .error e
  | .ok () =>
    match read with
    | .error e => .error e
    | .ok p =>
      let applied := p.map fun e => .unary op.value e (spanned op p.last)
      .ok (applied.widen (Nat.le_succ _))

/-- A sign and an operand that is read in the same way, or else a primary expression. -/
def signed (stop : Token) (input : List Token) : Result (Expr Located) input :=
  match input with
  | [] => primary stop []
  | op :: rest =>
    if op.kind.isSign then underSign stop op (signed stop rest) else primary stop (op :: rest)

theorem demand_sign {op : Token} (sign : op.kind.isSign = true) (cause : Cause) (rest : List Token) :
    demand stop cause (op :: rest) = .ok () := by
  simp [demand, TokenKind.startsExpression_of_isSign sign]

theorem unary_unsigned (plain : input.takeWhile (·.kind.isSign) = []) :
    unary stop input = primary stop input := by
  rw [unary]
  simp only [plain, List.getLast?_nil]

theorem unary_signs {signs body : List Token} {final : Token}
    (taken : input.takeWhile (·.kind.isSign) = signs) (left : input.dropWhile (·.kind.isSign) = body)
    (within : body.length ≤ input.length) (last : signs.getLast? = some final) :
    unary stop input = match demand stop (.operand final.value .unary) body with
      | .error e => .error e
      | .ok () =>
        match primary stop body with
        | .error e => .error e
        | .ok p =>
          let signed := p.map fun e =>
            signs.foldr (fun op e => .unary op.value e (spanned op p.last)) e
          .ok (signed.widen within) := by
  subst taken left
  rw [unary]
  dsimp only
  split
  · rename_i unsigned
    cases last.symm.trans unsigned
  · rename_i sign same
    cases last.symm.trans same
    rfl

/-- Of the signs at the front, the first one is applied last, and it is never the one that misses its
operand if there is another. -/
theorem unary_sign {op : Token} (sign : op.kind.isSign = true) (rest : List Token) :
    unary stop (op :: rest) = underSign stop op (unary stop rest) := by
  have taken : (op :: rest).takeWhile (·.kind.isSign) = op :: rest.takeWhile (·.kind.isSign) := by
    simp [sign]
  have left : (op :: rest).dropWhile (·.kind.isSign) = rest.dropWhile (·.kind.isSign) := by simp [sign]
  have within : (rest.dropWhile (·.kind.isSign)).length ≤ rest.length :=
    (List.dropWhile_sublist _).length_le
  unfold underSign
  cases last : (rest.takeWhile (·.kind.isSign)).getLast? with
  | none =>
    have plain := List.getLast?_eq_none_iff.mp last
    have all : rest.dropWhile (·.kind.isSign) = rest := by
      have parts := List.takeWhile_append_dropWhile (p := (·.kind.isSign)) (l := rest)
      rwa [plain] at parts
    rw [plain] at taken
    rw [all] at left
    rw [unary_unsigned plain, unary_signs taken left (Nat.le_succ _) rfl]
    rfl
  | some final =>
    have more : demand stop (.operand op.value .unary) rest = .ok () := by
      cases rest with
      | nil => cases last
      | cons t rest =>
        cases next : t.kind.isSign with
        | true => exact demand_sign next _ rest
        | false => simp [next] at last
    have same : (op :: rest.takeWhile (·.kind.isSign)).getLast? = some final := by
      simp [List.getLast?_cons, last]
    rw [more, unary_signs rfl rfl within last,
      unary_signs taken left (Nat.le_succ_of_le within) same]
    dsimp only
    cases demand stop (.operand final.value .unary) (rest.dropWhile (·.kind.isSign)) with
    | error e => rfl
    | ok _ => cases primary stop (rest.dropWhile (·.kind.isSign)) <;> rfl

theorem unary_eq_signed (stop : Token) (input : List Token) : unary stop input = signed stop input := by
  induction input with
  | nil => exact unary_unsigned rfl
  | cons op rest ih =>
    rw [signed]
    split
    · rename_i sign
      rw [unary_sign sign, ih]
    · rename_i plain
      exact unary_unsigned (by simp [plain])

/-- Of two signs in front of nothing, the second one misses its operand. -/
example : signed ⟨.endOfInput, [], none⟩ [⟨.plus, ['+'], none⟩, ⟨.minus, ['-'], none⟩] =
    .error ⟨.operand ['-'] .unary, ⟨.endOfInput, [], none⟩⟩ := rfl

end Parser

namespace Walk

variable {tape : List Token} {k turns : Nat} {t : Token} {h : Halt}

/-- The same rule with the cursor. A sign is applied when the walk has come back from its operand. -/
def signed (tape : List Token) (primary : Walk (Expr Located)) : Nat → Walk (Expr Located)
  | 0 => halt (.trapped .exhausted)
  | turns + 1 => do
    let t ← peek tape
    if t.kind.isSign then
      let op ← advance tape
      demand tape (.operand op.value .unary)
      let e ← signed tape primary turns
      let span ← spanFrom tape op
      return .unary op.value e span
    else primary

/-- An operand behind signs that have been taken. -/
def behind (tape ops : List Token) (operand : Walk (Expr Located)) : Walk (Expr Located) :=
  match ops.getLast? with
  | none => operand
  | some op => do
    demand tape (.operand op.value .unary)
    let e ← operand
    applySigns tape ops e

theorem unary_eq_behind (primary : Walk (Expr Located)) : unary tape turns primary =
    call tape (do
      let ops ← loop (signTurn tape) turns []
      behind tape ops primary) := rfl

theorem behind_concat (ops : List Token) (op : Token) (operand : Walk (Expr Located)) :
    behind tape (ops ++ [op]) operand = behind tape [op] operand >>= applySigns tape ops := by
  simp [behind, applySigns]

theorem demand_starts (seen : look tape k = .ok t) (starts : t.kind.startsExpression = true)
    (cause : Cause) : demand tape cause k = .ok ((), k) := by
  unfold demand
  rw [bind_of_ok _ (peek_ok seen), if_pos starts]
  rfl

theorem demand_error (blind : look tape k = .error h) (cause : Cause) :
    demand tape cause k = .error h := by
  unfold demand
  exact bind_of_error _ (peek_error blind)

theorem behind_starts (seen : look tape k = .ok t) (starts : t.kind.startsExpression = true)
    (ops : List Token) (operand : Walk (Expr Located)) :
    behind tape ops operand k = (operand >>= applySigns tape ops) k := by
  unfold behind
  cases last : ops.getLast? with
  | none =>
    rw [List.getLast?_eq_none_iff.mp last]
    exact congrFun (bind_pure operand).symm k
  | some op => exact bind_of_ok _ (demand_starts seen starts _)

theorem behind_error (blind : look tape k = .error h) (ops : List Token) {operand : Walk (Expr Located)}
    (halted : operand k = .error h) : behind tape ops operand k = .error h := by
  unfold behind
  cases ops.getLast? with
  | none => exact halted
  | some op => exact bind_of_error _ (demand_error blind _)

theorem demand_stays (tape : List Token) (cause : Cause) (k : Nat) :
    demand tape cause k = .ok ((), k) ∨ ∃ h, demand tape cause k = .error h := by
  cases seen : look tape k with
  | error h => exact .inr ⟨h, demand_error seen cause⟩
  | ok t =>
    unfold demand
    rw [bind_of_ok _ (peek_ok seen)]
    split
    · exact .inl rfl
    · exact .inr ⟨_, rfl⟩

theorem behind_congr (ops : List Token) {m m' : Walk (Expr Located)} (same : m k = m' k) :
    behind tape ops m k = behind tape ops m' k := by
  unfold behind
  cases ops.getLast? with
  | none => exact same
  | some op =>
    dsimp only
    -- What the sign asks for is only looked at, so the operand is read from `k` on.
    rcases demand_stays tape (.operand op.value .unary) k with done | ⟨h, halted⟩
    · rw [bind_of_ok _ done, bind_of_ok _ done]
      exact bind_of_eq _ same
    · rw [bind_of_error _ halted, bind_of_error _ halted]

theorem advance_sign (seen : look tape k = .ok t) (sign : t.kind.isSign = true) :
    advance tape k = .ok (t, k + 1) := by
  have word : t.kind ≠ .endOfInput := by
    intro ends
    rw [ends] at sign
    cases sign
  unfold advance
  rw [seen]
  simp [Except.map, word]

theorem signed_sign (seen : look tape k = .ok t) (sign : t.kind.isSign = true)
    (primary : Walk (Expr Located)) : signed tape primary (turns + 1) k =
      behind tape [t] (signed tape primary turns) (k + 1) := by
  rw [signed, bind_of_ok _ (peek_ok seen), if_pos sign, bind_of_ok _ (advance_sign seen sign)]
  simp [behind, applySigns]

theorem signed_plain (seen : look tape k = .ok t) (plain : t.kind.isSign = false)
    (primary : Walk (Expr Located)) : signed tape primary (turns + 1) k = primary k := by
  rw [signed, bind_of_ok _ (peek_ok seen), plain]
  rfl

theorem lt_length_of_look (seen : look tape k = .ok t) : k < tape.length := by
  unfold look at seen
  split at seen
  · cases seen
  · rename_i found
    exact (List.getElem?_eq_some_iff.mp found).1

/-- Signs that have been taken stand in front of the others in the same way as each of those stands in front
of the next one. -/
theorem loop_signs (primary : Walk (Expr Located)) (enough : tape.length - k < turns)
    (ops : List Token) :
    (do
      let all ← loop (signTurn tape) turns ops
      behind tape all primary : Walk (Expr Located)) k =
    behind tape ops (signed tape primary turns) k := by
  -- A turn of the loop moves one sign from the walk ahead to the list, so the list is any list.
  induction turns generalizing k ops with
  | zero => exact absurd enough (Nat.not_lt_zero _)
  | succ turns ih =>
    cases seen : look tape k with
    | error h =>
      have turn : signTurn tape ops k = .error h := bind_of_error _ (peek_error seen)
      have inner : signed tape primary (turns + 1) k = .error h := bind_of_error _ (peek_error seen)
      rw [bind_of_error _ (loop_halts turn), behind_error seen ops inner]
    | ok t =>
      cases sign : t.kind.isSign with
      | false =>
        have turn : signTurn tape ops k = .ok (none, k) := by
          unfold signTurn
          rw [bind_of_ok _ (peek_ok seen), sign]
          rfl
        rw [bind_of_ok _ (loop_ends turn)]
        exact (behind_congr ops (signed_plain seen sign primary)).symm
      | true =>
        have turn : signTurn tape ops k = .ok (some (ops ++ [t]), k + 1) := by
          unfold signTurn
          rw [bind_of_ok _ (peek_ok seen), if_pos sign, bind_of_ok _ (advance_sign seen sign)]
          rfl
        have inside := lt_length_of_look seen
        have starts := TokenKind.startsExpression_of_isSign sign
        calc (do
              let all ← loop (signTurn tape) (turns + 1) ops
              behind tape all primary : Walk (Expr Located)) k
            = (do
              let all ← loop (signTurn tape) turns (ops ++ [t])
              behind tape all primary : Walk (Expr Located)) (k + 1) := bind_of_eq _ (loop_goes_on turn)
          _ = behind tape (ops ++ [t]) (signed tape primary turns) (k + 1) := ih (by omega) _
          _ = (behind tape [t] (signed tape primary turns) >>= applySigns tape ops) (k + 1) := by
            rw [behind_concat]
          _ = (signed tape primary (turns + 1) >>= applySigns tape ops) k :=
            bind_of_eq _ (signed_sign seen sign primary).symm
          _ = behind tape ops (signed tape primary (turns + 1)) k :=
            (behind_starts seen starts ops _).symm

theorem unary_eq_signed (primary : Walk (Expr Located)) (enough : tape.length < turns) :
    unary tape turns primary = call tape (signed tape primary turns) := by
  have body : (do
      let ops ← loop (signTurn tape) turns []
      behind tape ops primary : Walk (Expr Located)) = signed tape primary turns := by
    funext k
    exact loop_signs primary (by omega) []
  rw [unary_eq_behind, body]

end Walk

/-- Taking all signs and applying them backwards is the recursive rule, at any place of any list of tokens:
the same tree with the same spans, up to the same token, or the same error. So it is for the parser, with the
tokens from `k` on, and for the walk with its cursor at `k`, whatever a primary expression is. -/
theorem signs_recursive (tape : List Token) (k spare : Nat) :
    let turns := tape.length + 1 + spare
    (∀ stop, Parser.unary stop (tape.drop k) = Parser.signed stop (tape.drop k)) ∧
      ∀ primary, Walk.unary tape turns primary k = Walk.call tape (Walk.signed tape primary turns) k := by
  intro turns
  refine ⟨fun stop => Parser.unary_eq_signed stop _, fun primary => ?_⟩
  rw [Walk.unary_eq_signed primary (by omega)]

end StyleValue

import StyleValue.Proofs.Walks

/-! The parser goes on. A walk with the cursor does on every tape what the parser does on the tokens in front
of the end of the input, and comes to none of its traps. -/
namespace StyleValue

namespace Walk

section

variable {α : Type} {tape tokens input : List Token} {stop : Token} {k : Nat}

theorem expression_follows (l : Tape tape tokens stop) {depth : Nat} (place : At tokens k input)
    (enough : input.length + 2 ≤ depth) :
    Follows tokens k (Parser.chain stop .sum input) (expression tape depth k) := by
  induction depth generalizing k input with
  | zero => exact absurd enough (Nat.not_succ_le_zero _)
  | succ depth ih =>
    -- An expression inside of this one stands behind a bracket, so it has fewer tokens.
    have expressions : ∀ k input', At tokens k input' → input'.length < input.length →
        Follows tokens k (Parser.chain stop .sum input') (expression tape depth k) :=
      fun k input' place shorter => ih place (by omega)
    have turns : input.length < depth := by omega
    refine chain_follows l (fun k body place within => ?_) place (Nat.le_refl _) turns
    rw [Parser.operand]
    refine chain_follows l (fun k body place within => ?_) place within turns
    rw [Parser.operand]
    refine unary_follows l (fun k body place within => ?_) place within turns
    exact primary_follows l expressions place within (Nat.le_of_lt turns)

theorem statements_follow (l : Tape tape tokens stop) {depth : Nat} (deep : tokens.length + 2 ≤ depth)
    {turns : Nat} (place : At tokens k input) (enough : input.length < turns)
    (body : List (Statement Located)) :
    loop (statementTurn tape depth) turns body k = match Parser.statements stop input with
      | .ok others => .ok (body ++ others, tokens.length)
      | .error e => .error (.refused e) := by
  induction turns generalizing k input body with
  | zero => exact absurd enough (Nat.not_lt_zero _)
  | succ turns ih =>
    have size := place.length_eq
    cases input with
    | nil =>
      have turn : statementTurn tape depth body k = .ok (none, k) := by
        unfold statementTurn
        rw [bind_of_ok _ (peek_at l place), List.headD_nil, if_pos l.stops]
        rfl
      have reached : k = tokens.length := by simpa using size
      rw [loop_ends turn, Parser.statements, reached]
      simp
    | cons t rest =>
      have word : t.kind ≠ .endOfInput := l.words t (List.mem_of_getElem? place.head)
      have turn : statementTurn tape depth body k = (do
          let e ← expression tape depth
          let span ← spanFrom tape t
          return some (body ++ [⟨e, span⟩]) : Walk (Option (List (Statement Located)))) k := by
        unfold statementTurn
        rw [bind_of_ok _ (peek_at l place), List.headD_cons, if_neg word]
      have enoughDepth : (t :: rest).length + 2 ≤ depth := by omega
      have read := expression_follows l place enoughDepth
      rw [Parser.statements]
      cases parsed : Parser.chain stop .sum (t :: rest) with
      | error e =>
        rw [parsed] at read
        rw [bind_of_error _ read] at turn
        exact loop_halts turn
      | ok p =>
        rw [parsed] at read
        obtain ⟨k', later, past, done⟩ := read
        rw [bind_of_ok _ done, bind_of_ok _ (spanFrom_at l past t)] at turn
        have fewer := p.shorter
        rw [loop_goes_on turn, ih past.toAt (by omega)]
        dsimp only
        cases Parser.statements stop p.rest with
        | error e => rfl
        | ok others => simp

theorem program_follows (l : Tape tape tokens stop) {depth : Nat} (deep : tokens.length + 2 ≤ depth) :
    program tape depth 0 = match Parser.program stop tokens with
      | .ok p => .ok (p, tokens.length)
      | .error e => .error (.refused e) := by
  have first : At tokens 0 tokens := ⟨Nat.zero_le _, rfl⟩
  have read := statements_follow l deep first (by omega : tokens.length < depth) []
  unfold program Parser.program
  rw [bind_of_ok _ (peek_at l first)]
  cases parsed : Parser.statements stop tokens with
  | error e =>
    rw [parsed] at read
    exact bind_of_error _ read
  | ok body =>
    rw [parsed] at read
    rw [bind_of_ok _ read]
    cases tokens with
    | nil =>
      rw [Parser.statements] at parsed
      cases parsed
      rfl
    | cons t rest =>
      have filled : ([] ++ body).isEmpty = false := by
        rw [Parser.statements] at parsed
        split at parsed
        · cases parsed
        · split at parsed
          · cases parsed
          · cases parsed
            rfl
      have ended : (t :: rest)[rest.length]? = some ((t :: rest).getLast (List.cons_ne_nil t rest)) := by
        rw [← List.getLast?_eq_some_getLast, List.getLast?_eq_getElem?]
        rfl
      have past : Past (t :: rest) (t :: rest).length _ [] :=
        ⟨⟨Nat.le_refl _, List.drop_length⟩, rest.length, rfl, ended⟩
      rw [filled, if_neg Bool.false_ne_true, bind_of_ok _ (spanFrom_at l past _),
        List.getLast?_eq_some_getLast (List.cons_ne_nil t rest)]
      rfl

/-- The walks that have to take a token. -/
def methods (tape : List Token) (depth : Nat) (callee : Text) : List (Walk (Expr Located)) :=
  let operand := primary tape depth (expression tape depth)
  [expression tape depth, chain tape depth .product (unary tape depth operand),
    unary tape depth operand, operand, argument tape callee (expression tape depth)]

/-- A walk from `k` is refused a token, or it has come further, but not behind `bound`. -/
def Settles (bound k : Nat) (walked : Except Halt (α × Nat)) : Prop :=
  (∃ e, walked = .error (.refused e)) ∨ ∃ a k', walked = .ok (a, k') ∧ k < k' ∧ k' ≤ bound

theorem Follows.settles {read : Parser.Result α input} {walked : Except Halt (α × Nat)}
    (follows : Follows tokens k read walked) : Settles tokens.length k walked := by
  cases read with
  | error e => exact .inl ⟨e, follows⟩
  | ok p =>
    obtain ⟨k', later, past, done⟩ := follows
    exact .inr ⟨p.value, k', done, later, past.inside⟩

theorem methods_settle (l : Tape tape tokens stop) {depth : Nat} (deep : tokens.length + 2 ≤ depth)
    (callee : Text) (inside : k ≤ tokens.length) :
    ∀ m ∈ methods tape depth callee, Settles tokens.length k (m k) := by
  have expressions : ∀ k input, At tokens k input → input.length ≤ tokens.length →
      Follows tokens k (Parser.chain stop .sum input) (expression tape depth k) :=
    fun k input place within => expression_follows l place (by omega)
  have turns : tokens.length < depth := by omega
  have primaries : ∀ k input, At tokens k input → input.length ≤ tokens.length →
      Follows tokens k (Parser.primary stop input)
        (primary tape depth (expression tape depth) k) := fun k input place within =>
    primary_follows l (fun k input place shorter => expressions k input place (Nat.le_of_lt shorter))
      place within (Nat.le_of_lt turns)
  have unaries : ∀ k input, At tokens k input → input.length ≤ tokens.length →
      Follows tokens k (Parser.unary stop input)
        (unary tape depth (primary tape depth (expression tape depth)) k) :=
    fun k input place within => unary_follows l primaries place within turns
  have here : At tokens k (tokens.drop k) := ⟨inside, rfl⟩
  have within : (tokens.drop k).length ≤ tokens.length := by
    rw [List.length_drop]
    omega
  simp only [methods, List.forall_mem_cons, List.not_mem_nil, false_implies, implies_true, and_true]
  refine ⟨(expressions k _ here within).settles, ?_, (unaries k _ here within).settles,
    (primaries k _ here within).settles, ?_⟩
  · have products : ∀ k input, At tokens k input → input.length ≤ tokens.length →
        Follows tokens k (Parser.operand stop .product input)
          (unary tape depth (primary tape depth (expression tape depth)) k) := by
      intro k input place within
      rw [Parser.operand]
      exact unaries k input place within
    exact (chain_follows l products here within turns).settles
  · rcases argument_walks l here (expressions k _ here within) with
      ⟨e, _, halted⟩ | ⟨p, _, _, k', later, past, done⟩
    · exact .inl ⟨e, halted⟩
    · exact .inr ⟨p.value, k', done, later, past.inside⟩

end

end Walk

theorem tapeOf_tape (ts : List Token) :
    Tape (tapeOf ts) (Significant.ofTokens ts).tokens (Significant.ofTokens ts).stop := by
  refine ⟨Significant.kind_tokens, Significant.kind_stop ts, ?_⟩
  unfold tapeOf Significant.ofTokens
  dsimp only
  generalize endToken _ = ending
  have parts := (List.takeWhile_append_dropWhile
    (p := fun t : Token => t.kind != .endOfInput) (l := withoutLayout ts)).symm
  cases behind : (withoutLayout ts).dropWhile fun t => t.kind != .endOfInput with
  | nil =>
    rw [behind, List.append_nil] at parts
    have unended : (withoutLayout ts).getLast?.any (·.kind = .endOfInput) = false := by
      cases last : (withoutLayout ts).getLast? with
      | none => rfl
      | some t =>
        have word : t ∈ (Significant.ofTokens ts).tokens := by
          change t ∈ (withoutLayout ts).takeWhile _
          rw [← parts]
          exact List.mem_of_getLast? last
        simpa using Significant.kind_tokens t word
    rw [unended, if_neg Bool.false_ne_true]
    exact ⟨[], congrArg (· ++ [ending]) parts⟩
  | cons t rest =>
    rw [behind] at parts
    split
    · exact ⟨rest, parts⟩
    · refine ⟨rest ++ [ending], ?_⟩
      rw [List.headD_cons, ← List.cons_append, ← List.append_assoc, ← parts]

/-- The traps are there: a walk that is allowed no turn is caught. -/
example : Walk.program (tapeOf [⟨.number, ['7'], none⟩]) 0 0 = .error (.trapped .exhausted) := rfl

end StyleValue

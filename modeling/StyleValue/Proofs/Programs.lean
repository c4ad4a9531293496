import StyleValue.Proofs.Descent

/-! Whole programs: what the parser returns reads all the tokens, each statement taking as many as it
can, and where the parser fails the scan from the start fails alike. -/
namespace StyleValue

/-- Statements one behind another, each of them ending where the next one begins and no earlier. -/
inductive ReadsAll : List (Statement Located) → List Token → Prop where
  | nil : ReadsAll [] []
  | cons {e : Expr Located} {ts us : List Token} {others : List (Statement Located)} :
      Reads (.expr (.chain .sum) e) ts → Stops (.chain .sum) e us → ReadsAll others us →
      ReadsAll (⟨e, covered ts⟩ :: others) (ts ++ us)

namespace ReadsAll

theorem converts {body : List (Statement Located)} {ts : List Token} (h : ReadsAll body ts) :
    ∀ t ∈ ts, t.converts = true := by
  induction h with
  | nil => simp
  | cons read _ _ ih => exact List.forall_mem_append.mpr ⟨read.converts, ih⟩

end ReadsAll

namespace Frontier

/-- Outside of all brackets, a token that does not go on with the expression before it is treated as
the first of all. -/
theorem scan_restart {stop : Token} {e : Expr Located} {rest : List Token}
    (stops : Stops (.chain .sum) e rest) (more : rest ≠ []) :
    (Frontier.mk [] (.behind e)).scan stop rest = start.scan stop rest := by
  cases rest with
  | nil => exact absurd rfl more
  | cons t rest =>
    have nothing := (stops t rfl).1
    have same : (Frontier.mk [] (.behind e)).next? t = start.next? t := by
      rw [next?_stops stops]
      unfold goesOn
      rw [if_neg (by simpa only [Rank.takes, Bool.not_eq_true] using nothing)]
      rfl
    simp only [scan, same, missing_behind]
    rfl

end Frontier

namespace Parser

variable {stop : Token}

theorem sum_refused {t : Token} (rest : List Token) (starts : t.kind.startsExpression = false) :
    chain stop .sum (t :: rest) = .error ⟨.expression, t⟩ := by
  have unsigned : t.kind.isSign = false := by
    cases kind : t.kind <;> simp_all [TokenKind.startsExpression, TokenKind.isSign]
  have refused : primary stop (t :: rest) = .error ⟨.expression, t⟩ := by
    rw [primary]
    cases kind : t.kind <;> simp_all [TokenKind.startsExpression]
  have unary : unary stop (t :: rest) = .error ⟨.expression, t⟩ := by
    rw [unary]
    simp [unsigned, refused]
  rw [chain, operand, chain, operand, unary]

theorem statements_follow (ends : stop.kind = .endOfInput) (input : List Token) :
    match statements stop input with
    | .ok body => ReadsAll body input
    | .error e => Frontier.start.scan stop input = .error e := by
  induction size : input.length using Nat.strongRecOn generalizing input with
  | ind n ih =>
    cases input with
    | nil =>
      rw [statements]
      exact .nil
    | cons t rest =>
      have read := sum_follows ends (t :: rest)
      rw [statements]
      cases parsed : chain stop .sum (t :: rest) with
      | error e =>
        rw [parsed] at read
        cases starts : t.kind.startsExpression with
        | true => exact read ⟨t, rest, rfl, starts, by simp⟩ _ rfl
        | false =>
          rw [sum_refused rest starts] at parsed
          cases parsed
          have none : Frontier.start.next? t = none := by
            change Frontier.opens [] t = none
            unfold Frontier.opens
            cases kind : t.kind <;> simp_all [TokenKind.startsExpression]
          simp only [Frontier.scan, none]
          rfl
      | ok p =>
        rw [parsed] at read
        obtain ⟨ts, same, last, tree, stops⟩ := read
        have later := ih p.rest.length (size ▸ p.shorter) p.rest rfl
        have whole : covered ts = spanned t p.last := by
          obtain ⟨u, us, rfl, _⟩ := tree.starts
          have head : t = u := (List.cons.inj same).1
          exact covered_eq (congrArg some head.symm) last
        dsimp only
        cases others : statements stop p.rest with
        | error e =>
          rw [others] at later
          have more : p.rest ≠ [] := by
            intro exhausted
            rw [exhausted, statements] at others
            cases others
          exact (tree.scan stop rfl same).trans ((Frontier.scan_restart stops more).trans later)
        | ok body =>
          rw [others] at later
          have all := ReadsAll.cons tree stops later
          rw [← same, whole] at all
          exact all

/-- A program covers its tokens. Without tokens it is where the input ends. -/
theorem program_follows (ends : stop.kind = .endOfInput) (input : List Token) :
    match program stop input with
    | .ok p => ReadsAll p.body input ∧ p.note = if input = [] then stop.span else covered input
    | .error e => Frontier.start.scan stop input = .error e := by
  have follow := statements_follow ends input
  unfold program
  cases read : statements stop input with
  | error e => simpa [read] using follow
  | ok body =>
    rw [read] at follow
    cases last : input.getLast? with
    | none => simp_all [List.getLast?_eq_none_iff]
    | some t =>
      obtain ⟨first, rest, rfl⟩ : ∃ first rest, input = first :: rest := by
        cases input with
        | nil => cases last
        | cons first rest => exact ⟨first, rest, rfl⟩
      exact ⟨follow, by rw [if_neg (List.cons_ne_nil _ _), covered_eq rfl last]; rfl⟩

end Parser

end StyleValue

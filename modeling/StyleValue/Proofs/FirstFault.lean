import StyleValue.Proofs.Acceptance

/-! Where the parser fails. All tokens in front of the one that an error names can be part of a
program, and there is exactly one reason why that token cannot be the next. -/
namespace StyleValue

open Grammar

theorem prefix_of_split {ts pre post : List Token} {s t : Token}
    (split : ts ++ [s] = pre ++ t :: post) : pre <+: ts := by
  have lengths := congrArg List.length split
  simp only [List.length_append, List.length_cons, List.length_nil] at lengths
  exact List.prefix_of_prefix_length_le ⟨_, split.symm⟩ (List.prefix_append _ _) (by omega)

/-- A scan fails behind the tokens that it passed over: at the end of the input, at a token that leads
nowhere or at a literal that does not convert. -/
theorem Frontier.scan_fails {stop : Token} {f : Frontier} {input : List Token} {e : SyntaxError}
    (failed : f.scan stop input = .error e) :
    ∃ (pre post : List Token) (g : Frontier), input ++ [stop] = pre ++ e.token :: post ∧
      f.run pre = some g ∧ (∀ t ∈ pre, t.converts = true) ∧
      (pre = input ∧ e = ⟨g.missing, stop⟩ ∧ g.final = false ∨
        e.token ∈ input ∧ e.cause = g.missing ∧ g.next? e.token = none ∨
        e.token ∈ input ∧ e.cause = e.token.fault ∧ (∃ h, g.next? e.token = some h) ∧
          e.token.converts = false) := by
  induction input generalizing f with
  | nil =>
    unfold scan at failed
    split at failed
    · cases failed
    · rename_i unfinished
      cases failed
      exact ⟨[], [], f, rfl, rfl, by simp, .inl ⟨rfl, rfl, by simpa using unfinished⟩⟩
  | cons t rest ih =>
    unfold scan at failed
    cases step : f.next? t with
    | none =>
      rw [step] at failed
      cases failed
      exact ⟨[], rest ++ [stop], f, rfl, rfl, by simp, .inr (.inl ⟨by simp, rfl, step⟩)⟩
    | some h =>
      rw [step] at failed
      dsimp only at failed
      split at failed
      · rename_i converts
        obtain ⟨pre, post, g, split, passed, all, reason⟩ := ih failed
        refine ⟨t :: pre, post, g, congrArg (t :: ·) split, (run_cons step).trans passed,
          List.forall_mem_cons.mpr ⟨converts, all⟩, ?_⟩
        rcases reason with ⟨rfl, reason⟩ | ⟨member, reason⟩ | ⟨member, reason⟩
        · exact .inl ⟨rfl, reason⟩
        · exact .inr (.inl ⟨List.mem_cons_of_mem t member, reason⟩)
        · exact .inr (.inr ⟨List.mem_cons_of_mem t member, reason⟩)
      · rename_i fault
        cases failed
        exact ⟨[], rest ++ [stop], f, rfl, rfl, by simp,
          .inr (.inr ⟨by simp, rfl, ⟨h, step⟩, by simpa using fault⟩)⟩

/-- The reasons why a token cannot be the next one behind `pre`. -/
inductive Obstacle where
  | ended
  | digits
  | kind
  deriving DecidableEq, Repr

/-- What each reason says, of a token behind the first tokens `pre` of `ts`. -/
def Obstacle.Holds (ts pre : List Token) (t : Token) : Obstacle → Prop
  | ended => t.kind = .endOfInput ∧ pre = ts ∧ ¬Sentence (ts.map Token.kind)
  | digits => (t.kind = .number ∨ t.kind = .percent) ∧ t.converts = false ∧
      Viable ((pre ++ [t]).map Token.kind)
  | kind => t.kind ≠ .endOfInput ∧ ¬Viable ((pre ++ [t]).map Token.kind)

theorem Obstacle.holds_unique {ts pre : List Token} {t : Token} {o o' : Obstacle}
    (one : o.Holds ts pre t) (other : o'.Holds ts pre t) : o = o' := by
  cases o <;> cases o' <;> unfold Holds at one other <;> simp_all

theorem digits_kind {t : Token} (refused : t.converts = false) : t.kind = .number ∨ t.kind = .percent := by
  by_contra other
  rw [not_or] at other
  simp [converts_of_kind other.1 other.2] at refused

theorem viable_snoc_iff {pre : List Token} {g : Frontier} (passed : Frontier.start.run pre = some g)
    (t : Token) : Viable ((pre ++ [t]).map Token.kind) ↔ ∃ h, g.next? t = some h := by
  rw [viable_iff_run, Frontier.run_trans passed]
  cases step : g.next? t <;> simp [Frontier.run, step]

theorem sentence_iff_final {ts : List Token} {g : Frontier}
    (passed : Frontier.start.run ts = some g) (converts : ∀ t ∈ ts, t.converts = true) :
    Sentence (ts.map Token.kind) ↔ g.final = true := by
  constructor
  · intro derived
    obtain ⟨g', passed', ended⟩ := run_of_sentence derived converts
    rw [passed] at passed'
    cases passed'
    exact ended
  · exact sentence_of_run passed

/-- Whichever way a scan fails, there is an obstacle. -/
theorem Obstacle.of_scan {stop : Token} (ends : stop.kind = .endOfInput) {ts pre : List Token}
    (inside : ∀ t ∈ ts, t.kind ≠ .endOfInput) {g : Frontier} {e : SyntaxError}
    (passed : Frontier.start.run pre = some g) (converts : ∀ t ∈ pre, t.converts = true)
    (reason : pre = ts ∧ e = ⟨g.missing, stop⟩ ∧ g.final = false ∨
      e.token ∈ ts ∧ e.cause = g.missing ∧ g.next? e.token = none ∨
      e.token ∈ ts ∧ e.cause = e.token.fault ∧ (∃ h, g.next? e.token = some h) ∧
        e.token.converts = false) : ∃ o : Obstacle, o.Holds ts pre e.token := by
  rcases reason with ⟨rfl, rfl, unfinished⟩ | ⟨member, _, nowhere⟩ | ⟨member, _, step, refused⟩
  · refine ⟨.ended, ends, rfl, fun derived => ?_⟩
    simp [(sentence_iff_final passed converts).mp derived] at unfinished
  · refine ⟨.kind, inside _ member, fun viable => ?_⟩
    obtain ⟨h, step⟩ := (viable_snoc_iff passed _).mp viable
    simp [nowhere] at step
  · exact ⟨.digits, digits_kind refused, refused, (viable_snoc_iff passed _).mpr step⟩

namespace Parser

/-- An error names the first token that cannot be the next one, and one reason for it applies. -/
theorem program_fails {stop : Token} (ends : stop.kind = .endOfInput) {ts : List Token}
    (inside : ∀ t ∈ ts, t.kind ≠ .endOfInput) {e : SyntaxError}
    (failed : program stop ts = .error e) :
    ∃ pre post : List Token, ts ++ [stop] = pre ++ e.token :: post ∧
      Viable (pre.map Token.kind) ∧ (∀ t ∈ pre, t.converts = true) ∧
      ∃ o : Obstacle, o.Holds ts pre e.token := by
  have follow := program_follows ends ts
  rw [failed] at follow
  obtain ⟨pre, post, g, split, passed, converts, reason⟩ := Frontier.scan_fails follow
  exact ⟨pre, post, split, (viable_iff_run pre).mpr ⟨g, passed⟩, converts,
    Obstacle.of_scan ends inside passed converts reason⟩

end Parser

/-- The end of the input is the obstacle if and only if further tokens could have made a program. -/
theorem Obstacle.ended_iff {stop t : Token} {ts pre post : List Token} {o : Obstacle}
    (ends : stop.kind = .endOfInput) (split : ts ++ [stop] = pre ++ t :: post)
    (converts : ∀ u ∈ pre, u.converts = true) (viable : Viable (pre.map Token.kind))
    (holds : o.Holds ts pre t) : t.kind = .endOfInput ↔
      ¬Sentence (ts.map Token.kind) ∧ (∀ u ∈ ts, u.converts = true) ∧
        Viable (ts.map Token.kind) := by
  constructor
  · intro named
    cases o with
    | ended =>
      obtain ⟨_, rfl, underived⟩ := holds
      exact ⟨underived, converts, viable⟩
    | digits => rcases holds.1 with kind | kind <;> simp [kind] at named
    | kind => exact absurd named holds.1
  · rintro ⟨_, whole, completes⟩
    by_contra unended
    -- A token other than the end is one of `ts`, all of which convert and can be completed.
    have within : ∃ init, ts = pre ++ t :: init := by
      rcases List.eq_nil_or_concat post with rfl | ⟨init, last, rfl⟩
      · have same := (List.append_inj' split rfl).2
        cases same
        exact absurd ends unended
      · rw [List.concat_eq_append, ← List.cons_append, ← List.append_assoc] at split
        exact ⟨init, (List.append_inj' split rfl).1⟩
    obtain ⟨init, rfl⟩ := within
    cases o with
    | ended => exact unended holds.1
    | digits =>
      have converting := whole t (by simp)
      simp [holds.2.1] at converting
    | kind =>
      rw [List.append_cons, List.map_append] at completes
      exact holds.2 completes.of_append

/-- The tokens in front of the one that an error names are viable and convert, and exactly one obstacle
keeps that token from being the next. The error is at the end of the input if and only if further tokens
could have made a program of the input. -/
theorem parseTokens_fails_first {ts : List Token} {e : SyntaxError}
    (failed : parseTokens ts = .error e) :
    (Significant.ofTokens ts).stop.kind = .endOfInput ∧
    (∃ pre post : List Token,
      (Significant.ofTokens ts).tokens ++ [(Significant.ofTokens ts).stop] = pre ++ e.token :: post ∧
      Viable (pre.map Token.kind) ∧ (∀ t ∈ pre, t.converts = true) ∧
      ∃! o : Obstacle, o.Holds (Significant.ofTokens ts).tokens pre e.token) ∧
    ∀ source : Text, (e.report source).atEnd = true ↔
      ¬Sentence ((Significant.ofTokens ts).tokens.map Token.kind) ∧
        (∀ t ∈ (Significant.ofTokens ts).tokens, t.converts = true) ∧
        Viable ((Significant.ofTokens ts).tokens.map Token.kind) := by
  have ends := Significant.kind_stop ts
  obtain ⟨pre, post, split, viable, converts, o, holds⟩ :=
    Parser.program_fails ends Significant.kind_tokens failed
  refine ⟨ends, ⟨pre, post, split, viable, converts, o, holds, fun _ other =>
    Obstacle.holds_unique other holds⟩, fun source => ?_⟩
  have atEnd : (e.report source).atEnd = true ↔ e.token.kind = .endOfInput := decide_eq_true_iff
  rw [atEnd]
  exact Obstacle.ended_iff ends split converts viable holds

/-- A call that is not closed fails at the end of the input, so its tokens can be completed. -/
theorem parseTokens_fails_first_call :
    let ts : List Token := [⟨.identifier, ['f'], none⟩, ⟨.leftParen, ['('], none⟩]
    let e : SyntaxError := ⟨.argument ['f'], ⟨.endOfInput, [], none⟩⟩
    parseTokens ts = .error e ∧ (e.report []).atEnd = true ∧ Viable (ts.map Token.kind) := by
  have failed : parseTokens [⟨.identifier, ['f'], none⟩, ⟨.leftParen, ['('], none⟩] =
      .error ⟨.argument ['f'], ⟨.endOfInput, [], none⟩⟩ := by cbv
  have atEnd := ((parseTokens_fails_first failed).2.2 []).mp rfl
  exact ⟨failed, rfl, atEnd.2.2⟩

end StyleValue

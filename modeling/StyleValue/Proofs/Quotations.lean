import StyleValue.Proofs.Likeness
import StyleValue.Proofs.FirstFault
import StyleValue.Proofs.Numerals
import StyleValue.Proofs.Tiling

/-! What errors quote. Besides the token at which it shows, an error names at most one word of the text,
an operator or a callee that was read before. The lexer could place it, so no line ends in it. -/
namespace StyleValue

/-- The word that a cause names, if it names one. -/
def Cause.word? : Cause → Option Text
  | .operand operator _ => some operator
  | .argument callee | .callEnd callee => some callee
  | .groupBody | .groupEnd | .expression | .numeral _ _ => none

def Phase.word? : Phase → Option Text
  | .operand missing => missing.word?
  | .arguments callee => some callee
  | .name text => some text
  | .fresh | .complete => none

structure Frontier.Keeps (P : Text → Prop) (f : Frontier) : Prop where
  callees : ∀ callee, Bracket.call callee ∈ f.brackets → P callee
  phase : ∀ word ∈ f.phase.word?, P word

namespace Frontier

variable {P : Text → Prop} {f g : Frontier} {t : Token}

theorem start_keeps : start.Keeps P := ⟨by simp [start], by simp [start, Phase.word?]⟩

theorem opens_keeps {brackets : List Bracket}
    (callees : ∀ callee, Bracket.call callee ∈ brackets → P callee) (word : P t.value)
    (step : opens brackets t = some g) : g.Keeps P := by
  unfold opens at step
  split at step <;> cases step <;> constructor <;> simp_all [Phase.word?, Cause.word?]

theorem goesOn_keeps {brackets : List Bracket}
    (callees : ∀ callee, Bracket.call callee ∈ brackets → P callee) (word : P t.value)
    (step : goesOn brackets t = some g) : g.Keeps P := by
  rcases goesOn_cases step with ⟨_, _, rfl⟩ | ⟨rfl, _, opened⟩ | ⟨_, outer, rfl, _, rfl⟩ |
    ⟨callee, outer, rfl, _, rfl⟩
  · exact ⟨callees, by simpa [Phase.word?, Cause.word?] using word⟩
  · exact opens_keeps callees word opened
  · exact ⟨fun callee member => callees callee (List.mem_cons_of_mem _ member), by simp [Phase.word?]⟩
  · exact ⟨callees, by simpa [Phase.word?, Cause.word?] using callees callee List.mem_cons_self⟩

theorem next?_keeps (keeps : f.Keeps P) (word : P t.value) (step : f.next? t = some g) : g.Keeps P := by
  obtain ⟨brackets, phase⟩ := f
  obtain ⟨callees, named⟩ := keeps
  unfold next? at step
  split at step
  · cases step
    exact ⟨fun callee member => callees callee (List.mem_of_mem_tail member), by simp [Phase.word?]⟩
  · rename_i callee here _
    cases here
    cases step
    have callee' := named callee rfl
    exact ⟨by simpa [callee'] using callees, by simpa [Phase.word?] using callee'⟩
  · exact opens_keeps callees word step
  · exact opens_keeps callees word step
  · exact opens_keeps callees word step
  · exact goesOn_keeps callees word step
  · exact goesOn_keeps callees word step

theorem run_keeps {ts : List Token} (keeps : f.Keeps P)
    (words : ∀ t ∈ ts, t.kind ≠ .error → P t.value) (passed : f.run ts = some g) : g.Keeps P := by
  induction ts generalizing f with
  | nil =>
    cases passed
    exact keeps
  | cons t ts ih =>
    obtain ⟨here, behind⟩ := List.forall_mem_cons.mp words
    obtain ⟨h, step, later⟩ := Option.bind_eq_some_iff.mp passed
    have placed : t.kind ≠ .error := fun fault => by simp [f.next?_error fault] at step
    exact ih (next?_keeps keeps (here placed) step) behind later

theorem Keeps.missing (keeps : f.Keeps P) : ∀ word ∈ f.missing.word?, P word := by
  obtain ⟨brackets, phase⟩ := f
  obtain ⟨callees, named⟩ := keeps
  have inside : ∀ word ∈ (Frontier.mk brackets .complete).missing.word?, P word := by
    rcases brackets with _ | ⟨_ | callee, outer⟩
    · simp [Frontier.missing, Cause.word?]
    · simp [Frontier.missing, Cause.word?]
    · simpa [Frontier.missing, Cause.word?] using callees callee List.mem_cons_self
  cases phase with
  | fresh => simp [Frontier.missing, Cause.word?]
  | operand cause => exact named
  | arguments callee => exact named
  | name text => exact inside
  | complete => exact inside

end Frontier

/-- A word that the cause of an error names was read before, and the lexer could place it. -/
theorem parse_error_word {o : LexOptions} {source : Text} {e : SyntaxError}
    (failed : parse o source = .error e) :
    ∀ word ∈ e.cause.word?, ∃ t ∈ tokenize o source, t.kind ≠ .error ∧ t.value = word := by
  obtain ⟨pre, post, g, split, passed, _, reason⟩ := Frontier.scan_fails (parse_scan failed)
  -- What was passed over are tokens of the text, and never the mark of its end.
  have front : pre <+: withoutLayout (tokenize o source) := prefix_of_split split
  have keeps : g.Keeps fun word => ∃ t ∈ tokenize o source, t.kind ≠ .error ∧ t.value = word :=
    Frontier.run_keeps Frontier.start_keeps
      (fun t member placed => ⟨t, List.mem_of_mem_filter (front.subset member), placed, rfl⟩) passed
  rcases reason with ⟨_, rfl, _⟩ | ⟨_, cause, _⟩ | ⟨_, cause, _⟩
  · exact keeps.missing
  · exact cause ▸ keeps.missing
  · rw [cause]
    simp [Token.fault, Cause.word?]

theorem Segmented.oneLine {merge : Bool} {cs : List Character} {ts : List Token}
    (h : Segmented merge cs ts) {p : Position} {text : Text} (read : cs = charactersFrom p text) :
    ∀ t ∈ ts, t.kind ≠ .error → '\n' ∉ t.value := by
  induction h generalizing p text with
  | nil => simp
  | @cons input later rest first form ts _ longest _ ih =>
    subst read
    obtain ⟨front, back, rfl, apart, run, behind⟩ := longest.text
    obtain ⟨s, rfl, holds, _⟩ := longest.state
    refine List.forall_mem_cons.mpr ⟨fun placed feed => ?_, ih behind⟩
    rw [s.form.token_eq run.symm] at placed feed
    rw [run, charactersFrom_classes] at holds
    -- Only the run of a fault may hold a break.
    obtain rfl := State.initial_of_newLine holds (List.mem_map_of_mem feed)
    exact placed rfl

theorem tokenize_oneLine (o : LexOptions) (source : Text) :
    ∀ t ∈ tokenize o source, t.kind ≠ .error → '\n' ∉ t.value :=
  (tokenize_segmented o source).oneLine rfl

/-! ### Messages -/

theorem TokenKind.name_oneLine (k : TokenKind) : '\n' ∉ k.name := by
  cases k <;> decide

theorem NodeKind.name_oneLine (k : NodeKind) : '\n' ∉ k.name := by
  cases k <;> decide

theorem Numeral.ofInt_oneLine (n : Int) : '\n' ∉ Text.ofInt n :=
  not_mem_ofInt (by decide) (by decide) n

namespace Quoted

theorem hex_oneLine (width n : Nat) : '\n' ∉ hex width n := by
  induction width generalizing n with
  | zero => exact List.not_mem_nil
  | succ width ih => simp [hex, ih]

theorem number_oneLine (c : Char) : '\n' ∉ number c := by
  unfold number
  dsimp only
  split_ifs <;> simp [hex_oneLine]

theorem mark_oneLine (t : Text) : '\n' ≠ mark t := by
  unfold mark
  split <;> decide

theorem escape_oneLine (plain : Char → Bool) (t : Text) (c : Char) :
    '\n' ∉ escape plain (mark t) c := by
  have marked := mark_oneLine t
  unfold escape
  split_ifs with special _ feed
  · rcases special with rfl | rfl
    · simpa using marked
    · decide
  · decide
  · decide
  · decide
  · simpa using Ne.symm feed
  · exact number_oneLine c

theorem write_oneLine (plain : Char → Bool) (t : Text) : '\n' ∉ write plain t := by
  have escaped := escape_oneLine plain t
  simp [write, mark_oneLine, escaped]

end Quoted

namespace SyntaxError

variable {e : SyntaxError}

theorem found_oneLine (e : SyntaxError) : '\n' ∉ e.found := by
  unfold found
  split
  · decide
  · simp [Token.described, TokenKind.name_oneLine, Text.quoted, Quoted.write_oneLine]

theorem message_oneLine (word : ∀ word ∈ e.cause.word?, '\n' ∉ word) : '\n' ∉ e.message := by
  have found := e.found_oneLine
  have quoted : '\n' ∉ e.token.value.quoted := Quoted.write_oneLine _ _
  unfold message
  split <;> rename_i cause <;> rw [cause] at word
  · simpa [found] using word _ rfl
  · simpa [found] using word _ rfl
  · simpa using word _ rfl
  · simp [found]
  · decide
  · split <;> simp [found, quoted]
  · simp [Numeral.ofInt_oneLine]

theorem construct_oneLine (e : SyntaxError) : '\n' ∉ e.construct := by
  unfold construct
  split <;> first | exact NodeKind.name_oneLine _ | decide

end SyntaxError

/-- Whatever an error quotes, its message is a single line. -/
theorem parse_message_oneLine {o : LexOptions} {source : Text} {e : SyntaxError}
    (failed : parse o source = .error e) : '\n' ∉ e.message := by
  refine SyntaxError.message_oneLine fun word named => ?_
  obtain ⟨t, member, placed, rfl⟩ := parse_error_word failed word named
  exact tokenize_oneLine o source t member placed

end StyleValue

import Mathlib.Data.List.Chain
import StyleValue.Proofs.Seams

/-! The tokens of a text stand in it without gaps, each where reading the one before it ends. For single
characters that is false: a carriage return ends its line on its own, but not in front of a line feed. No
token ends between the two, because both belong to the same run. -/
namespace StyleValue

/-! ### Texts in two parts -/

/-- No break of two characters lies across the seam of two texts. -/
def BreaksApart (front back : Text) : Prop := front.getLast? = some '\r' → back.head? ≠ some '\n'

theorem BreaksApart.of_cons {c : Char} {front back : Text} (apart : BreaksApart (c :: front) back) :
    BreaksApart front back := by
  intro last
  have filled : front ≠ [] := by
    rintro rfl
    cases last
  exact apart (by rwa [List.getLast?_cons_of_ne_nil filled])

theorem breaksApart_nil (back : Text) : BreaksApart [] back := fun last => nomatch last

theorem BreaksApart.left {front middle back : Text} (apart : BreaksApart front (middle ++ back)) :
    BreaksApart front middle := fun last feed => apart last (by simp [List.head?_append, feed])

theorem BreaksApart.append {middle back : Text} (filled : middle ≠ []) (front : Text)
    (apart : BreaksApart middle back) : BreaksApart (front ++ middle) back := by
  intro last
  exact apart (by rwa [List.getLast?_append_of_ne_nil _ filled] at last)

theorem BreaksApart.singleton {c : Char} {rest : Text}
    (other : ∀ more, c = '\r' → rest = '\n' :: more → False) : BreaksApart [c] rest := by
  intro carriage feed
  obtain ⟨more, rfl⟩ := List.head?_eq_some_iff.mp feed
  exact other more (by simpa using carriage) rfl

theorem BreaksApart.first {c : Char} {front back : Text}
    (other : ∀ more, c = '\r' → front = '\n' :: more → False) (apart : BreaksApart (c :: front) back) :
    BreaksApart [c] (front ++ back) := by
  cases front with
  | nil => exact apart
  | cons d front =>
    refine .singleton fun more carriage feed => other front carriage ?_
    rw [(List.cons.inj feed).1]

theorem after_append {p : Position} {c : Char} {front back : Text}
    (apart : BreaksApart (c :: front) back) : p.after c (front ++ back) = p.after c front := by
  cases front with
  | cons d front => rfl
  | nil =>
    unfold Position.after
    by_cases carriage : c = '\r'
    · have next : back.head? ≠ some '\n' := apart (by simp [carriage])
      simp [carriage, next]
    · simp [carriage]

theorem charactersFrom_append {front back : Text} (apart : BreaksApart front back) (p : Position) :
    charactersFrom p (front ++ back) =
      charactersFrom p front ++ charactersFrom (p.afterText front) back := by
  induction front generalizing p with
  | nil => rfl
  | cons c front ih =>
    rw [List.cons_append, charactersFrom, after_append apart, ih apart.of_cons]
    rfl

theorem afterText_append {front back : Text} (apart : BreaksApart front back) (p : Position) :
    p.afterText (front ++ back) = (p.afterText front).afterText back := by
  induction front generalizing p with
  | nil => rfl
  | cons c front ih =>
    rw [List.cons_append, Position.afterText, Position.afterText, after_append apart]
    exact ih apart.of_cons _

theorem offset_afterText (p : Position) (t : Text) : (p.afterText t).offset = p.offset + t.length := by
  induction t generalizing p with
  | nil => simp [Position.afterText]
  | cons c rest ih =>
    rw [Position.afterText, ih, offset_after, List.length_cons]
    push_cast
    omega

theorem charactersFrom_values (p : Position) (t : Text) :
    (charactersFrom p t).flatMap (·.value) = t := by
  induction t generalizing p with
  | nil => rfl
  | cons c rest ih => simp [charactersFrom, ih]

theorem length_charactersFrom (p : Position) (t : Text) : (charactersFrom p t).length = t.length := by
  have lengths := congrArg List.length (charactersFrom_bare p t)
  rwa [List.length_map, List.length_map] at lengths

theorem ofChar_newLine {c : Char} : CharClass.ofChar c = .newLine ↔ c = '\n' ∨ c = '\r' := by
  constructor
  · intro same
    by_contra other
    unfold CharClass.ofChar at same
    rw [if_neg other] at same
    repeat' split at same
    all_goals cases same
  · intro same
    exact if_pos same

theorem stop_last (p : Position) (c : Char) :
    Character.stop ⟨[c], .ofChar c, p⟩ = p.after c [] := by
  by_cases break' : c = '\n' ∨ c = '\r'
  · have ends : c = '\n' ∨ (c = '\r' ∧ ([] : Text).head? ≠ some '\n') := by simpa using break'
    simp only [Character.stop, ofChar_newLine.mpr break', Position.after, if_pos ends]
  · have plain : CharClass.ofChar c ≠ .newLine := mt ofChar_newLine.mp break'
    have stays : ¬(c = '\n' ∨ (c = '\r' ∧ ([] : Text).head? ≠ some '\n')) := by simpa using break'
    unfold Character.stop Position.after
    rw [if_neg stays]
    dsimp only
    split
    · exact absurd ‹_› (CharClass.ofChar_unended c)
    · exact absurd ‹_› plain
    · rfl

theorem ofRun_charactersFrom {p : Position} {t : Text} {first : Character} {later : List Character}
    (run : charactersFrom p t = first :: later) : Span.ofRun first later = ⟨p, p.afterText t⟩ := by
  induction t generalizing p first later with
  | nil => cases run
  | cons c rest ih =>
    cases run
    cases rest with
    | nil => exact congrArg (Span.mk p) (stop_last p c)
    | cons d rest =>
      have stops := congrArg Span.stop (@ih (p.after c (d :: rest)) _ _ rfl)
      unfold Span.ofRun at stops ⊢
      rw [charactersFrom, List.getLast?_cons]
      exact congrArg (Span.mk p) stops

theorem Form.token_eq (form : Form) {p : Position} {t : Text} {first : Character}
    {later : List Character} (run : charactersFrom p t = first :: later) :
    form.token first later = ⟨form.kind (charactersFrom p t), t, some ⟨p, p.afterText t⟩⟩ := by
  have value := charactersFrom_values p t
  rw [run] at value
  rw [token, value, ofRun_charactersFrom run, run]

/-! ### Runs and texts -/

theorem State.initial_of_newLine {merge : Bool} {s : State} {run : List CharClass}
    (holds : s.Holds merge run) (member : .newLine ∈ run) : s = .initial := by
  cases s with
  | initial => rfl
  | whitespace => simpa using holds.2 _ member
  | hex | letter =>
    obtain ⟨later, rfl, all⟩ := holds
    rcases List.mem_cons.mp member with first | member
    · cases first
    · simpa using all _ member
  | number => simpa using holds.2 _ member
  | percent =>
    obtain ⟨digits, _, all, rfl⟩ := holds
    rcases List.mem_append.mp member with member | sign
    · simpa using all _ member
    · simp at sign
  | operator => simpa using holds.2.1 _ member
  | finished => exact holds.elim

theorem Longest.breaks {merge : Bool} {form : Form} {input run rest : List Character}
    (h : Longest (form.Matches merge) input run rest) {c d : Character} (last : c ∈ run)
    (ends : c.charClass = .newLine) (next : d ∈ rest.head?) : d.charClass ≠ .newLine := by
  obtain ⟨s, rfl, holds, apart⟩ := h.state
  obtain rfl := State.initial_of_newLine holds (ends ▸ List.mem_map_of_mem last)
  intro same
  have joined := same ▸ apart d next
  cases joined

/-- A longest match in a text is the run of a front of the text, and the rest starts where that ends. -/
theorem Longest.text {merge : Bool} {form : Form} {p : Position} {t : Text} {run rest : List Character}
    (h : Longest (form.Matches merge) (charactersFrom p t) run rest) : ∃ front back : Text,
      t = front ++ back ∧ BreaksApart front back ∧ run = charactersFrom p front ∧
        rest = charactersFrom (p.afterText front) back := by
  have bares := congrArg (List.map Character.bare) h.split
  rw [charactersFrom_bare, List.map_append] at bares
  obtain ⟨front, back, rfl, fronts, backs⟩ := List.map_eq_append_iff.mp bares
  -- A carriage return and the line feed behind it are both breaks, which one run takes together.
  have apart : BreaksApart front back := by
    intro last next
    obtain ⟨c, ends, carriage⟩ : ∃ c, run.getLast? = some c ∧ c.charClass = .newLine := by
      have lasts := congrArg List.getLast? fronts
      rw [List.getLast?_map, List.getLast?_map, last] at lasts
      obtain ⟨c, ends, same⟩ := Option.map_eq_some_iff.mp lasts.symm
      exact ⟨c, ends, congrArg Prod.snd same⟩
    obtain ⟨d, starts, feed⟩ : ∃ d, rest.head? = some d ∧ d.charClass = .newLine := by
      have heads := congrArg List.head? backs
      rw [List.head?_map, List.head?_map, next] at heads
      obtain ⟨d, starts, same⟩ := Option.map_eq_some_iff.mp heads.symm
      exact ⟨d, starts, congrArg Prod.snd same⟩
    exact h.breaks (List.mem_of_getLast? ends) carriage starts feed
  have split := h.split
  rw [charactersFrom_append apart] at split
  have lengths : (charactersFrom p front).length = run.length := by
    have same := congrArg List.length fronts
    rwa [List.length_map, List.length_map, ← length_charactersFrom p] at same
  obtain ⟨runs, rests⟩ := List.append_inj split lengths
  exact ⟨front, back, rfl, apart, runs.symm, rests.symm⟩

/-! ### Tiles -/

/-- Tokens with all of a text that starts at `p`, each with the span of its own value. -/
inductive Tiles : Position → Text → List Token → Prop where
  | nil {p : Position} : Tiles p [] []
  | cons {p : Position} {t : Token} {rest : Text} {ts : List Token} : t.value ≠ [] →
      t.span = some ⟨p, p.afterText t.value⟩ → BreaksApart t.value rest →
      Tiles (p.afterText t.value) rest ts → Tiles p (t.value ++ rest) (t :: ts)

theorem Segmented.tiles {merge : Bool} {cs : List Character} {ts : List Token}
    (h : Segmented merge cs ts) {p : Position} {text : Text} (read : cs = charactersFrom p text) :
    Tiles p text ts := by
  induction h generalizing p text with
  | nil =>
    cases text with
    | nil => exact .nil
    | cons c rest => cases read
  | @cons input later rest first form ts _ longest _ ih =>
    subst read
    obtain ⟨front, back, rfl, apart, run, behind⟩ := longest.text
    have filled : front ≠ [] := by
      rintro rfl
      cases run
    rw [form.token_eq run.symm]
    exact @Tiles.cons p ⟨_, front, _⟩ back ts filled rfl apart (ih behind)

theorem tokens_tiles (merge : Bool) (text : Text) :
    Tiles .origin text ((Reader.ofText text).tokens merge).1 := by
  rw [Reader.tokens_eq]
  exact (Lexer.start_segmented rfl [] _ charactersFrom_unended merge).tiles rfl

namespace Tiles

variable {p : Position} {text : Text} {ts : List Token}

theorem values (h : Tiles p text ts) : ts.flatMap (·.value) = text := by
  induction h with
  | nil => rfl
  | cons _ _ _ _ ih => rw [List.flatMap_cons, ih]

theorem filled (h : Tiles p text ts) : ∀ t ∈ ts, t.value ≠ [] := by
  induction h with
  | nil => simp
  | cons filled _ _ _ ih => exact List.forall_mem_cons.mpr ⟨filled, ih⟩

theorem starts (h : Tiles p text ts) : ∀ t ∈ ts.head?, t.span.map Span.start = some p := by
  cases h with
  | nil => simp
  | cons _ span _ _ => simp [span]

theorem adjoins (h : Tiles p text ts) :
    ts.IsChain fun t u => t.span.map Span.stop = u.span.map Span.start := by
  induction h with
  | nil => exact .nil
  | cons _ span _ others ih =>
    refine ih.cons fun u next => ?_
    rw [others.starts u next, span]
    rfl

theorem stops (h : Tiles p text ts) :
    ∀ t ∈ ts.getLast?, t.span.map Span.stop = some (p.afterText text) := by
  induction h with
  | nil => simp
  | @cons p t rest ts _ span apart others ih =>
    rw [afterText_append apart]
    cases others with
    | nil => simp [span, Position.afterText]
    | cons => rwa [List.getLast?_cons_cons]

/-- The offsets of a token mark its value in the text, whatever stands in front of the tokens. -/
theorem slices (h : Tiles p text ts) (before : Text) (offset : p.offset = before.length) :
    ∀ t ∈ ts, ∃ (span : Span) (i j : Nat), t.span = some span ∧ span.start.offset = i ∧
      span.stop.offset = j ∧ t.value = ((before ++ text).take j).drop i := by
  induction h generalizing before with
  | nil => simp
  | @cons p t rest ts _ span _ _ ih =>
    have length : (before ++ t.value).length = before.length + t.value.length := List.length_append
    have behind : (p.afterText t.value).offset = (before ++ t.value).length := by
      rw [offset_afterText, offset, length]
      push_cast
      rfl
    refine List.forall_mem_cons.mpr ⟨?_, ?_⟩
    · refine ⟨_, before.length, (before ++ t.value).length, span, offset, behind, ?_⟩
      rw [← List.append_assoc, List.take_left' rfl, List.drop_left' rfl]
    · rw [← List.append_assoc]
      exact ih (before ++ t.value) behind

/-- A token stands as far behind the start of the tokens as those before it are long. -/
theorem offsets {before after : List Token} {t : Token} (h : Tiles p text (before ++ t :: after)) :
    ∃ span, t.span = some span ∧
      span.start.offset = p.offset + (before.flatMap (·.value)).length ∧
      span.stop.offset = span.start.offset + t.value.length := by
  induction before generalizing p text with
  | nil =>
    cases h with
    | cons _ span _ _ => exact ⟨_, span, by simp, offset_afterText _ _⟩
  | cons u before ih =>
    cases h with
    | cons _ _ _ others =>
      obtain ⟨span, located, start, stop⟩ := ih others
      refine ⟨span, located, ?_, stop⟩
      rw [start, offset_afterText, List.flatMap_cons, List.length_append]
      push_cast
      omega

end Tiles

/-- Tokens take all of a text, each of them a slice of it, and each begins where the one before it
ends. -/
structure Covers (text : Text) (ts : List Token) : Prop where
  joined : ts.flatMap (·.value) = text
  filled : ∀ t ∈ ts, t.value ≠ []
  sliced : ∀ t ∈ ts, ∃ (span : Span) (i j : Nat), t.span = some span ∧ span.start.offset = i ∧
    span.stop.offset = j ∧ t.value = (text.take j).drop i
  first : ∀ t ∈ ts.head?, t.span.map Span.start = some ⟨1, 1, 0⟩
  adjoining : ts.IsChain fun t u => t.span.map Span.stop = u.span.map Span.start
  last : ∀ t ∈ ts.getLast?, t.span.map Span.stop = some (Reader.ofText text).mark.position
  empty : ts = [] → text = []

theorem Tiles.covers {text : Text} {ts : List Token} (h : Tiles .origin text ts) : Covers text ts where
  joined := h.values
  filled := h.filled
  sliced := h.slices [] rfl
  first := h.starts
  adjoining := h.adjoins
  last := h.stops
  empty := by
    rintro rfl
    exact h.values.symm

/-- The tokens of a source cover the text that is read in its place, whichever normal form that is. -/
theorem tokenize_covers (o : LexOptions) (source : Text) :
    Covers (o.text source) (tokenize o source) ∧
      ∀ normalForm : Text → Text,
        let text := if o.normalize then normalForm source else source
        Covers text ((Reader.ofText text).tokens o.mergeOperators).1 :=
  ⟨(tokens_tiles _ _).covers, fun _ => (tokens_tiles _ _).covers⟩

end StyleValue

import StyleValue.Proofs.LongestMatch
import StyleValue.Proofs.Relocation

/-! Consecutive tokens and the characters that they are made of. Tokens of a text are again the tokens
of the slice of the text that their spans mark, because no match is longer in a slice than it is in the
whole text. -/
namespace StyleValue

def Character.bare (c : Character) : Text × CharClass := (c.value, c.charClass)

theorem classes_of_bare {cs ds : List Character} (same : cs.map Character.bare = ds.map Character.bare) :
    cs.map Character.charClass = ds.map Character.charClass := by
  have seconds := congrArg (List.map Prod.snd) same
  rwa [List.map_map, List.map_map] at seconds

theorem values_of_bare {cs ds : List Character} (same : cs.map Character.bare = ds.map Character.bare) :
    cs.flatMap (·.value) = ds.flatMap (·.value) := by
  have firsts := congrArg (fun pairs => (pairs.map Prod.fst).flatten) same
  rwa [List.map_map, List.map_map, ← List.flatMap_def, ← List.flatMap_def] at firsts

theorem Form.kind_bare (form : Form) {cs ds : List Character}
    (same : ds.map Character.bare = cs.map Character.bare) : form.kind ds = form.kind cs := by
  cases form with
  | number =>
    have signs : ∀ cs : List Character, cs.any (·.charClass = .percent) =
        (cs.map Character.charClass).any (· = .percent) := fun cs => by simp [Function.comp_def]
    simp only [kind, signs, classes_of_bare same]
  | symbol => simp only [kind, values_of_bare same]
  | _ => rfl

/-! ### Texts -/

theorem CharClass.ofChar_unended (c : Char) : ofChar c ≠ .endOfInput := by
  unfold ofChar
  repeat' split
  all_goals simp

theorem charactersFrom_bare (p : Position) (t : Text) :
    (charactersFrom p t).map Character.bare = t.map fun c => ([c], CharClass.ofChar c) := by
  induction t generalizing p with
  | nil => rfl
  | cons c rest ih =>
    rw [charactersFrom, List.map_cons, ih, List.map_cons]
    rfl

theorem charactersFrom_unended {p : Position} {t : Text} :
    ∀ c ∈ charactersFrom p t, c.charClass ≠ .endOfInput := by
  induction t generalizing p with
  | nil => simp [charactersFrom]
  | cons c rest ih => exact List.forall_mem_cons.mpr ⟨CharClass.ofChar_unended c, ih⟩

theorem offset_after (p : Position) (c : Char) (rest : Text) :
    (p.after c rest).offset = p.offset + 1 := by
  unfold Position.after
  split <;> rfl

theorem Character.offset_stop {c : Character} (unended : c.charClass ≠ .endOfInput) :
    c.stop.offset = c.position.offset + 1 := by
  unfold stop
  split
  · contradiction
  · rfl
  · rfl

theorem charactersFrom_offset {p : Position} {t : Text} {i : Nat} {c : Character}
    (found : (charactersFrom p t)[i]? = some c) : c.position.offset = p.offset + i := by
  induction t generalizing p i with
  | nil => cases found
  | cons d rest ih =>
    cases i with
    | zero =>
      cases found
      simp
    | succ i =>
      have later := ih found
      rw [offset_after] at later
      push_cast
      omega

theorem tokenize_segmented (o : LexOptions) (source : Text) :
    Segmented o.mergeOperators (o.characters source) (tokenize o source) := by
  unfold tokenize
  rw [Reader.tokens_eq]
  exact Lexer.start_segmented rfl [] _ charactersFrom_unended _

theorem tokenize_plain (merge : Bool) (source : Text) :
    Segmented merge source.characters (tokenize ⟨merge, false⟩ source) :=
  tokenize_segmented ⟨merge, false⟩ source

theorem length_characters (source : Text) : source.characters.length = source.length := by
  have lengths := congrArg List.length (charactersFrom_bare .origin source)
  rwa [List.length_map, List.length_map] at lengths

theorem characters_offset {source : Text} {i : Nat} {c : Character}
    (found : source.characters[i]? = some c) :
    c.position.offset = i ∧ c.stop.offset = i + 1 := by
  have start : c.position.offset = i := by simpa [Position.origin] using charactersFrom_offset found
  have unended := charactersFrom_unended c (List.mem_of_getElem? found)
  exact ⟨start, by rw [Character.offset_stop unended, start]⟩

theorem length_values {source : Text} {front rest : List Character}
    (characters : source.characters = front ++ rest) : (front.flatMap (·.value)).length = front.length := by
  have single : ∀ c ∈ front, c.value.length = 1 := by
    intro c member
    have pair : c.bare ∈ source.characters.map Character.bare :=
      List.mem_map_of_mem (by simp [characters, member])
    rw [Text.characters, charactersFrom_bare] at pair
    obtain ⟨d, _, same⟩ := List.mem_map.mp pair
    have value : [d] = c.value := congrArg Prod.fst same
    rw [← value, List.length_singleton]
  rw [List.length_flatMap, List.map_congr_left single, List.map_const', List.sum_replicate_nat, Nat.mul_one]

/-! ### Slices of characters -/

theorem Longest.truncate {property : List CharClass → Prop} {run rest more : List Character}
    (h : Longest property (run ++ (rest ++ more)) run (rest ++ more)) :
    Longest property (run ++ rest) run rest := by
  refine ⟨rfl, h.holds, fun run' rest' split whole => ?_⟩
  refine h.longest run' (rest' ++ more) ?_ whole
  rw [← List.append_assoc, split, List.append_assoc]

theorem Longest.relocate {property : List CharClass → Prop} {input run rest input' run' rest' : List Character}
    (h : Longest property input run rest) (split : input' = run' ++ rest')
    (runs : run'.map Character.bare = run.map Character.bare)
    (rests : rest'.map Character.bare = rest.map Character.bare) :
    Longest property input' run' rest' := by
  have inputs : input'.map Character.bare = input.map Character.bare := by
    rw [split, h.split, List.map_append, List.map_append, runs, rests]
  refine ⟨split, classes_of_bare runs ▸ h.holds, fun front back parts whole => ?_⟩
  -- A longer run of the moved characters would stand at the front of the input as well.
  have fronts : (input.take front.length).map Character.bare = front.map Character.bare := by
    rw [List.map_take, ← inputs, parts, List.map_append, List.take_left' (List.length_map _)]
  have bound := h.longest _ _ (List.take_append_drop front.length input).symm
    ((classes_of_bare fronts).symm ▸ whole)
  have lengths := congrArg List.length runs
  have fits := congrArg List.length fronts
  simp only [List.length_map] at lengths fits
  omega

namespace Segmented

variable {merge : Bool}

theorem split {cs : List Character} {before after : List Token}
    (h : Segmented merge cs (before ++ after)) : ∃ front back, cs = front ++ back ∧
      Segmented merge front before ∧ Segmented merge back after := by
  induction before generalizing cs with
  | nil => exact ⟨[], cs, rfl, .nil, h⟩
  | cons t before ih =>
    cases h with
    | @cons _ later rest first form _ begun longest others =>
      obtain ⟨front, back, rfl, segmented, behind⟩ := ih others
      obtain rfl := longest.split
      exact ⟨first :: later ++ front, back, by simp, .cons begun longest.truncate segmented, behind⟩

theorem token_bare (form : Form) {first first' : Character} {later later' : List Character}
    (same : (first' :: later').map Character.bare = (first :: later).map Character.bare) :
    (form.token first' later').bare = (form.token first later).bare := by
  simp only [Form.token, Token.bare, form.kind_bare same, values_of_bare same]

/-- The same characters at other places are the same tokens at other places. -/
theorem relocate {cs : List Character} {ts : List Token} (h : Segmented merge cs ts) :
    ∀ ds : List Character, ds.map Character.bare = cs.map Character.bare →
      ∃ us, Segmented merge ds us ∧ us.map Token.bare = ts.map Token.bare := by
  induction h with
  | nil =>
    intro ds same
    rw [List.map_nil, List.map_eq_nil_iff] at same
    exact ⟨[], same ▸ .nil, rfl⟩
  | @cons input later rest first form ts begun longest _ ih =>
    intro ds same
    rw [longest.split, List.map_append] at same
    obtain ⟨run, rest', rfl, runs, rests⟩ := List.map_eq_append_iff.mp same
    obtain ⟨first', later', rfl, firsts, laters⟩ := List.map_eq_cons_iff.mp runs
    obtain ⟨us, segmented, words⟩ := ih rest' rests
    have sameClass : first'.charClass = first.charClass := congrArg Prod.snd firsts
    refine ⟨form.token first' later' :: us,
      .cons (sameClass ▸ begun) (longest.relocate rfl runs rests) segmented, ?_⟩
    rw [List.map_cons, List.map_cons, words, token_bare form runs]

theorem values {cs : List Character} {ts : List Token} (h : Segmented merge cs ts) :
    ts.flatMap (·.value) = cs.flatMap (·.value) := by
  induction h with
  | nil => rfl
  | cons _ longest _ ih =>
    rw [longest.split, List.flatMap_append, List.flatMap_cons, ih]
    rfl

theorem start_eq {cs : List Character} {ts : List Token} (h : Segmented merge cs ts) :
    (ts.head?.bind Token.span).map Span.start = cs.head?.map Character.position := by
  cases h with
  | nil => rfl
  | cons _ longest _ =>
    rw [longest.split]
    rfl

theorem stop_eq {cs : List Character} {ts : List Token} (h : Segmented merge cs ts) :
    (ts.getLast?.bind Token.span).map Span.stop = cs.getLast?.map Character.stop := by
  induction h with
  | nil => rfl
  | @cons input later rest first form ts _ longest others ih =>
    rw [longest.split]
    cases others with
    | nil =>
      change some (Span.ofRun first later).stop = _
      rw [List.append_nil, List.getLast?_cons]
      rfl
    | cons _ longest' _ =>
      obtain rfl := longest'.split
      simpa [List.getLast?_append, List.getLast?_cons] using ih

end Segmented

/-! ### Slices of texts -/

theorem Segmented.covered_eq {merge : Bool} {cs : List Character} {ts : List Token}
    {first last : Character} (h : Segmented merge cs ts) (starts : cs.head? = some first)
    (ends : cs.getLast? = some last) : covered ts = some ⟨first.position, last.stop⟩ := by
  have starting := h.start_eq
  have ending := h.stop_eq
  rw [starts] at starting
  rw [ends] at ending
  obtain ⟨a, headSpan, start⟩ := Option.map_eq_some_iff.mp starting
  obtain ⟨b, lastSpan, stop⟩ := Option.map_eq_some_iff.mp ending
  simp only [covered, headSpan, lastSpan, Span.cover?, start, stop]

theorem Segmented.ne_nil {merge : Bool} {cs : List Character} {ts : List Token}
    (h : Segmented merge cs ts) (filled : ts ≠ []) : cs ≠ [] := by
  cases h with
  | nil => exact absurd rfl filled
  | cons _ longest _ => simp [longest.split]

theorem slice_bare {source : Text} {front middle back : List Character}
    (characters : source.characters = front ++ middle ++ back) :
    (Text.characters ((source.take (front.length + middle.length)).drop front.length)).map
      Character.bare = middle.map Character.bare := by
  have parts := congrArg (List.map Character.bare) characters
  unfold Text.characters at parts ⊢
  rw [charactersFrom_bare] at parts ⊢
  rw [List.map_drop, List.map_take, parts, List.map_append,
    List.take_left' (by simp), List.map_append, List.drop_left' (by simp)]

/-- Consecutive tokens are the tokens of a slice of the text, and their span marks the slice. -/
theorem tokenize_slice {merge : Bool} {source : Text} {before middle after : List Token}
    (tokens : tokenize ⟨merge, false⟩ source = before ++ middle ++ after) (filled : middle ≠ []) :
    ∃ (span : Span) (i j : Nat), covered middle = some span ∧ span.start.offset = i ∧
      span.stop.offset = j ∧ i < j ∧ j ≤ source.length ∧
      (tokenize ⟨merge, false⟩ ((source.take j).drop i)).map Token.bare = middle.map Token.bare := by
  have whole := tokenize_plain merge source
  rw [tokens] at whole
  obtain ⟨read, back, characters, segmentedRead, _⟩ := whole.split
  obtain ⟨front, run, rfl, _, segmented⟩ := segmentedRead.split
  have nonempty := List.length_pos_iff.mpr (segmented.ne_nil filled)
  have bound : front.length + run.length ≤ source.length := by
    have lengths := congrArg List.length characters
    rw [length_characters, List.length_append, List.length_append] at lengths
    omega
  have inside : ∀ k (short : k < run.length),
      source.characters[front.length + k]? = some run[k] := by
    intro k short
    rw [characters, List.append_assoc, List.getElem?_append_right (Nat.le_add_right _ _),
      Nat.add_sub_cancel_left, List.getElem?_append_left short, List.getElem?_eq_getElem short]
  have first := characters_offset (inside 0 nonempty)
  have last := characters_offset (inside (run.length - 1) (by omega))
  have starts : run.head? = some run[0] := by
    rw [List.head?_eq_getElem?, List.getElem?_eq_getElem nonempty]
  have ends : run.getLast? = some run[run.length - 1] := by
    rw [List.getLast?_eq_getElem?, List.getElem?_eq_getElem (by omega)]
  refine ⟨⟨run[0].position, run[run.length - 1].stop⟩, front.length, front.length + run.length,
    segmented.covered_eq starts ends, first.1, ?_, by omega, bound, ?_⟩
  · rw [last.2]
    push_cast
    omega
  · obtain ⟨us, again, words⟩ := segmented.relocate _ (slice_bare characters)
    rw [(tokenize_plain merge _).unique again, words]

end StyleValue

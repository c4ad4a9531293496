import StyleValue.Proofs.Joining
import StyleValue.Proofs.Likeness
import StyleValue.Proofs.Tiling

/-! Layout between tokens. White space and breaks that are put in where a token ends join the layout
around them or a run that the lexer could not place, so the tokens that count read alike with them and
without. -/
namespace StyleValue

/-- White space, or a break that the parser takes for one. -/
def Character.isLayout (c : Character) : Prop :=
  c.charClass = .whitespace ∨
    c.charClass = .newLine ∧ c.value.all (fun d => d = '\r' || d = '\n') = true

/-- The tokens that count read alike. -/
def SameWords (ts us : List Token) : Prop :=
  List.Forall₂ Token.Alike (withoutLayout ts) (withoutLayout us)

namespace SameWords

variable {ts us vs ws : List Token} {t u : Token}

theorem refl (ts : List Token) : SameWords ts ts := alike_refl _

theorem append (front : SameWords ts us) (back : SameWords vs ws) : SameWords (ts ++ vs) (us ++ ws) := by
  unfold SameWords withoutLayout at *
  rw [List.filter_append, List.filter_append]
  exact List.rel_append front back

theorem cons (t : Token) (others : SameWords ts us) : SameWords (t :: ts) (t :: us) :=
  (refl [t]).append others

theorem layout_left (layout : t.isLayout = true) (others : SameWords ts us) :
    SameWords (t :: ts) us := by
  rwa [SameWords, withoutLayout_cons_layout layout]

theorem layout_right (layout : u.isLayout = true) (others : SameWords ts us) :
    SameWords ts (u :: us) := by
  rwa [SameWords, withoutLayout_cons_layout layout]

theorem trans (one : SameWords ts us) (other : SameWords us vs) : SameWords ts vs := by
  unfold SameWords at *
  generalize withoutLayout ts = as, withoutLayout us = bs, withoutLayout vs = cs at one other
  induction one generalizing cs with
  | nil => exact other
  | cons first _ ih =>
    cases other with
    | cons second others =>
      refine .cons ⟨second.1.trans first.1, fun placed => ?_⟩ (ih _ others)
      rw [second.2 (first.1 ▸ placed), first.2 placed]

theorem cons_fault (kind : t.kind = .error) (kind' : u.kind = .error) (layout : u.isLayout = t.isLayout)
    (others : SameWords ts us) : SameWords (t :: ts) (u :: us) := by
  cases skipped : t.isLayout with
  | true => exact (others.layout_right (layout.trans skipped)).layout_left skipped
  | false =>
    have alike : t.Alike u := ⟨kind'.trans kind.symm, fun placed => absurd kind placed⟩
    have single : SameWords [t] [u] := by
      unfold SameWords withoutLayout
      rw [List.filter_cons_of_pos (by simp [skipped]), List.filter_cons_of_pos (by simp [layout, skipped])]
      exact .cons alike .nil
    exact single.append others

end SameWords

/-! ### Runs that take layout in -/

variable {merge : Bool} {s : State} {c : Character}

/-- The runs that layout can join: white space, and what the lexer could not place. -/
def State.Soft (s : State) : Prop := s = .whitespace ∨ s = .initial

namespace State

theorem Soft.holds_iff (soft : s.Soft) {run : List CharClass} :
    s.Holds merge run ↔ run ≠ [] ∧ ∀ k ∈ run, s.joins merge k = true := by
  simp only [joins_iff]
  rcases soft with rfl | rfl <;> simp [Holds, Form.Matches, joined]

theorem soft_opened (layout : c.isLayout) : (opened c.charClass).Soft := by
  rcases layout with space | ⟨newLine, _⟩
  · exact .inl (congrArg opened space)
  · exact .inr (congrArg opened newLine)

theorem soft_of_joins (layout : c.isLayout) (joins : s.joins merge c.charClass = true) : s.Soft := by
  rcases layout with space | ⟨newLine, _⟩
  · rw [space] at joins
    cases s <;> cases merge <;> first | exact .inl rfl | cases joins
  · rw [newLine] at joins
    cases s <;> cases merge <;> first | exact .inr rfl | cases joins

theorem Soft.joins_opened (layout : c.isLayout) : (opened c.charClass).joins merge c.charClass = true := by
  rcases layout with space | ⟨newLine, _⟩ <;> simp only [*] <;> rfl

theorem Soft.eq_of_joins (soft : s.Soft) {t : State} {k : CharClass} {later : List CharClass}
    (holds : t.Holds merge (k :: later)) (joins : s.joins merge k = true) : t = s := by
  have begun := begunBy_of_holds holds
  rw [joins_iff] at joins
  rcases soft with rfl | rfl
  · obtain rfl := List.mem_singleton.mp joins
    cases t <;> first | rfl | cases begun
  · simp only [joined, List.mem_cons, List.not_mem_nil, or_false] at joins
    rcases joins with rfl | rfl | rfl | rfl <;> cases t <;> first | rfl | exact holds.elim | cases begun

end State

theorem sameWords_joined (soft : s.Soft) (layout : c.isLayout) (joins : s.joins merge c.charClass = true)
    {first first' : Character} {later later' : List Character}
    (split : first' :: later' = c :: first :: later ∨ first' :: later' = first :: later ++ [c])
    {ts us : List Token} (others : SameWords ts us) :
    SameWords (s.form.token first later :: ts) (s.form.token first' later' :: us) := by
  rcases soft with rfl | rfl
  · exact (others.layout_right rfl).layout_left rfl
  -- A fault stays a fault, and one more break in it decides nothing: it is layout if it was.
  · have breaks : c.value.all (fun d => d = '\r' || d = '\n') = true := by
      rcases layout with space | ⟨_, breaks⟩
      · rw [space] at joins
        cases joins
      · exact breaks
    refine others.cons_fault rfl rfl ?_
    change ((first' :: later').flatMap (·.value)).all _ = ((first :: later).flatMap (·.value)).all _
    rcases split with split | split <;> rw [split] <;> simp [breaks]

namespace Segmented

variable {cs rest : List Character} {ts us : List Token}

theorem pad_one (h : Segmented merge cs ts) (layout : c.isLayout) :
    ∃ us, Segmented merge (c :: cs) us ∧ SameWords ts us := by
  have soft := State.soft_opened layout
  have opens : (State.opened c.charClass).joins merge c.charClass = true :=
    State.Soft.joins_opened layout
  have alone : (State.opened c.charClass).Holds merge ([c].map Character.charClass) :=
    soft.holds_iff.mpr ⟨by simp, by simpa using opens⟩
  -- Either the character makes a token of its own, or it joins the first one.
  have apart (stops : ∀ d ∈ cs.head?, (State.opened c.charClass).joins merge d.charClass = false) :
      ∃ us, Segmented merge (c :: cs) us ∧ SameWords ts us := by
    obtain ⟨_, _, same, segmented⟩ := h.cons_of_holds alone stops
    cases same
    refine ⟨_, segmented, (SameWords.refl ts).layout_right ?_⟩
    rcases layout with space | ⟨newLine, breaks⟩
    · rw [space]
      rfl
    · rw [newLine]
      simpa [Token.isLayout, State.opened, State.form, Form.token, Form.kind] using breaks
  cases h with
  | nil => exact apart (by simp)
  | @cons _ later rest first form ts begun longest others =>
    obtain ⟨s, rfl, holds, stops⟩ := longest.state
    rw [longest.split] at apart ⊢
    cases joins : (State.opened c.charClass).joins merge first.charClass with
    | false => exact apart fun d head => by cases head; exact joins
    | true =>
      obtain rfl := soft.eq_of_joins holds joins
      have wide : (State.opened c.charClass).Holds merge
          ((c :: first :: later).map Character.charClass) :=
        soft.holds_iff.mpr ⟨by simp, List.forall_mem_cons.mpr ⟨opens, (soft.holds_iff.mp holds).2⟩⟩
      obtain ⟨_, _, split, segmented⟩ := others.cons_of_holds wide stops
      exact ⟨_, segmented, sameWords_joined soft layout opens (.inl split.symm) (.refl ts)⟩

theorem pad_front {w : List Character} (layout : ∀ c ∈ w, c.isLayout) (h : Segmented merge cs ts) :
    ∃ us, Segmented merge (w ++ cs) us ∧ SameWords ts us := by
  induction w with
  | nil => exact ⟨ts, h, .refl ts⟩
  | cons c w ih =>
    obtain ⟨here, behind⟩ := List.forall_mem_cons.mp layout
    obtain ⟨us, padded, words⟩ := ih behind
    obtain ⟨vs, segmented, more⟩ := padded.pad_one here
    exact ⟨vs, segmented, words.trans more⟩

theorem pad_run {w : List Character} (layout : ∀ c ∈ w, c.isLayout) {first : Character}
    {later : List Character} (holds : s.Holds merge ((first :: later).map Character.charClass))
    (apart : ∀ c ∈ rest.head?, s.joins merge c.charClass = false) (h : Segmented merge rest ts) :
    ∃ us, Segmented merge (first :: later ++ (w ++ rest)) us ∧
      SameWords (s.form.token first later :: ts) us := by
  -- The run takes the layout in as long as it can. What is left stands in front of the rest.
  induction w generalizing later with
  | nil =>
    obtain ⟨_, _, same, segmented⟩ := h.cons_of_holds holds apart
    cases same
    exact ⟨_, segmented, .refl _⟩
  | cons c w ih =>
    obtain ⟨here, behind⟩ := List.forall_mem_cons.mp layout
    cases joins : s.joins merge c.charClass with
    | false =>
      obtain ⟨us, padded, words⟩ := h.pad_front layout
      obtain ⟨_, _, same, segmented⟩ :=
        padded.cons_of_holds holds fun d head => by cases head; exact joins
      cases same
      exact ⟨_, segmented, words.cons _⟩
    | true =>
      have soft := State.soft_of_joins here joins
      have wide : s.Holds merge ((first :: (later ++ [c])).map Character.charClass) := by
        have all := (soft.holds_iff.mp holds).2
        refine soft.holds_iff.mpr ⟨by simp, ?_⟩
        rw [← List.cons_append, List.map_append]
        exact List.forall_mem_append.mpr ⟨all, by simpa using joins⟩
      obtain ⟨us, segmented, words⟩ := ih behind wide
      have split : first :: (later ++ [c]) = first :: later ++ [c] := rfl
      have joined := sameWords_joined soft here joins (.inr split) (.refl ts)
      exact ⟨us, by simpa using segmented, joined.trans words⟩

/-- A token in the middle: its run, the state that the run is read in, and what may take the place of
the run and of all that follows. -/
theorem focus {input : List Character} {t : Token} (h : Segmented merge input (ts ++ t :: us)) :
    ∃ (front : List Character) (s : State) (first : Character) (later rest : List Character),
      input = front ++ (first :: later ++ rest) ∧ t = s.form.token first later ∧
      s.Holds merge ((first :: later).map Character.charClass) ∧
      (∀ c ∈ rest.head?, s.joins merge c.charClass = false) ∧ Segmented merge rest us ∧
      ∀ (more : List Character) (vs : List Token), Segmented merge (first :: later ++ more) vs →
        Segmented merge (front ++ (first :: later ++ more)) (ts ++ vs) := by
  induction ts generalizing input with
  | nil =>
    cases h with
    | @cons _ later rest first form _ begun longest others =>
      obtain ⟨s, rfl, holds, apart⟩ := longest.state
      exact ⟨[], s, first, later, rest, longest.split, rfl, holds, apart, others, fun _ _ again => again⟩
  | cons v ts ih =>
    cases h with
    | @cons _ later' rest' first' form _ begun longest others =>
      obtain ⟨front, s, first, later, rest, rfl, same, holds, apart, behind, again⟩ := ih others
      obtain ⟨s', rfl, holds', apart'⟩ := longest.state
      refine ⟨first' :: later' ++ front, s, first, later, rest, ?_, same, holds, apart, behind, ?_⟩
      · rw [longest.split, List.append_assoc]
      · intro more vs segmented
        have stops : ∀ c ∈ (front ++ (first :: later ++ more)).head?,
            s'.joins merge c.charClass = false := by
          cases front with
          | nil => exact apart'
          | cons d front => exact apart'
        obtain ⟨_, _, same', whole⟩ := (again more vs segmented).cons_of_holds holds' stops
        cases same'
        rwa [List.append_assoc]

theorem pad {input w : List Character} (layout : ∀ c ∈ w, c.isLayout)
    (h : Segmented merge input (ts ++ us)) : ∃ front rest vs, input = front ++ rest ∧
      Segmented merge front ts ∧ Segmented merge (front ++ (w ++ rest)) vs ∧ SameWords (ts ++ us) vs := by
  rcases List.eq_nil_or_concat ts with rfl | ⟨init, t, rfl⟩
  · obtain ⟨vs, segmented, words⟩ := h.pad_front layout
    exact ⟨[], input, vs, rfl, .nil, segmented, words⟩
  · rw [List.concat_eq_append, List.append_assoc] at h
    obtain ⟨front, s, first, later, rest, rfl, rfl, holds, apart, behind, again⟩ := h.focus
    obtain ⟨_, _, same, single⟩ := Segmented.nil.cons_of_holds holds (by simp)
    cases same
    have before := again [] _ single
    obtain ⟨vs, padded, words⟩ := pad_run layout holds apart behind
    refine ⟨front ++ first :: later, rest, init ++ vs, by simp, ?_, ?_, ?_⟩
    · simpa using before
    · simpa using again _ _ padded
    · rw [List.concat_eq_append, List.append_assoc]
      exact (SameWords.refl init).append words

end Segmented

/-! ### Texts -/

/-- Whether a text begins or ends at an offset, or one of its tokens ends there. -/
def TokenBoundary (o : LexOptions) (source : Text) (k : Nat) : Prop :=
  k = 0 ∨ k = source.length ∨
    ∃ t ∈ tokenize o source, ∃ span, t.span = some span ∧ span.stop.offset = k

theorem TokenBoundary.split {source : Text} {k : Nat}
    (h : TokenBoundary ⟨merge, false⟩ source k) : ∃ before after,
      tokenize ⟨merge, false⟩ source = before ++ after ∧ (before.flatMap (·.value)).length = k := by
  have tiles : Tiles .origin source (tokenize ⟨merge, false⟩ source) := tokens_tiles merge source
  rcases h with rfl | rfl | ⟨t, member, span, located, stop⟩
  · exact ⟨[], _, rfl, rfl⟩
  · exact ⟨_, [], (List.append_nil _).symm, by rw [tiles.values]⟩
  · obtain ⟨before, after, tokens⟩ := List.append_of_mem member
    obtain ⟨span', located', start, stop'⟩ := (tokens ▸ tiles).offsets
    cases located.symm.trans located'
    refine ⟨before ++ [t], after, by simp [tokens], ?_⟩
    simp only [Position.origin] at start
    simp only [List.flatMap_append, List.flatMap_singleton, List.length_append]
    omega

theorem isLayout_unplaced {w : Text}
    (layout : ∀ c ∈ w, CharClass.ofChar c = .whitespace ∨ CharClass.ofChar c = .newLine) :
    ∀ c ∈ w.unplaced, c.isLayout := by
  intro c member
  obtain ⟨d, inside, rfl⟩ := List.mem_map.mp member
  refine (layout d inside).imp id fun newLine => ⟨newLine, ?_⟩
  have ends := ofChar_newLine.mp newLine
  simpa [or_comm] using ends

theorem tokenize_padded {source w : Text} {k : Nat} (boundary : TokenBoundary ⟨merge, false⟩ source k)
    (layout : ∀ c ∈ w, CharClass.ofChar c = .whitespace ∨ CharClass.ofChar c = .newLine) :
    SameWords (tokenize ⟨merge, false⟩ source)
      (tokenize ⟨merge, false⟩ (source.take k ++ w ++ source.drop k)) := by
  obtain ⟨before, after, tokens, offset⟩ := boundary.split
  have whole := tokenize_plain merge source
  rw [tokens] at whole ⊢
  obtain ⟨front, rest, vs, characters, fronts, padded, words⟩ :=
    whole.pad (isLayout_unplaced layout)
  have length : front.length = k := by rw [← offset, fronts.values, length_values characters]
  have bares := charactersFrom_bare .origin source
  have same : (Text.characters (source.take k ++ w ++ source.drop k)).map Character.bare =
      (front ++ (w.unplaced ++ rest)).map Character.bare := by
    have parts : front.map Character.bare ++ rest.map Character.bare =
        source.map fun c => ([c], CharClass.ofChar c) := by
      rw [← List.map_append, ← characters]
      exact bares
    have fronts : front.map Character.bare = (source.take k).map fun c => ([c], .ofChar c) := by
      rw [List.map_take, ← parts, List.take_left' (by simpa using length)]
    have rests : rest.map Character.bare = (source.drop k).map fun c => ([c], .ofChar c) := by
      rw [List.map_drop, ← parts, List.drop_left' (by simpa using length)]
    unfold Text.characters
    rw [charactersFrom_bare, List.map_append, List.map_append, List.map_append, List.map_append, fronts,
      rests, Text.unplaced, List.map_map, List.append_assoc]
    rfl
  obtain ⟨us, again, bare⟩ := padded.relocate _ same
  rw [(tokenize_plain merge _).unique again]
  refine words.trans (alike_of_bare ?_)
  rw [withoutLayout_bare, bare, ← withoutLayout_bare]

/-- Layout put in at a boundary of tokens changes neither the program nor the construct in which, or the
kind of token at which, reading fails. -/
theorem parse_padded {merge : Bool} {source w : Text} {k : Nat}
    (boundary : TokenBoundary ⟨merge, false⟩ source k)
    (layout : ∀ c ∈ w, CharClass.ofChar c = .whitespace ∨ CharClass.ofChar c = .newLine) :
    match parse ⟨merge, false⟩ source,
      parse ⟨merge, false⟩ (source.take k ++ w ++ source.drop k) with
    | .ok p, .ok q => q.bare = p.bare
    | .error e, .error f => f.construct = e.construct ∧ f.token.kind = e.token.kind
    | _, _ => False := by
  have same := Parser.program_alike (Significant.kind_stop (tokenize ⟨merge, false⟩ source))
    (Significant.kind_stop (tokenize ⟨merge, false⟩ (source.take k ++ w ++ source.drop k)))
    (tokenize_padded boundary layout)
  rw [← parse_plain, ← parse_plain] at same
  revert same
  cases parse ⟨merge, false⟩ source with
  | ok p =>
    cases parse ⟨merge, false⟩ (source.take k ++ w ++ source.drop k) with
    | ok q => exact id
    | error f => exact id
  | error e =>
    cases parse ⟨merge, false⟩ (source.take k ++ w ++ source.drop k) with
    | ok q => exact id
    | error f =>
      intro sorts
      obtain ⟨cause, kind⟩ := Prod.mk.inj sorts
      exact ⟨SyntaxError.construct_eq cause, kind⟩

/-- A break and a blank behind a fault: the break becomes part of it. -/
theorem parse_padded_fault :
    let source : Text := ['f', '\x01', ')']
    let e : SyntaxError := ⟨.expression, ⟨.error, ['\x01'], some ⟨⟨1, 2, 1⟩, ⟨1, 3, 2⟩⟩⟩⟩
    parse .standard source = .error e ∧ TokenBoundary .standard source 2 ∧
      ∃ f, parse .standard ['f', '\x01', '\n', ' ', ')'] = .error f ∧
        f.construct = "Expression".toList ∧ f.token.kind = .error := by
  intro source e
  have failed : parse .standard source = .error e := by cbv
  have boundary : TokenBoundary .standard source 2 :=
    .inr (.inr ⟨e.token, by decide +kernel, _, rfl, rfl⟩)
  have layout : ∀ c ∈ ['\n', ' '], CharClass.ofChar c = .whitespace ∨ CharClass.ofChar c = .newLine := by
    intro c member
    simp only [List.mem_cons, List.not_mem_nil, or_false] at member
    rcases member with rfl | rfl <;> decide
  have same := parse_padded boundary layout
  refine ⟨failed, boundary, ?_⟩
  change match parse .standard source, parse .standard ['f', '\x01', '\n', ' ', ')'] with
    | .ok p, .ok q => q.bare = p.bare
    | .error e, .error f => f.construct = e.construct ∧ f.token.kind = e.token.kind
    | _, _ => False at same
  rw [failed] at same
  cases padded : parse .standard ['f', '\x01', '\n', ' ', ')'] with
  | ok q => simp [padded] at same
  | error f =>
    rw [padded] at same
    exact ⟨f, rfl, same⟩

end StyleValue

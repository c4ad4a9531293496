import StyleValue.Proofs.Padding

/-! Texts cut where tokens end. The text of consecutive tokens has these tokens and no others, wherever it
is taken from, and a cut at a boundary of tokens divides the tokens as it divides the text. -/
namespace StyleValue

/-- The lexer keeps nothing over the end of a token: consecutive tokens come back from their own text. -/
theorem tokenize_values {merge : Bool} {source : Text} {before middle after : List Token}
    (tokens : tokenize ⟨merge, false⟩ source = before ++ middle ++ after) :
    (tokenize ⟨merge, false⟩ (middle.flatMap (·.value))).map Token.bare = middle.map Token.bare := by
  have whole := tokenize_plain merge source
  rw [tokens] at whole
  obtain ⟨read, back, characters, segmentedRead, _⟩ := whole.split
  obtain ⟨front, run, rfl, _, segmented⟩ := segmentedRead.split
  have bares := slice_bare characters
  have text : (source.take (front.length + run.length)).drop front.length = middle.flatMap (·.value) := by
    rw [segmented.values, ← values_of_bare bares]
    exact (charactersFrom_values .origin _).symm
  rw [text] at bares
  obtain ⟨us, again, words⟩ := segmented.relocate _ bares
  rw [(tokenize_plain merge _).unique again, words]

/-! ### Offsets -/

/-- Whether a token lies between two offsets. -/
def Token.between (i j : Nat) (t : Token) : Bool :=
  t.span.any fun span => decide ((i : Int) ≤ span.start.offset) && decide (span.stop.offset ≤ (j : Int))

/-- Which offsets a token lies between, told from the values of the tokens in front of it. -/
theorem Tiles.between_iff {text : Text} {before middle after : List Token} {t : Token}
    (h : Tiles .origin text (before ++ middle ++ after)) (member : t ∈ middle) :
    ∃ front back, middle = front ++ t :: back ∧ 0 < t.value.length ∧ ∀ i j, t.between i j = true ↔
      i ≤ ((before ++ front).flatMap (·.value)).length ∧
        ((before ++ front).flatMap (·.value)).length + t.value.length ≤ j := by
  have wide := List.length_pos_iff.mpr (h.filled t (by simp [member]))
  obtain ⟨front, back, rfl⟩ := List.append_of_mem member
  rw [List.append_assoc, List.append_assoc, List.cons_append, ← List.append_assoc] at h
  obtain ⟨span, located, start, stop⟩ := h.offsets
  have first : span.start.offset = (((before ++ front).flatMap (·.value)).length : Int) := by
    simpa [Position.origin] using start
  refine ⟨front, back, rfl, wide, fun i j => ?_⟩
  simp only [Token.between, located, Option.any_some, Bool.and_eq_true, decide_eq_true_eq, stop, first]
  omega

/-- The tokens that lie between the ends of some consecutive tokens are these. -/
theorem Tiles.filter_between {text : Text} {before middle after : List Token}
    (h : Tiles .origin text (before ++ middle ++ after)) :
    (before ++ middle ++ after).filter (Token.between (before.flatMap (·.value)).length
      ((before ++ middle).flatMap (·.value)).length) = middle := by
  have front : ∀ t ∈ before, ¬t.between (before.flatMap (·.value)).length
      ((before ++ middle).flatMap (·.value)).length = true := by
    intro t member
    have whole : Tiles .origin text ([] ++ before ++ (middle ++ after)) := by simpa using h
    obtain ⟨front, back, rfl, wide, between⟩ := whole.between_iff member
    rw [between]
    simp only [List.flatMap_append, List.flatMap_cons, List.length_append, List.nil_append]
    omega
  have inside : ∀ t ∈ middle, t.between (before.flatMap (·.value)).length
      ((before ++ middle).flatMap (·.value)).length = true := by
    intro t member
    obtain ⟨front, back, rfl, _, between⟩ := h.between_iff member
    rw [between]
    simp only [List.flatMap_append, List.flatMap_cons, List.length_append]
    omega
  have behind : ∀ t ∈ after, ¬t.between (before.flatMap (·.value)).length
      ((before ++ middle).flatMap (·.value)).length = true := by
    intro t member
    have whole : Tiles .origin text (before ++ middle ++ after ++ []) := by simpa using h
    obtain ⟨front, back, rfl, wide, between⟩ := whole.between_iff member
    rw [between]
    simp only [List.flatMap_append, List.length_append]
    omega
  rw [List.filter_append, List.filter_append, List.filter_eq_nil_iff.mpr front,
    List.filter_eq_self.mpr inside, List.filter_eq_nil_iff.mpr behind, List.append_nil, List.nil_append]

/-! ### Boundaries -/

theorem TokenBoundary.between {merge : Bool} {source : Text} {i j : Nat}
    (first : TokenBoundary ⟨merge, false⟩ source i) (last : TokenBoundary ⟨merge, false⟩ source j)
    (order : i ≤ j) : ∃ before middle after,
      tokenize ⟨merge, false⟩ source = before ++ middle ++ after ∧
      (before.flatMap (·.value)).length = i ∧ ((before ++ middle).flatMap (·.value)).length = j := by
  have filled := (tokens_tiles merge source).filled
  obtain ⟨before, after, tokens, rfl⟩ := first.split
  obtain ⟨before', after', tokens', rfl⟩ := last.split
  rcases List.append_eq_append_iff.mp (tokens.symm.trans tokens') with
    ⟨middle, rfl, rfl⟩ | ⟨more, rfl, rfl⟩
  · exact ⟨before, middle, after', by simp [tokens], rfl, rfl⟩
  · -- No token is empty, so the two boundaries are one.
    have nothing : more = [] := by
      cases more with
      | nil => rfl
      | cons t more =>
        have wide := List.length_pos_iff.mpr (filled t (by
          change t ∈ tokenize ⟨merge, false⟩ source
          simp [tokens]))
        simp only [List.flatMap_append, List.flatMap_cons, List.length_append] at order
        omega
    subst nothing
    exact ⟨before', [], after, by simpa using tokens, by simp, by simp⟩

/-- A slice of a text between two boundaries of tokens has the tokens that lie between them. So the text of
one token is this token again, and the text of all of them has the same tokens. -/
theorem tokenize_between (merge : Bool) (source : Text) :
    (∀ i j, TokenBoundary ⟨merge, false⟩ source i → TokenBoundary ⟨merge, false⟩ source j → i ≤ j →
      ((tokenize ⟨merge, false⟩ source).filter (Token.between i j) <:+: tokenize ⟨merge, false⟩ source) ∧
      (tokenize ⟨merge, false⟩ ((source.take j).drop i)).map Token.bare =
        ((tokenize ⟨merge, false⟩ source).filter (Token.between i j)).map Token.bare) ∧
    (∀ t ∈ tokenize ⟨merge, false⟩ source,
      (tokenize ⟨merge, false⟩ t.value).map Token.bare = [t.bare]) ∧
    tokenize ⟨merge, false⟩ ((tokenize ⟨merge, false⟩ source).flatMap (·.value)) =
      tokenize ⟨merge, false⟩ source := by
  have tiles : Tiles .origin source (tokenize ⟨merge, false⟩ source) := tokens_tiles merge source
  refine ⟨fun i j first last order => ?_, fun t member => ?_, by rw [tiles.values]⟩
  · obtain ⟨before, middle, after, tokens, rfl, rfl⟩ := first.between last order
    have values : source = (before ++ middle).flatMap (·.value) ++ after.flatMap (·.value) := by
      rw [← List.flatMap_append, ← tokens, tiles.values]
    have slice : (source.take ((before ++ middle).flatMap (·.value)).length).drop
        (before.flatMap (·.value)).length = middle.flatMap (·.value) := by
      rw [values, List.take_left' rfl, List.flatMap_append, List.drop_left' rfl]
    have kept := (tokens ▸ tiles).filter_between
    rw [slice, tokenize_values tokens, tokens, kept]
    exact ⟨⟨before, after, rfl⟩, rfl⟩
  · obtain ⟨before, after, tokens⟩ := List.append_of_mem member
    have single := @tokenize_values merge source before [t] after (by simp [tokens])
    simpa using single

/-- The number keeps its percent sign where the slice ends with it. -/
theorem tokenize_between_call :
    let source : Text := ['f', '(', '7', '%', ')', ')']
    TokenBoundary .standard source 1 ∧ TokenBoundary .standard source 4 ∧
      (tokenize .standard ['(', '7', '%']).map Token.bare =
        [⟨.leftParen, ['('], none⟩, ⟨.percent, ['7', '%'], none⟩] := by
  intro source
  have first : TokenBoundary .standard source 1 :=
    .inr (.inr ⟨⟨.identifier, ['f'], some ⟨⟨1, 1, 0⟩, ⟨1, 2, 1⟩⟩⟩, by decide +kernel, _, rfl, rfl⟩)
  have last : TokenBoundary .standard source 4 :=
    .inr (.inr ⟨⟨.percent, ['7', '%'], some ⟨⟨1, 3, 2⟩, ⟨1, 5, 4⟩⟩⟩, by decide +kernel, _, rfl, rfl⟩)
  have slice := ((tokenize_between true source).1 1 4 first last (by decide)).2
  have lying : ((tokenize .standard source).filter (Token.between 1 4)).map Token.bare =
      [⟨.leftParen, ['('], none⟩, ⟨.percent, ['7', '%'], none⟩] := by decide +kernel
  exact ⟨first, last, slice.trans lying⟩

end StyleValue

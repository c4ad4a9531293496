import StyleValue.Proofs.FirstFault
import StyleValue.Proofs.Reparse
import StyleValue.Proofs.Rows

/-! Where the token that an error names stands in the text. It is a token of the text or the end of the
input, which stands behind such a token without a width. -/
namespace StyleValue

open Text

/-- A text with a token cut out of it: what is in front of the token, and what is behind it. -/
structure Token.StandsIn (t : Token) (text front back : Text) : Prop where
  split : text = front ++ (t.value ++ back)
  span : t.span = some ⟨front.endPosition, (front ++ t.value).endPosition⟩
  before : BreaksApart front (t.value ++ back)
  behind : BreaksApart (front ++ t.value) back

theorem Token.StandsIn.span_report {e : SyntaxError} {text front back : Text}
    (h : e.token.StandsIn text front back) (source : Text) :
    (e.report source).span = ⟨front.endPosition, (front ++ e.token.value).endPosition⟩ := by
  change e.token.span.getD _ = _
  rw [h.span]
  rfl

/-- A token in its lines: behind `last` in its first line, which goes on with `tail` if the token ends
in it. -/
theorem Token.StandsIn.rows {t : Token} {text front back : Text} (h : t.StandsIn text front back) :
    ∃ above last tail ending below, rows front = above ++ [⟨last, []⟩] ∧
      rows text = above ++ ⟨last ++ firstLine t.value ++ tail, ending⟩ :: below ∧
      ((front ++ t.value).endPosition =
          ⟨above.length + 1, (last ++ firstLine t.value).length + 1, (front ++ t.value).length⟩ ∨
        (above.length + 1 : Int) < (front ++ t.value).endPosition.line ∧ tail = []) := by
  obtain ⟨above, last, first, ending, more, fronts, middles, both⟩ := rows_append h.before.left
  obtain ⟨above', last', tail, ending', below, boths, _, whole⟩ := rows_append h.behind
  have stop := endPosition_eq boths
  have head : first = firstLine t.value := by
    obtain ⟨_, _, rows⟩ := rows_head t.value
    cases rows.symm.trans middles
    rfl
  subst head
  rw [List.append_assoc, ← h.split] at whole
  rw [both] at boths
  -- Without further rows the token ends in the line in which it begins.
  rcases List.eq_nil_or_concat more with rfl | ⟨init, row, rfl⟩
  · obtain ⟨rfl, same⟩ := List.append_inj' boths rfl
    cases same
    exact ⟨above, last, tail, ending', below, fronts, whole, .inl stop⟩
  · rw [List.concat_eq_append, ← List.cons_append, ← List.append_assoc] at boths
    obtain ⟨rfl, same⟩ := List.append_inj' boths rfl
    refine ⟨above, last, [], ending, init ++ ⟨last' ++ tail, ending'⟩ :: below, fronts, ?_,
      .inr ⟨?_, rfl⟩⟩
    · simp [whole]
    · rw [stop, List.length_append, List.length_cons]
      push_cast
      omega

theorem Tiles.stands {p : Position} {text : Text} {ts : List Token} (h : Tiles p text ts) (before : Text)
    (starts : before.endPosition = p) (apart : BreaksApart before text) :
    ∀ t ∈ ts, ∃ front back, t.StandsIn (before ++ text) front back := by
  induction h generalizing before with
  | nil => simp
  | @cons p t rest ts filled span seam _ ih =>
    have stops : (before ++ t.value).endPosition = p.afterText t.value := by
      rw [← starts]
      exact afterText_append apart.left _
    have behind : BreaksApart (before ++ t.value) rest := seam.append filled before
    refine List.forall_mem_cons.mpr ⟨⟨before, rest, rfl, ?_, apart, behind⟩, ?_⟩
    · rw [span, starts, stops]
    · rw [← List.append_assoc]
      exact ih (before ++ t.value) stops behind

theorem endToken_stands {text : Text} {ts : List Token}
    (stand : ∀ t ∈ ts, ∃ front back, t.StandsIn text front back) :
    ∃ front back, (endToken ts).StandsIn text front back := by
  -- The mark stands behind the last token, or in front of the whole text if there is none.
  cases last : ts.getLast? with
  | none =>
    refine ⟨[], text, rfl, ?_, breaksApart_nil _, breaksApart_nil _⟩
    rw [endToken, last]
    rfl
  | some t =>
    obtain ⟨front, back, split, span, before, behind⟩ := stand t (List.mem_of_getLast? last)
    refine ⟨front ++ t.value, back, ?_, ?_, behind, ?_⟩
    · rw [split, List.append_assoc]
      rfl
    · rw [endToken, last, List.append_nil]
      dsimp only
      rw [span]
      rfl
    · rwa [endToken, List.append_nil]

theorem tokenize_stands (o : LexOptions) (source : Text) :
    ∀ t ∈ tokenize o source, ∃ front back, t.StandsIn (o.text source) front back :=
  (tokens_tiles o.mergeOperators (o.text source)).stands [] rfl (breaksApart_nil _)

theorem exists_endToken {ts : List Token} (unended : ∀ t ∈ ts, t.kind ≠ .endOfInput) :
    ∃ us, us ⊆ ts ∧ (Significant.ofTokens ts).stop = endToken us := by
  have words : (withoutLayout ts).dropWhile (fun t => t.kind != .endOfInput) = [] := by
    refine List.dropWhile_eq_nil_iff.mpr fun t member => ?_
    simpa using unended t (List.mem_of_mem_filter member)
  refine ⟨if (withoutLayout ts).isEmpty then ts else withoutLayout ts, ?_, ?_⟩
  · split
    · exact List.Subset.refl ts
    · exact fun t => List.mem_of_mem_filter
  · unfold Significant.ofTokens
    dsimp only
    rw [words]
    rfl

/-- An error names a token of the text or the end of the input, which alone has no words. -/
theorem parse_error_token {o : LexOptions} {source : Text} {e : SyntaxError}
    (failed : parse o source = .error e) :
    (∃ front back, e.token.StandsIn (o.text source) front back) ∧
      (e.token.value = [] ↔ e.token.kind = .endOfInput) := by
  have unended := (tokenize_segmented o source).unended
  have stand := tokenize_stands o source
  obtain ⟨pre, post, split, _⟩ :=
    Parser.program_fails (Significant.kind_stop _) Significant.kind_tokens failed
  have named : e.token ∈ pre ++ e.token :: post := by simp
  rw [← split, significant_eq unended] at named
  rcases List.mem_append.mp named with member | ended
  · have token := List.mem_of_mem_filter member
    have filled := (tokens_tiles o.mergeOperators (o.text source)).filled _ token
    exact ⟨stand _ token, iff_of_false filled (unended _ token)⟩
  · obtain ⟨us, inside, stop⟩ := exists_endToken unended
    rw [List.mem_singleton.mp ended, stop]
    exact ⟨endToken_stands fun t member => stand t (inside member), iff_of_true rfl rfl⟩

end StyleValue

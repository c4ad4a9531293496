import Mathlib.Data.List.TakeWhile
import StyleValue.Proofs.Parts
import StyleValue.Proofs.Slices

/-! Every expression of a program is what the text under its span says. -/
namespace StyleValue

theorem trim_front {α : Type} {keeps : α → Bool} {l kept : List α} (same : l.filter keeps = kept)
    (filled : kept ≠ []) : ∃ skipped rest, l = skipped ++ rest ∧ rest.filter keeps = kept ∧
      rest.head? = kept.head? := by
  induction l with
  | nil => exact absurd same.symm filled
  | cons x l ih =>
    cases keep : keeps x with
    | true =>
      refine ⟨[], x :: l, rfl, same, ?_⟩
      rw [← same, List.filter_cons_of_pos keep]
      rfl
    | false =>
      rw [List.filter_cons_of_neg (by simp [keep])] at same
      obtain ⟨skipped, rest, rfl, filtered, head⟩ := ih same
      exact ⟨x :: skipped, rest, rfl, filtered, head⟩

theorem trim_back {α : Type} {keeps : α → Bool} {l kept : List α} (same : l.filter keeps = kept)
    (filled : kept ≠ []) : ∃ rest skipped, l = rest ++ skipped ∧ rest.filter keeps = kept ∧
      rest.getLast? = kept.getLast? := by
  have backwards : l.reverse.filter keeps = kept.reverse := by rw [List.filter_reverse, same]
  obtain ⟨skipped, rest, whole, filtered, head⟩ := trim_front backwards (by simpa using filled)
  refine ⟨rest.reverse, skipped.reverse, ?_, ?_, ?_⟩
  · rw [← List.reverse_append, ← whole, List.reverse_reverse]
  · rw [List.filter_reverse, filtered, List.reverse_reverse]
  · rw [List.getLast?_reverse, head, List.head?_reverse]

/-- What is kept of a list in a row comes from a row of the list that begins and ends with it. -/
theorem row_of_filter {α : Type} {keeps : α → Bool} {l before kept after : List α}
    (same : l.filter keeps = before ++ kept ++ after) (filled : kept ≠ []) :
    ∃ front row back, l = front ++ row ++ back ∧ row.filter keeps = kept ∧
      row.head? = kept.head? ∧ row.getLast? = kept.getLast? := by
  obtain ⟨read, back, rfl, reads, _⟩ := List.filter_eq_append_iff.mp same
  obtain ⟨front, here, rfl, _, filtered⟩ := List.filter_eq_append_iff.mp reads
  obtain ⟨lead, rest, rfl, fromFront, head⟩ := trim_front filtered filled
  obtain ⟨row, trail, rfl, fromBack, last⟩ := trim_back fromFront filled
  refine ⟨front ++ lead, row, trail ++ back, by simp, fromBack, ?_, last⟩
  rw [← head]
  cases row with
  | nil => exact absurd fromBack.symm filled
  | cons x row => rfl

theorem significant_eq {ts : List Token} (unended : ∀ t ∈ ts, t.kind ≠ .endOfInput) :
    (Significant.ofTokens ts).tokens = withoutLayout ts := by
  refine List.takeWhile_eq_self_iff.mpr fun t member => ?_
  simpa using unended t (List.mem_of_mem_filter member)

theorem ReadsAll.program_eq {body : List (Statement Located)} {ts : List Token}
    (h : ReadsAll body ts) (stop : Token) : ∃ p, Parser.program stop ts = .ok p ∧ p.body = body := by
  unfold Parser.program
  rw [h.statements_eq stop]
  dsimp only
  split <;> exact ⟨_, rfl, rfl⟩

/-- The lexer marks no end, so the parser reads all tokens but layout. -/
theorem parse_eq (o : LexOptions) (source : Text) : parse o source =
    Parser.program (Significant.ofTokens (tokenize o source)).stop (withoutLayout (tokenize o source)) := by
  rw [← significant_eq (tokenize_segmented o source).unended]
  rfl

theorem parse_plain (merge : Bool) (source : Text) : parse ⟨merge, false⟩ source =
    Parser.program (Significant.ofTokens (tokenize ⟨merge, false⟩ source)).stop
      (withoutLayout (tokenize ⟨merge, false⟩ source)) :=
  parse_eq ⟨merge, false⟩ source

/-- A program that is read from a source takes all of its words. -/
theorem parse_reads {o : LexOptions} {source : Text} {p : Program Located}
    (parsed : parse o source = .ok p) :
    ReadsAll p.body (withoutLayout (tokenize o source)) ∧
      p.note = if withoutLayout (tokenize o source) = []
        then (Significant.ofTokens (tokenize o source)).stop.span
        else covered (withoutLayout (tokenize o source)) := by
  have follow := Parser.program_follows (Significant.kind_stop (tokenize o source))
    (withoutLayout (tokenize o source))
  rw [parse_eq] at parsed
  rwa [parsed] at follow

/-- Where a source is no program, the scan over its words fails alike. -/
theorem parse_scan {o : LexOptions} {source : Text} {e : SyntaxError} (failed : parse o source = .error e) :
    Frontier.start.scan (Significant.ofTokens (tokenize o source)).stop
      (withoutLayout (tokenize o source)) = .error e := by
  have follow := Parser.program_follows (Significant.kind_stop (tokenize o source))
    (withoutLayout (tokenize o source))
  rw [parse_eq] at failed
  rwa [failed] at follow

/-- The span of every expression of a program marks a slice of the text, and the slice is a program of
one statement, the same expression again. -/
theorem parse_span_reparses {merge : Bool} {source : Text} {p : Program Located}
    (parsed : parse ⟨merge, false⟩ source = .ok p) {path : List Step} {n : Expr Located}
    (found : (Node.program p).at? path = some (.expression n)) :
    ∃ (span : Span) (i j : Nat), n.note = some span ∧ span.start.offset = i ∧ span.stop.offset = j ∧
      i < j ∧ j ≤ source.length ∧ ∃ (q : Program Located) (s : Statement Located),
        parse ⟨merge, false⟩ ((source.take j).drop i) = .ok q ∧ q.body = [s] ∧
          s.expression.bare = n.bare := by
  have follow := Parser.program_follows
    (Significant.kind_stop (tokenize ⟨merge, false⟩ source))
    (withoutLayout (tokenize ⟨merge, false⟩ source))
  rw [parse_plain] at parsed
  rw [parsed] at follow
  obtain ⟨before, us, after, whole, read, note⟩ := follow.1.descendant found
  obtain ⟨front, row, back, tokens, kept, head, last⟩ := row_of_filter whole read.ne_nil
  have filled : row ≠ [] := by
    rintro rfl
    exact read.ne_nil kept.symm
  obtain ⟨span, i, j, marks, start, stop, order, bound, again⟩ := tokenize_slice tokens filled
  refine ⟨span, i, j, ?_, start, stop, order, bound, ?_⟩
  · rw [note, ← marks]
    simp only [covered, head, last]
  · have words : (withoutLayout (tokenize ⟨merge, false⟩ ((source.take j).drop i))).map Token.bare =
        us.map Token.bare := by
      rw [withoutLayout_bare, again, ← withoutLayout_bare]
      exact congrArg (List.map Token.bare) kept
    obtain ⟨_, reread, alike⟩ := read.relocate _ words
    cases alike with
    | @expr _ _ e same =>
      have all := ReadsAll.cons reread (stops_nil _ _) .nil
      rw [List.append_nil] at all
      obtain ⟨q, reparsed, body⟩ := all.program_eq _
      exact ⟨q, _, (parse_plain merge _).trans reparsed, body, same⟩

/-- The argument of a call is at offset 2 and, read on its own, the same signed number. -/
theorem parse_span_reparses_argument :
    let span : Int → Int → Located := fun i j => some ⟨⟨1, i + 1, i⟩, ⟨1, j + 1, j⟩⟩
    let n : Expr Located := .unary ['-'] (.number 7 (span 3 4)) (span 2 4)
    let p : Program Located := ⟨[⟨.call ⟨['f'], span 0 1⟩ [n] (span 0 5), span 0 5⟩], span 0 5⟩
    parse ⟨false, false⟩ ['f', '(', '-', '7', ')'] = .ok p ∧
      (Node.program p).at? [.body 0, .expression, .arguments 0] = some (.expression n) ∧
      ∃ (q : Program Located) (s : Statement Located),
        parse ⟨false, false⟩ ['-', '7'] = .ok q ∧ q.body = [s] ∧ s.expression.bare = n.bare := by
  intro span n p
  have parsed : parse ⟨false, false⟩ ['f', '(', '-', '7', ')'] = .ok p := by cbv
  have found : (Node.program p).at? [.body 0, .expression, .arguments 0] = some (.expression n) := rfl
  refine ⟨parsed, found, ?_⟩
  obtain ⟨_, i, j, note, start, stop, _, _, reparsed⟩ := parse_span_reparses parsed found
  cases note
  have first : i = 2 := by
    change (2 : Int) = i at start
    omega
  have behind : j = 4 := by
    change (4 : Int) = j at stop
    omega
  subst first behind
  exact reparsed

end StyleValue

import StyleValue.Proofs.Recasting
import StyleValue.Proofs.Tiling

/-! The way in which a text writes its breaks. With every break written as a line feed a text is the same
program, or fails for the same cause, in the same lines and columns. Only the offsets differ. -/
namespace StyleValue

/-- The line and the column, without the offset. -/
def Position.cell (p : Position) : Position := { p with offset := 0 }

def Located.cells (s : Located) : Located := s.map (Span.map Position.cell)

namespace Text

/-! ### Texts with one kind of break -/

theorem ofChar_carriage (c : Char) :
    CharClass.ofChar (if c = '\r' then '\n' else c) = CharClass.ofChar c := by
  split
  · rename_i carriage
    rw [carriage]
    decide
  · rfl

theorem unifyBreaks_cons {c : Char} {rest : Text} (apart : BreaksApart [c] rest) :
    unifyBreaks (c :: rest) = (if c = '\r' then '\n' else c) :: unifyBreaks rest := by
  refine unifyBreaks.eq_3 c rest fun more carriage feed => ?_
  exact apart (by simp [carriage]) (by simp [feed])

theorem unifyBreaks_append {front back : Text} (apart : BreaksApart front back) :
    unifyBreaks (front ++ back) = unifyBreaks front ++ unifyBreaks back := by
  fun_induction unifyBreaks front with
  | case1 => rfl
  | case2 rest ih => exact congrArg ('\n' :: ·) (ih apart.of_cons.of_cons)
  | case3 c rest other ih =>
    rw [List.cons_append, unifyBreaks_cons (apart.first other), ih apart.of_cons]
    rfl

theorem carriage_not_mem_unifyBreaks (t : Text) : '\r' ∉ unifyBreaks t := by
  fun_induction unifyBreaks t with
  | case1 => simp
  | case2 rest ih => simpa using ih
  | case3 c rest other ih =>
    have unified : '\r' ≠ if c = '\r' then '\n' else c := by
      split
      · decide
      · exact Ne.symm ‹_›
    exact List.mem_cons.not.mpr (not_or.mpr ⟨unified, ih⟩)

theorem unifyBreaks_of_not_mem {t : Text} (plain : '\r' ∉ t) : unifyBreaks t = t := by
  fun_induction unifyBreaks t with
  | case1 => rfl
  | case2 rest ih => simp at plain
  | case3 c rest other ih =>
    simp only [List.mem_cons, not_or] at plain
    rw [if_neg (Ne.symm plain.1), ih plain.2]

theorem all_unifyBreaks (t : Text) : ((unifyBreaks t).all fun c => c = '\r' || c = '\n') =
    t.all fun c => c = '\r' || c = '\n' := by
  fun_induction unifyBreaks t with
  | case1 => rfl
  | case2 rest ih => simpa using ih
  | case3 c rest other ih =>
    rw [List.all_cons, List.all_cons, ih]
    split <;> simp_all

theorem lines_unifyBreaks (t : Text) : (unifyBreaks t).lines = t.lines := by
  unfold lines
  rw [unifyBreaks_of_not_mem (carriage_not_mem_unifyBreaks t)]

theorem mem_classes_unifyBreaks {t : Text} {k : CharClass}
    (member : k ∈ (unifyBreaks t).map CharClass.ofChar) : k ∈ t.map CharClass.ofChar := by
  fun_induction unifyBreaks t with
  | case1 => exact member
  | case2 rest ih =>
    rcases List.mem_cons.mp member with rfl | later
    · exact List.mem_cons_self
    · exact List.mem_cons_of_mem _ (List.mem_cons_of_mem _ (ih later))
  | case3 c rest other ih =>
    rw [List.map_cons, ofChar_carriage] at member
    exact List.mem_cons.mpr ((List.mem_cons.mp member).imp id ih)

theorem head?_unifyBreaks (t : Text) :
    (unifyBreaks t).head?.map CharClass.ofChar = t.head?.map CharClass.ofChar := by
  fun_cases unifyBreaks t with
  | case1 => rfl
  | case2 rest => rfl
  | case3 c rest other => exact congrArg some (ofChar_carriage c)

end Text

/-! ### Places -/

theorem Position.cell_eq {p q : Position} :
    p.cell = q.cell ↔ p.line = q.line ∧ p.column = q.column := by
  simp [cell]

theorem after_cell {p q : Position} (same : p.cell = q.cell) {c : Char} {rest : Text}
    (apart : BreaksApart [c] rest) :
    (p.after c rest).cell = (q.after (if c = '\r' then '\n' else c) rest.unifyBreaks).cell := by
  obtain ⟨lines, columns⟩ := Position.cell_eq.mp same
  unfold Position.after
  by_cases carriage : c = '\r'
  · have next : rest.head? ≠ some '\n' := apart (by simp [carriage])
    simp [carriage, next, Position.cell_eq, lines]
  · by_cases feed : c = '\n'
    · simp [feed, Position.cell_eq, lines]
    · simp [carriage, feed, Position.cell_eq, lines, columns]

/-- With all its breaks unified, a text ends in the same line and column. -/
theorem afterText_cell (t : Text) {p q : Position} (same : p.cell = q.cell) :
    (p.afterText t).cell = (q.afterText t.unifyBreaks).cell := by
  fun_induction Text.unifyBreaks t generalizing p q with
  | case1 => exact same
  | case2 rest ih =>
    refine ih ?_
    have lines := (Position.cell_eq.mp same).1
    simp [Position.after, Position.cell_eq, lines]
  | case3 c rest other ih => exact ih (after_cell same (BreaksApart.singleton other))

/-! ### Tokens -/

theorem head_unifyBreaks (p q : Position) (t : Text) :
    (charactersFrom q t.unifyBreaks).head?.map Character.charClass =
      (charactersFrom p t).head?.map Character.charClass := by
  rw [← List.head?_map, ← List.head?_map, charactersFrom_classes, charactersFrom_classes,
    List.head?_map, List.head?_map, Text.head?_unifyBreaks]

theorem State.holds_unifyBreaks {merge : Bool} {s : State} {t : Text}
    (holds : s.Holds merge (t.map CharClass.ofChar)) :
    s.Holds merge (t.unifyBreaks.map CharClass.ofChar) := by
  by_cases carriage : '\r' ∈ t
  · obtain rfl := initial_of_newLine holds (List.mem_map_of_mem carriage)
    refine ⟨fun empty => ?_, fun k member => holds.2 k (Text.mem_classes_unifyBreaks member)⟩
    have head := t.head?_unifyBreaks
    rw [List.map_eq_nil_iff.mp empty] at head
    refine holds.1 (List.map_eq_nil_iff.mpr ?_)
    simpa using head.symm
  · rwa [Text.unifyBreaks_of_not_mem carriage]

namespace Recast

def cells : Recast := ⟨Position.cell, id, rfl, rfl, fun _ => rfl⟩

def unified : Recast := ⟨Position.cell, Text.unifyBreaks, rfl, rfl, Text.all_unifyBreaks⟩

theorem token_cells_iff {t u : Token} : cells.token u = unified.token t ↔
    u.kind = t.kind ∧ u.value = t.value.unifyBreaks ∧ Located.cells u.span = Located.cells t.span := by
  rw [token, token, Token.mk.injEq]
  exact Iff.rfl

end Recast

theorem kind_unifyBreaks {merge : Bool} {s : State} {t : Text}
    (holds : s.Holds merge (t.map CharClass.ofChar)) (p q : Position) :
    s.form.kind (charactersFrom q t.unifyBreaks) = s.form.kind (charactersFrom p t) ∧
      (s.form.kind (charactersFrom p t) ≠ .error → t.unifyBreaks = t) := by
  by_cases carriage : '\r' ∈ t
  · obtain rfl := State.initial_of_newLine holds (List.mem_map_of_mem carriage)
    exact ⟨rfl, fun plain => absurd rfl plain⟩
  · have plain := Text.unifyBreaks_of_not_mem carriage
    refine ⟨s.form.kind_bare ?_, fun _ => plain⟩
    rw [plain, charactersFrom_bare, charactersFrom_bare]

theorem token_unifyBreaks {merge : Bool} {s : State} {p q : Position} (same : p.cell = q.cell) {t : Text}
    (holds : s.Holds merge (t.map CharClass.ofChar)) {first first' : Character}
    {later later' : List Character} (run : charactersFrom p t = first :: later)
    (run' : charactersFrom q t.unifyBreaks = first' :: later') :
    Recast.cells.token (s.form.token first' later') = Recast.unified.token (s.form.token first later) ∧
      ((s.form.token first later).kind ≠ .error → (s.form.token first later).value.unifyBreaks =
        (s.form.token first later).value) := by
  obtain ⟨kinds, plain⟩ := kind_unifyBreaks holds p q
  have stops := afterText_cell t same
  rw [s.form.token_eq run, s.form.token_eq run', Recast.token_cells_iff]
  exact ⟨⟨kinds, rfl, congrArg some (congrArg₂ Span.mk same.symm stops.symm)⟩, plain⟩

theorem Segmented.unifyBreaks {merge : Bool} {cs : List Character} {ts : List Token}
    (h : Segmented merge cs ts) {p q : Position} {text : Text} (read : cs = charactersFrom p text)
    (same : p.cell = q.cell) : ∃ us, Segmented merge (charactersFrom q text.unifyBreaks) us ∧
      us.map Recast.cells.token = ts.map Recast.unified.token ∧
      ∀ t ∈ ts, t.kind ≠ .error → t.value.unifyBreaks = t.value := by
  induction h generalizing p q text with
  | nil =>
    cases text with
    | nil => exact ⟨[], .nil, rfl, by simp⟩
    | cons c rest => cases read
  | @cons input later rest first form ts _ longest _ ih =>
    subst read
    obtain ⟨front, back, rfl, apart, run, behind⟩ := longest.text
    -- The run with its breaks unified is read in the same state and stopped by the same class.
    obtain ⟨s, rfl, holds, stops⟩ := longest.state
    obtain ⟨us, segmented, words, keeps⟩ := ih behind (afterText_cell front same)
    rw [run, charactersFrom_classes] at holds
    have holds' : s.Holds merge ((charactersFrom q front.unifyBreaks).map Character.charClass) := by
      rw [charactersFrom_classes]
      exact State.holds_unifyBreaks holds
    have stops' : ∀ c ∈ (charactersFrom (q.afterText front.unifyBreaks) back.unifyBreaks).head?,
        s.joins merge c.charClass = false := by
      intro d next
      have class' := congrArg (Option.map Character.charClass) next
      rw [head_unifyBreaks, ← behind] at class'
      obtain ⟨c, first, class'⟩ := Option.map_eq_some_iff.mp class'
      exact class' ▸ stops c first
    obtain ⟨first', later', run', others⟩ := Segmented.cons_of_holds holds' stops' segmented
    obtain ⟨token, plain⟩ := token_unifyBreaks same holds run.symm run'
    have apart' : BreaksApart front.unifyBreaks back.unifyBreaks := by
      intro last
      exact absurd (List.mem_of_getLast? last) front.carriage_not_mem_unifyBreaks
    rw [← charactersFrom_append apart', ← Text.unifyBreaks_append apart] at others
    refine ⟨_, others, ?_, List.forall_mem_cons.mpr ⟨plain, keeps⟩⟩
    rw [List.map_cons, List.map_cons, token, words]

theorem tokenize_unifyBreaks (merge : Bool) (source : Text) :
    (tokenize ⟨merge, false⟩ source.unifyBreaks).map Recast.cells.token =
      (tokenize ⟨merge, false⟩ source).map Recast.unified.token ∧
    ∀ t ∈ tokenize ⟨merge, false⟩ source, t.kind ≠ .error → t.value.unifyBreaks = t.value := by
  obtain ⟨us, segmented, words, keeps⟩ := (tokenize_plain merge source).unifyBreaks rfl rfl
  rw [(tokenize_plain merge source.unifyBreaks).unique segmented]
  exact ⟨words, keeps⟩

/-- With its breaks unified a text has the same outcome, but for offsets and breaks. -/
theorem outcome_unifyBreaks (merge : Bool) (source : Text) :
    Recast.cells.outcome (parse ⟨merge, false⟩ source.unifyBreaks) =
      Recast.unified.outcome (parse ⟨merge, false⟩ source) := by
  obtain ⟨words, keeps⟩ := tokenize_unifyBreaks merge source
  unfold parse
  rw [← Recast.unified.parseTokens_eq keeps, ← words]
  exact (Recast.cells.parseTokens_eq fun _ _ _ => rfl).symm

/-! ### Reports -/

/-- A report and that of the same error in the same source with its breaks unified. -/
structure Report.Unified (r r' : Report) : Prop where
  construct : r'.construct = r.construct
  atEnd : r'.atEnd = r.atEnd
  kind : r'.token.kind = r.token.kind
  place : r'.span.map Position.cell = r.span.map Position.cell
  value : r'.token.value = r.token.value.unifyBreaks
  rendered : '\r' ∉ r.token.value → ∀ name, r'.render name = r.render name

theorem ofEnd_unifyBreaks (source : Text) :
    (Position.ofEnd source.unifyBreaks).cell = (Position.ofEnd source).cell := by
  unfold Position.ofEnd
  rw [Text.lines_unifyBreaks]
  rfl

/-- Where an error stands is no part of its message. -/
theorem SyntaxError.message_eq {e f : SyntaxError} (cause : f.cause = e.cause)
    (word : f.token.SameWord e.token) : f.message = e.message := by
  obtain ⟨c, ⟨kind, value, span⟩⟩ := e
  obtain ⟨c', ⟨kind', value', span'⟩⟩ := f
  obtain ⟨rfl, rfl⟩ := word
  obtain rfl := cause
  rfl

namespace Report

variable {r r' : Report}

theorem span_cells (source : r'.source = r.source.unifyBreaks)
    (located : Located.cells r'.token.span = Located.cells r.token.span) :
    r'.span.map Position.cell = r.span.map Position.cell := by
  unfold span
  cases here : r.token.span with
  | none =>
    rw [here] at located
    rw [Option.map_eq_none_iff.mp located, source]
    exact congrArg Span.at (ofEnd_unifyBreaks r.source)
  | some span =>
    rw [here] at located
    obtain ⟨span', there, same⟩ := Option.map_eq_some_iff.mp located
    rw [there]
    exact same

theorem sourceLine_eq (source : r'.source = r.source.unifyBreaks) : r'.sourceLine = r.sourceLine := by
  funext line
  rw [sourceLine, sourceLine, source, Text.lines_unifyBreaks]

theorem render_eq (message : r'.message = r.message) (construct : r'.construct = r.construct)
    (source : r'.source = r.source.unifyBreaks)
    (place : r'.span.map Position.cell = r.span.map Position.cell) (name : Text) :
    r'.render name = r.render name := by
  have starts := Position.cell_eq.mp (congrArg Span.start place)
  have stops := Position.cell_eq.mp (congrArg Span.stop place)
  have lines := sourceLine_eq source
  have underlined : r'.underlined = r.underlined := by
    simp only [Report.underlined, starts, stops, lines]
  unfold render
  rw [message, construct, underlined, lines]
  generalize r'.span.start = start' at starts
  generalize r.span.start = start at starts
  obtain ⟨line, column, offset⟩ := start
  obtain ⟨line', column', offset'⟩ := start'
  obtain ⟨rfl, rfl⟩ := starts
  rfl

end Report

theorem SyntaxError.report_unified {e f : SyntaxError} (source : Text) (cause : f.cause = e.cause)
    (token : Recast.cells.token f.token = Recast.unified.token e.token) :
    (e.report source).Unified (f.report source.unifyBreaks) := by
  obtain ⟨kind, value, located⟩ := Recast.token_cells_iff.mp token
  have place : (f.report source.unifyBreaks).span.map Position.cell =
      (e.report source).span.map Position.cell := Report.span_cells rfl located
  refine ⟨construct_eq cause, ?_, kind, place, value, fun plain => ?_⟩
  · change decide (f.token.kind = .endOfInput) = decide (e.token.kind = .endOfInput)
    rw [kind]
  · have word : f.token.SameWord e.token :=
      ⟨kind, value.trans (Text.unifyBreaks_of_not_mem plain)⟩
    exact Report.render_eq (message_eq cause word) (construct_eq cause) rfl place

/-- How a source writes its breaks changes only offsets and what errors quote of the breaks. -/
theorem parse_unifyBreaks (merge : Bool) (source : Text) :
    match parse ⟨merge, false⟩ source, parse ⟨merge, false⟩ source.unifyBreaks with
    | .ok p, .ok q => q.map Located.cells = p.map Located.cells
    | .error e, .error f => (e.report source).Unified (f.report source.unifyBreaks)
    | _, _ => False := by
  have same := outcome_unifyBreaks merge source
  generalize parse ⟨merge, false⟩ source = result at same ⊢
  generalize parse ⟨merge, false⟩ source.unifyBreaks = result' at same ⊢
  cases result with
  | ok p =>
    cases result' with
    | ok q => exact Except.ok.inj same
    | error f => cases same
  | error e =>
    cases result' with
    | ok q => cases same
    | error f =>
      obtain ⟨cause, token⟩ := SyntaxError.mk.inj (Except.error.inj same)
      exact SyntaxError.report_unified source cause token

end StyleValue

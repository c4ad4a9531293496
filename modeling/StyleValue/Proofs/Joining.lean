import StyleValue.Proofs.Seams
import StyleValue.Proofs.Sequences
import StyleValue.Proofs.Spelling

/-! Two sources with a line break between them. A break is layout, so the tokens that count are those of
both sources, and statements on different lines may become one. -/
namespace StyleValue

/-! ### Tokens around a break -/

/-- A run that is an error token to the lexer and layout to the parser. -/
structure BreakRun (merge : Bool) (run : List Character) : Prop where
  fault : State.initial.Holds merge (run.map Character.charClass)
  breaks : (run.flatMap (·.value)).all (fun c => c = '\r' || c = '\n') = true

theorem withoutLayout_cons (t : Token) (ts : List Token) :
    withoutLayout (t :: ts) = withoutLayout [t] ++ withoutLayout ts :=
  List.filter_append [t] ts

theorem withoutLayout_cons_layout {t : Token} {ts : List Token} (layout : t.isLayout = true) :
    withoutLayout (t :: ts) = withoutLayout ts :=
  List.filter_cons_of_neg (by simp [layout])

/-- All tokens that the lexer could not place are layout. -/
def Faultless (ts : List Token) : Prop := ∀ t ∈ ts, t.kind = .error → t.isLayout = true

theorem faultless_of_words {ts : List Token} (words : ∀ t ∈ withoutLayout ts, t.kind ≠ .error) :
    Faultless ts := by
  intro t member fault
  by_contra counts
  exact words t (List.mem_filter.mpr ⟨member, by simpa using counts⟩) fault

theorem Longest.fault {merge : Bool} {input run rest : List Character}
    (h : Longest (Form.fault.Matches merge) input run rest) :
    ∀ c ∈ rest.head?, State.initial.joins merge c.charClass = false := by
  obtain ⟨s, same, holds, apart⟩ := h.state
  cases s with
  | initial => exact apart
  | finished => exact holds.elim
  | _ => cases same

theorem apart_of_begunBy {merge : Bool} {form : Form} {k : CharClass}
    (begun : Form.begunBy k = some form) (placed : form ≠ .fault) :
    State.initial.joins merge k = false := by
  cases k <;> cases begun <;> first | rfl | exact absurd rfl placed

namespace BreakRun

variable {merge : Bool} {run later : List Character}

theorem append (h : BreakRun merge run) (more : BreakRun merge later) :
    BreakRun merge (run ++ later) := by
  refine ⟨⟨?_, ?_⟩, ?_⟩
  · simpa using fun empty => absurd empty (by simpa using h.fault.1)
  · rw [List.map_append]
    exact List.forall_mem_append.mpr ⟨h.fault.2, more.fault.2⟩
  · rw [List.flatMap_append, List.all_append, h.breaks, more.breaks]
    rfl

theorem of_layout {first : Character} {later : List Character}
    (holds : Form.fault.Matches merge ((first :: later).map Character.charClass))
    (layout : (Form.fault.token first later).isLayout = true) : BreakRun merge (first :: later) :=
  ⟨holds, layout⟩

theorem alone (h : BreakRun merge run) {rest : List Character} {ts : List Token}
    (apart : ∀ c ∈ rest.head?, State.initial.joins merge c.charClass = false)
    (others : Segmented merge rest ts) :
    ∃ us, Segmented merge (run ++ rest) us ∧ withoutLayout us = withoutLayout ts := by
  obtain ⟨first, later, rfl, segmented⟩ := others.cons_of_holds h.fault apart
  exact ⟨_, segmented, withoutLayout_cons_layout h.breaks⟩

theorem before (h : BreakRun merge run) {cs : List Character} {ts : List Token}
    (behind : Segmented merge cs ts) (faultless : Faultless ts) :
    ∃ us, Segmented merge (run ++ cs) us ∧ withoutLayout us = withoutLayout ts := by
  cases behind with
  | nil => exact h.alone (by simp) .nil
  | @cons _ later rest first form ts begun longest others =>
    obtain ⟨here, there⟩ := List.forall_mem_cons.mp faultless
    by_cases fault : form = .fault
    · -- The breaks go on into the run behind them, which is layout like themselves.
      subst fault
      have layout := here rfl
      obtain ⟨us, segmented, words⟩ :=
        (h.append (of_layout longest.holds layout)).alone longest.fault others
      rw [longest.split, ← List.append_assoc]
      exact ⟨us, segmented, words.trans (withoutLayout_cons_layout layout).symm⟩
    · refine h.alone (fun c next => ?_) (.cons begun longest others)
      rw [longest.split] at next
      cases next
      exact apart_of_begunBy begun fault

end BreakRun

theorem not_joins_break {merge : Bool} {s : State} (placed : s.form ≠ .fault) :
    s.joins merge .newLine = false := by
  cases s <;> cases merge <;> first | rfl | exact absurd rfl placed

/-- With a break between two inputs, the tokens that count are those of both. -/
theorem Segmented.around_break {merge : Bool} {nl : Character} (class' : nl.charClass = .newLine)
    (run : BreakRun merge [nl]) {cs ds : List Character} {ts us : List Token}
    (one : Segmented merge cs ts) (other : Segmented merge ds us) (ones : Faultless ts)
    (others : Faultless us) : ∃ ws, Segmented merge (cs ++ nl :: ds) ws ∧
      withoutLayout ws = withoutLayout ts ++ withoutLayout us := by
  induction one with
  | nil => exact run.before other others
  | @cons input later rest first form ts begun longest behind ih =>
    obtain ⟨here, there⟩ := List.forall_mem_cons.mp ones
    rw [longest.split]
    by_cases open' : rest = [] ∧ form = .fault
    · -- The break joins the last run of the first input, and the two are layout.
      obtain ⟨rfl, rfl⟩ := open'
      obtain rfl := behind.of_nil
      have layout := here rfl
      have wide := (BreakRun.of_layout longest.holds layout).append run
      obtain ⟨ws, segmented, words⟩ := wide.before other others
      refine ⟨ws, by simpa using segmented, words.trans ?_⟩
      rw [withoutLayout_cons_layout layout]
      rfl
    · obtain ⟨ws, segmented, words⟩ := ih there
      obtain ⟨s, rfl, holds, apart⟩ := longest.state
      have stops : ∀ c ∈ (rest ++ nl :: ds).head?, s.joins merge c.charClass = false := by
        cases rest with
        | cons c rest => exact apart
        | nil =>
          intro c next
          cases next
          rw [class']
          exact not_joins_break fun fault => open' ⟨rfl, fault⟩
      refine ⟨s.form.token first later :: ws, ?_, ?_⟩
      · rw [List.append_assoc]
        exact .cons begun (longest_of_holds holds stops) segmented
      · rw [withoutLayout_cons, words, withoutLayout_cons _ ts, List.append_assoc]

theorem tokenize_break {merge : Bool} {first second : Text}
    (ones : ∀ t ∈ withoutLayout (tokenize ⟨merge, false⟩ first), t.kind ≠ .error)
    (others : ∀ t ∈ withoutLayout (tokenize ⟨merge, false⟩ second), t.kind ≠ .error) :
    (withoutLayout (tokenize ⟨merge, false⟩ (first ++ '\n' :: second))).map Token.bare =
      (withoutLayout (tokenize ⟨merge, false⟩ first) ++
        withoutLayout (tokenize ⟨merge, false⟩ second)).map Token.bare := by
  let nl : Character := ⟨['\n'], .newLine, .origin⟩
  have run : BreakRun merge [nl] := ⟨⟨by simp, by simp [nl]⟩, by simp [nl]⟩
  obtain ⟨ws, segmented, words⟩ := Segmented.around_break rfl run (tokenize_plain merge first)
    (tokenize_plain merge second) (faultless_of_words ones) (faultless_of_words others)
  have characters : (Text.characters (first ++ '\n' :: second)).map Character.bare =
      (first.characters ++ nl :: second.characters).map Character.bare := by
    unfold Text.characters
    rw [List.map_append, List.map_cons, charactersFrom_bare, charactersFrom_bare, charactersFrom_bare,
      List.map_append, List.map_cons]
    rfl
  obtain ⟨vs, again, same⟩ := segmented.relocate _ characters
  rw [(tokenize_plain merge _).unique again, withoutLayout_bare, same, ← withoutLayout_bare, words]

/-! ### Programs around a break -/

/-- Whether the second of two programs goes on with the last statement of the first: by a sign, or by a
bracket behind a name. -/
def Continues (p : Program Located) (ts us : List Token) : Prop :=
  p.body ≠ [] ∧ ∃ u ∈ (withoutLayout us).head?, u.kind = .plus ∨ u.kind = .minus ∨
    u.kind = .leftParen ∧ ∃ t ∈ (withoutLayout ts).getLast?, t.kind = .identifier

theorem continues_iff {p : Program Located} {ts us : List Token}
    (read : ReadsAll p.body (withoutLayout ts)) : Continues p ts us ↔
      ∃ t ∈ (withoutLayout ts).getLast?, ∃ u ∈ (withoutLayout us).head?,
        t.kind.fuses u.kind = true := by
  have filled : p.body ≠ [] ↔ ∃ t, t ∈ (withoutLayout ts).getLast? := by
    generalize withoutLayout ts = words, p.body = body at read
    cases read with
    | nil => simp
    | cons first =>
      obtain ⟨t, last⟩ := Option.isSome_iff_exists.mp
        (List.getLast?_isSome.mpr (List.append_ne_nil_of_left_ne_nil first.ne_nil _))
      exact ⟨fun _ => ⟨t, last⟩, by simp⟩
  constructor
  · rintro ⟨nonempty, u, head, continues⟩
    obtain ⟨t, last⟩ := filled.mp nonempty
    refine ⟨t, last, u, head, ?_⟩
    rcases continues with kind | kind | ⟨kind, v, last', name⟩
    · simp [TokenKind.fuses, kind, TokenKind.isSign]
    · simp [TokenKind.fuses, kind, TokenKind.isSign]
    · cases last.symm.trans last'
      simp [TokenKind.fuses, kind, name]
  · rintro ⟨t, last, u, head, fuses⟩
    refine ⟨filled.mpr ⟨t, last⟩, u, head, ?_⟩
    rcases Bool.or_eq_true_iff.mp fuses with sign | call
    · cases kind : u.kind <;> simp_all [TokenKind.isSign]
    · obtain ⟨paren, name⟩ := Bool.and_eq_true_iff.mp call
      exact .inr (.inr ⟨of_decide_eq_true paren, t, last, of_decide_eq_true name⟩)

/-- Two programs with a line break between them are a program. Its statements are those of both, unless
the second one goes on with the last statement of the first: then two statements are one. -/
theorem parse_break {merge : Bool} {first second : Text} {p q : Program Located}
    (one : parse ⟨merge, false⟩ first = .ok p) (other : parse ⟨merge, false⟩ second = .ok q) :
    ∃ r, parse ⟨merge, false⟩ (first ++ '\n' :: second) = .ok r ∧
      (Continues p (tokenize ⟨merge, false⟩ first) (tokenize ⟨merge, false⟩ second) →
        r.body.length + 1 = p.body.length + q.body.length) ∧
      (¬Continues p (tokenize ⟨merge, false⟩ first) (tokenize ⟨merge, false⟩ second) →
        r.bare.body = p.bare.body ++ q.bare.body) := by
  have ones := reads_of_parse one
  have others := reads_of_parse other
  have words := tokenize_break ones.ne_error others.ne_error
  rw [continues_iff ones]
  by_cases fused : ∃ t ∈ (withoutLayout (tokenize ⟨merge, false⟩ first)).getLast?,
      ∃ u ∈ (withoutLayout (tokenize ⟨merge, false⟩ second)).head?, t.kind.fuses u.kind = true
  · obtain ⟨t, last, u, head, fuses⟩ := fused
    obtain ⟨whole, read, lengths⟩ := ones.fuse others last head fuses
    obtain ⟨body, reread, trees⟩ := read.relocate _ words
    obtain ⟨r, parsed, rfl⟩ := parse_of_reads reread
    refine ⟨r, parsed, fun _ => ?_, fun apart => absurd ⟨t, last, u, head, fuses⟩ apart⟩
    have same := congrArg List.length trees
    rw [List.length_map, List.length_map] at same
    rw [same, lengths]
  · have read := ones.append others fun t last u head => by
      by_contra fuses
      exact fused ⟨t, last, u, head, by simpa using fuses⟩
    obtain ⟨body, reread, trees⟩ := read.relocate _ words
    obtain ⟨r, parsed, rfl⟩ := parse_of_reads reread
    refine ⟨r, parsed, fun continues => absurd continues fused, fun _ => ?_⟩
    exact trees.trans List.map_append

set_option maxRecDepth 2000 in
theorem parse_break_call :
    let p : Program Located := ⟨[⟨.identifier ⟨['f'], some ⟨⟨1, 1, 0⟩, ⟨1, 2, 1⟩⟩⟩,
      some ⟨⟨1, 1, 0⟩, ⟨1, 2, 1⟩⟩⟩], some ⟨⟨1, 1, 0⟩, ⟨1, 2, 1⟩⟩⟩
    let q : Program Located := ⟨[⟨.group (.identifier ⟨['x'], some ⟨⟨1, 2, 1⟩, ⟨1, 3, 2⟩⟩⟩)
      (some ⟨⟨1, 1, 0⟩, ⟨1, 4, 3⟩⟩), some ⟨⟨1, 1, 0⟩, ⟨1, 4, 3⟩⟩⟩], some ⟨⟨1, 1, 0⟩, ⟨1, 4, 3⟩⟩⟩
    parse .standard ['f'] = .ok p ∧ parse .standard ['(', 'x', ')'] = .ok q ∧
      ∃ r, parse .standard ['f', '\n', '(', 'x', ')'] = .ok r ∧ r.body.length = 1 := by
  intro p q
  have one : parse .standard ['f'] = .ok p := by cbv
  have other : parse .standard ['(', 'x', ')'] = .ok q := by cbv
  obtain ⟨r, parsed, fused, _⟩ := parse_break one other
  have name : (withoutLayout (tokenize .standard ['f'])).getLast?.map Token.kind =
      some .identifier := by decide
  have paren : (withoutLayout (tokenize .standard ['(', 'x', ')'])).head?.map Token.kind =
      some .leftParen := by decide
  obtain ⟨t, last, kind⟩ := Option.map_eq_some_iff.mp name
  obtain ⟨u, first, opens⟩ := Option.map_eq_some_iff.mp paren
  have lengths : r.body.length + 1 = 1 + 1 :=
    fused ⟨by simp [p], u, first, .inr (.inr ⟨opens, t, last, kind⟩)⟩
  exact ⟨one, other, r, parsed, by omega⟩

end StyleValue

import StyleValue.Token.Lexer

/-! The automaton against a plain description of tokens. The description knows no states: the class of
the first character tells the form of a token, and the token is the longest front of the input that has
the form. -/
namespace StyleValue

inductive Form where
  | space
  | hex
  | word
  | number
  | symbol
  | fault
  deriving DecidableEq, Repr

namespace Form

/-- The form that a character of the class begins. The end of the input begins none. -/
def begunBy : CharClass → Option Form
  | .whitespace => some space
  | .hash => some hex
  | .letter => some word
  | .number => some number
  | .operator => some symbol
  | .start | .newLine | .percent | .other => some fault
  | .endOfInput => none

/-- Whether classes are a run of the form. Only where operators merge can several be one run. -/
def Matches (merge : Bool) : Form → List CharClass → Prop
  | space, run => run ≠ [] ∧ ∀ k ∈ run, k = .whitespace
  | hex, run => ∃ later, run = .hash :: later ∧ ∀ k ∈ later, k = .hash ∨ k = .letter ∨ k = .number
  | word, run => ∃ later, run = .letter :: later ∧ ∀ k ∈ later, k = .letter ∨ k = .number
  | number, run => ∃ digits, digits ≠ [] ∧ (∀ k ∈ digits, k = .number) ∧
      (run = digits ∨ run = digits ++ [.percent])
  | symbol, run => run ≠ [] ∧ (∀ k ∈ run, k = .operator) ∧ (merge = false → run.length = 1)
  | fault, run => run ≠ [] ∧ ∀ k ∈ run, k = .start ∨ k = .newLine ∨ k = .percent ∨ k = .other

/-- The kind of a token of the form. Numbers and percentages have one form, operators have one, too. -/
def kind (run : List Character) : Form → TokenKind
  | space => .whitespace
  | hex => .hexValue
  | word => .identifier
  | number => if run.any (·.charClass = .percent) then .percent else .number
  | symbol => .ofOperator (run.flatMap (·.value))
  | fault => .error

def token (form : Form) (first : Character) (later : List Character) : Token :=
  ⟨form.kind (first :: later), (first :: later).flatMap (·.value), some (.ofRun first later)⟩

end Form

/-- `run` is the longest front of `input` that has a property, and `rest` is left. -/
structure Longest (property : List CharClass → Prop) (input run rest : List Character) : Prop where
  split : input = run ++ rest
  holds : property (run.map Character.charClass)
  longest : ∀ run' rest', input = run' ++ rest' → property (run'.map Character.charClass) →
    run'.length ≤ run.length

/-- The tokens of characters, each as long as it can be. -/
inductive Segmented (merge : Bool) : List Character → List Token → Prop where
  | nil : Segmented merge [] []
  | cons {input later rest : List Character} {first : Character} {form : Form} {ts : List Token} :
      Form.begunBy first.charClass = some form →
      Longest (form.Matches merge) input (first :: later) rest → Segmented merge rest ts →
      Segmented merge input (form.token first later :: ts)

theorem Longest.unique {property : List CharClass → Prop} {input run rest run' rest' : List Character}
    (one : Longest property input run rest) (other : Longest property input run' rest') :
    run = run' ∧ rest = rest' := by
  have atLeast := one.longest run' rest' other.split other.holds
  have atMost := other.longest run rest one.split one.holds
  exact List.append_inj (one.split.symm.trans other.split) (by omega)

theorem Segmented.unique {merge : Bool} {input : List Character} {ts us : List Token}
    (one : Segmented merge input ts) (other : Segmented merge input us) : ts = us := by
  induction one generalizing us with
  | nil =>
    cases other with
    | nil => rfl
    | cons _ longest _ => cases longest.split
  | @cons input later rest first form ts begun longest _ ih =>
    cases other with
    | nil => cases longest.split
    | @cons _ later' rest' first' form' us begun' longest' others =>
      have same : first = first' := by
        have heads := congrArg List.head? (longest.split.symm.trans longest'.split)
        exact Option.some.inj heads
      subst same
      have forms : form = form' := Option.some.inj (begun.symm.trans begun')
      subst forms
      obtain ⟨runs, rests⟩ := longest.unique longest'
      cases runs
      subst rests
      rw [ih others]

namespace State

/-- What has been read in a state, since the last token. In `percent` that is a number and its sign,
and between two steps the automaton is never finished before the input is. -/
def Holds (merge : Bool) : State → List CharClass → Prop
  | initial, run => Form.fault.Matches merge run
  | whitespace, run => Form.space.Matches merge run
  | hex, run => Form.hex.Matches merge run
  | letter, run => Form.word.Matches merge run
  | number, run => run ≠ [] ∧ ∀ k ∈ run, k = .number
  | percent, run => ∃ digits, digits ≠ [] ∧ (∀ k ∈ digits, k = .number) ∧ run = digits ++ [.percent]
  | operator, run => Form.symbol.Matches merge run
  | finished, _ => False

def form : State → Form
  | whitespace => .space
  | hex => .hex
  | letter => .word
  | number | percent => .number
  | operator => .symbol
  | initial | finished => .fault

/-- Whether a character of the class goes on with the run of the state. -/
def joins (merge : Bool) (s : State) (k : CharClass) : Bool :=
  match s with
  | initial => opened k = initial
  | _ => s.next merge k ≠ initial

/-- The classes that go on with the run of a state. -/
def joined (merge : Bool) : State → List CharClass
  | initial => [.start, .newLine, .percent, .other]
  | whitespace => [.whitespace]
  | hex => [.hash, .letter, .number]
  | letter => [.letter, .number]
  | number => [.number, .percent]
  | percent => []
  | operator => if merge then [.operator] else []
  | finished => [.endOfInput]

variable {merge : Bool} {s : State} {run : List CharClass} {k : CharClass}

theorem joins_iff : s.joins merge k = true ↔ k ∈ s.joined merge := by
  cases s <;> cases k <;> cases merge <;> decide

theorem matches_of_holds (h : s.Holds merge run) : s.form.Matches merge run := by
  cases s with
  | number => exact ⟨run, h.1, h.2, .inl rfl⟩
  | percent =>
    obtain ⟨digits, nonempty, all, rfl⟩ := h
    exact ⟨digits, nonempty, all, .inr rfl⟩
  | finished => exact h.elim
  | _ => exact h

theorem ne_nil_of_holds (h : s.Holds merge run) : run ≠ [] := by
  cases s with
  | hex | letter | percent =>
    rcases h with ⟨_, h⟩
    intro empty
    simp [empty] at h
  | finished => exact h.elim
  | _ => exact h.1

theorem begunBy_of_holds {later : List CharClass} (h : s.Holds merge (k :: later)) :
    Form.begunBy k = some s.form := by
  cases s with
  | initial =>
    have first := h.2 k List.mem_cons_self
    rcases first with rfl | rfl | rfl | rfl <;> rfl
  | whitespace => rw [h.2 k List.mem_cons_self]; rfl
  | hex | letter =>
    obtain ⟨_, same, _⟩ := h
    cases same
    rfl
  | number => rw [h.2 k List.mem_cons_self]; rfl
  | percent =>
    obtain ⟨digits, nonempty, all, same⟩ := h
    cases digits with
    | nil => exact absurd rfl nonempty
    | cons first digits =>
      cases same
      rw [all k List.mem_cons_self]; rfl
  | operator => rw [h.2.1 k List.mem_cons_self]; rfl
  | finished => exact h.elim

theorem holds_opened (unended : k ≠ .endOfInput) : (opened k).Holds merge [k] := by
  cases k <;> simp_all [opened, Holds, Form.Matches]

theorem holds_next (h : s.Holds merge run) (joins : s.joins merge k = true) :
    (s.next merge k).Holds merge (run ++ [k]) := by
  rw [joins_iff] at joins
  cases s with
  | initial =>
    simp only [joined, List.mem_cons, List.not_mem_nil, or_false] at joins
    have stays : initial.next merge k = initial := by
      rcases joins with rfl | rfl | rfl | rfl <;> rfl
    rw [stays]
    exact ⟨by simp, List.forall_mem_append.mpr ⟨h.2, by simpa using joins⟩⟩
  | whitespace =>
    simp only [joined, List.mem_singleton] at joins
    subst joins
    exact ⟨by simp, List.forall_mem_append.mpr ⟨h.2, by simp⟩⟩
  | hex =>
    obtain ⟨later, rfl, all⟩ := h
    simp only [joined, List.mem_cons, List.not_mem_nil, or_false] at joins
    have stays : hex.next merge k = hex := by rcases joins with rfl | rfl | rfl <;> rfl
    rw [stays]
    exact ⟨later ++ [k], rfl, List.forall_mem_append.mpr ⟨all, by simpa using joins⟩⟩
  | letter =>
    obtain ⟨later, rfl, all⟩ := h
    simp only [joined, List.mem_cons, List.not_mem_nil, or_false] at joins
    have stays : letter.next merge k = letter := by rcases joins with rfl | rfl <;> rfl
    rw [stays]
    exact ⟨later ++ [k], rfl, List.forall_mem_append.mpr ⟨all, by simpa using joins⟩⟩
  | number =>
    simp only [joined, List.mem_cons, List.not_mem_nil, or_false] at joins
    rcases joins with rfl | rfl
    · exact ⟨by simp, List.forall_mem_append.mpr ⟨h.2, by simp⟩⟩
    · exact ⟨run, h.1, h.2, rfl⟩
  | percent => cases joins
  | operator =>
    cases merge with
    | false => cases joins
    | true =>
      simp only [joined, ite_true, List.mem_singleton] at joins
      subst joins
      exact ⟨by simp, List.forall_mem_append.mpr ⟨h.2.1, by simp⟩, by simp⟩
  | finished => exact h.elim

theorem not_matches (h : s.Holds merge run) (apart : s.joins merge k = false) (more : List CharClass) :
    ¬s.form.Matches merge (run ++ k :: more) := by
  rw [← Bool.not_eq_true, joins_iff] at apart
  intro whole
  cases s with
  | initial => exact apart (by simpa [joined] using whole.2 k (by simp))
  | whitespace => exact apart (by simpa [joined] using whole.2 k (by simp))
  | hex | letter =>
    obtain ⟨later, rfl, _⟩ := h
    obtain ⟨later', same, all⟩ := whole
    cases same
    exact apart (by simpa [joined] using all k (by simp))
  | number =>
    obtain ⟨digits, _, all, whole⟩ := whole
    have inside : k ∈ run ++ k :: more := by simp
    have member : k = .number ∨ k = .percent := by
      rcases whole with same | same <;> rw [same] at inside
      · exact .inl (all k inside)
      · exact (List.mem_append.mp inside).imp (all k) List.mem_singleton.mp
    exact apart (by simpa [joined] using member)
  | percent =>
    obtain ⟨read, _, _, rfl⟩ := h
    obtain ⟨digits, _, all, whole⟩ := whole
    -- The sign that has been read is not the last character, so it would be a digit.
    have inside : .percent ∈ digits := by
      rcases whole with same | same
      · rw [← same]
        simp
      · have front := congrArg List.dropLast same
        rw [List.dropLast_append_cons, List.dropLast_concat] at front
        rw [← front]
        simp
    have digit := all _ inside
    cases digit
  | operator =>
    cases merge with
    | true => exact apart (by simpa [joined] using whole.2.1 k (by simp))
    | false =>
      have shorter := whole.2.2 rfl
      have read := h.2.2 rfl
      simp [read] at shorter
  | finished => exact h.elim

theorem not_joins_end (h : s.Holds merge run) : s.joins merge .endOfInput = false := by
  cases s with
  | finished => exact h.elim
  | operator => cases merge <;> rfl
  | _ => rfl

end State

open State

theorem longest_of_holds {merge : Bool} {s : State} {run rest : List Character}
    (h : s.Holds merge (run.map Character.charClass))
    (apart : ∀ c ∈ rest.head?, s.joins merge c.charClass = false) :
    Longest (s.form.Matches merge) (run ++ rest) run rest := by
  refine ⟨rfl, matches_of_holds h, fun run' rest' split whole => ?_⟩
  rcases List.append_eq_append_iff.mp split with ⟨more, rfl, behind⟩ | ⟨less, rfl, _⟩
  · cases more with
    | nil => simp
    | cons c more =>
      rw [behind] at apart
      rw [List.map_append] at whole
      exact absurd whole (not_matches h (apart c rfl) _)
  · simp

theorem ofRun_eq {merge : Bool} {s : State} {first : Character} {later : List Character}
    (h : s.Holds merge ((first :: later).map Character.charClass)) :
    Token.ofRun s first later = s.form.token first later := by
  have kind : TokenKind.ofClass s.representative ((first :: later).flatMap (·.value)) =
      s.form.kind (first :: later) := by
    cases s with
    | number =>
      have digits : (first :: later).any (·.charClass = .percent) = false := by
        refine List.any_eq_false.mpr fun c member => ?_
        simp [h.2 _ (List.mem_map_of_mem member)]
      simp only [form, Form.kind, digits]
      rfl
    | percent =>
      have signed : (first :: later).any (·.charClass = .percent) = true := by
        obtain ⟨digits, _, _, classes⟩ := h
        have sign : .percent ∈ (first :: later).map Character.charClass := by simp [classes]
        obtain ⟨c, member, same⟩ := List.mem_map.mp sign
        exact List.any_eq_true.mpr ⟨c, member, decide_eq_true same⟩
      simp only [form, Form.kind, signed]
      rfl
    | finished => exact h.elim
    | _ => rfl
  simp only [Token.ofRun, Form.token, kind]

theorem segmented_cons {merge : Bool} {s : State} {first : Character} {later rest : List Character}
    {ts : List Token} (h : s.Holds merge ((first :: later).map Character.charClass))
    (apart : ∀ c ∈ rest.head?, s.joins merge c.charClass = false) (others : Segmented merge rest ts) :
    Segmented merge (first :: later ++ rest) (.ofRun s first later :: ts) := by
  rw [ofRun_eq h]
  exact .cons (begunBy_of_holds h) (longest_of_holds h apart) others

namespace Lexer

variable {l : Lexer} {c : Character}

/-- The two ways of the automaton: to go on with a run or to open another one. -/
theorem advance_eq (l : Lexer) (c : Character) : l.advance c =
    if l.state.joins l.merge c.charClass then
      (l.state = .initial && l.held.isEmpty,
        { l with previous := l.state, state := l.state.next l.merge c.charClass })
    else (l.closes c, { l with previous := l.state, state := .opened c.charClass }) := by
  cases l with | mk merge state previous held =>
  unfold advance
  dsimp only
  cases target : state.next merge c.charClass <;> cases state <;>
    simp_all [State.joins, State.next]

theorem feed_joins (unended : c.charClass ≠ .endOfInput)
    (joins : l.state.joins l.merge c.charClass = true)
    (held : l.buffer ≠ []) :
    l.feed c = (none, ⟨l.merge, l.state.next l.merge c.charClass, l.state, c :: l.held⟩) := by
  have inside : (l.state = .initial && l.held.isEmpty) = false := by
    simp_all [buffer]
  simp [feed, advance_eq, joins, inside, unended]

theorem feed_closes {first : Character} {later : List Character}
    (apart : l.state.joins l.merge c.charClass = false) (held : l.buffer = first :: later) :
    l.feed c = (some (.ofRun l.state first later), ⟨l.merge, .opened c.charClass, l.state,
      if c.charClass = .endOfInput then [] else [c]⟩) := by
  have nonempty : l.held ≠ [] := by
    intro empty
    simp [buffer, empty] at held
  have closes : l.closes c = true := by simp [Lexer.closes, nonempty]
  have token : ({ l with previous := l.state, state := .opened c.charClass } : Lexer).token? =
      some (.ofRun l.state first later) := by
    unfold token?
    have same : ({ l with previous := l.state, state := .opened c.charClass } : Lexer).buffer =
      first :: later := held
    rw [same]
  unfold feed
  rw [advance_eq, if_neg (by simp [apart]), closes]
  dsimp only
  rw [if_pos rfl, token]
  rfl

theorem feed_first (initial : l.state = .initial) (empty : l.held = [])
    (unended : c.charClass ≠ .endOfInput) :
    l.feed c = (none, ⟨l.merge, .opened c.charClass, .initial, [c]⟩) := by
  have advanced : ∃ boundary,
      l.advance c = (boundary, ⟨l.merge, .opened c.charClass, .initial, []⟩) := by
    have same : State.initial.next l.merge c.charClass = .opened c.charClass := rfl
    rw [advance_eq, initial, empty, same]
    split <;> exact ⟨_, rfl⟩
  obtain ⟨boundary, advanced⟩ := advanced
  simp [feed, advanced, token?, buffer, unended]

theorem held_of_holds (holds : l.state.Holds l.merge (l.buffer.map Character.charClass)) :
    l.buffer ≠ [] := by
  intro empty
  rw [empty] at holds
  exact ne_nil_of_holds holds rfl

theorem run_segmented {mark : Character} (ends : mark.charClass = .endOfInput) (after : List Character)
    (rest : List Character) (unended : ∀ c ∈ rest, c.charClass ≠ .endOfInput) :
    ∀ l : Lexer, l.state.Holds l.merge (l.buffer.map Character.charClass) →
      Segmented l.merge (l.buffer ++ rest) (l.run (rest ++ mark :: after)).1 := by
  -- The lexer is in the middle of a run, so the characters that it holds stand in front of `rest`.
  induction rest with
  | nil =>
    intro l holds
    obtain ⟨first, later, read⟩ := List.exists_cons_of_ne_nil (held_of_holds holds)
    have closed := feed_closes (c := mark) (ends ▸ not_joins_end holds) read
    rw [read] at holds
    simp only [List.nil_append, run, ends, if_true, closed, Option.toList_some, read]
    exact segmented_cons holds (by simp) .nil
  | cons c rest ih =>
    intro l holds
    obtain ⟨here, behind⟩ := List.forall_mem_cons.mp unended
    cases joins : l.state.joins l.merge c.charClass with
    | true =>
      have fed := feed_joins here joins (held_of_holds holds)
      have later := ih behind ⟨l.merge, l.state.next l.merge c.charClass, l.state, c :: l.held⟩
        (by simpa [buffer] using holds_next holds joins)
      simp only [List.cons_append, run, fed, here, if_false]
      simpa [buffer] using later
    | false =>
      obtain ⟨first, later, read⟩ := List.exists_cons_of_ne_nil (held_of_holds holds)
      have fed := feed_closes joins read
      rw [if_neg here] at fed
      have others := ih behind ⟨l.merge, .opened c.charClass, l.state, [c]⟩ (holds_opened here)
      rw [read] at holds
      simp only [List.cons_append, run, fed, here, if_false, read]
      exact segmented_cons holds (by simpa using joins) others

theorem start_segmented {mark : Character} (ends : mark.charClass = .endOfInput)
    (after cs : List Character) (unended : ∀ c ∈ cs, c.charClass ≠ .endOfInput) (merge : Bool) :
    Segmented merge cs ((start merge .initial).run (cs ++ mark :: after)).1 := by
  cases cs with
  | nil =>
    have nothing : ((start merge .initial).feed mark).1 = none := by
      simp [feed, advance, start, State.next, closes, ends, State.opened]
    simp only [List.nil_append, run, ends, if_true, nothing]
    exact .nil
  | cons c rest =>
    obtain ⟨here, behind⟩ := List.forall_mem_cons.mp unended
    have fed := feed_first (l := start merge .initial) rfl rfl here
    have later := run_segmented ends after rest behind
      ⟨merge, .opened c.charClass, .initial, [c]⟩ (holds_opened here)
    simp only [List.cons_append, run, fed, here, if_false]
    exact later

end Lexer

theorem Reader.tokens_eq (r : Reader) (merge : Bool) :
    (r.tokens merge).1 = ((Lexer.start merge .initial).run r.remaining).1 := by
  unfold Reader.tokens
  split <;> simp_all

/-- The characters in front of the first end of the input. -/
def beforeEnd (cs : List Character) : List Character :=
  cs.takeWhile fun c => c.charClass ≠ .endOfInput

theorem beforeEnd_unended {cs : List Character} : ∀ c ∈ beforeEnd cs, c.charClass ≠ .endOfInput := by
  intro c member
  simpa using List.all_eq_true.mp List.all_takeWhile c member

theorem tokenizeCharacters_segmented (o : LexOptions) (cs : List Character) :
    Segmented o.mergeOperators (beforeEnd cs) (tokenizeCharacters o cs) := by
  have split : ∃ mark after, mark.charClass = .endOfInput ∧
      (Reader.ofCharacters cs).remaining = beforeEnd cs ++ mark :: after := by
    have whole : beforeEnd cs ++ _ = cs := List.takeWhile_append_dropWhile
    have behind := List.head?_dropWhile_not (fun c : Character => decide (c.charClass ≠ .endOfInput)) cs
    -- The first mark is one of the characters or the one that the reader puts behind them.
    cases rest : cs.dropWhile fun c => c.charClass ≠ .endOfInput with
    | nil =>
      rw [rest, List.append_nil] at whole
      exact ⟨_, [], rfl, by rw [whole]; rfl⟩
    | cons mark after =>
      rw [rest] at whole behind
      refine ⟨mark, after ++ [.endMark (Reader.endOf cs)], by simpa using behind, ?_⟩
      rw [← List.cons_append, ← List.append_assoc, whole]
      rfl
  obtain ⟨mark, after, ends, split⟩ := split
  unfold tokenizeCharacters
  rw [Reader.tokens_eq, split]
  exact Lexer.start_segmented ends after _ beforeEnd_unended _

theorem TokenKind.ofOperator_unended (value : Text) : ofOperator value ≠ .endOfInput := by
  unfold ofOperator
  split <;> simp

theorem Form.kind_unended (form : Form) (run : List Character) : form.kind run ≠ .endOfInput := by
  cases form with
  | number =>
    simp only [kind]
    split <;> simp
  | symbol => exact TokenKind.ofOperator_unended _
  | _ => simp [kind]

theorem Segmented.unended {merge : Bool} {cs : List Character} {ts : List Token}
    (h : Segmented merge cs ts) : ∀ t ∈ ts, t.kind ≠ .endOfInput := by
  induction h with
  | nil => simp
  | cons _ _ _ ih => exact List.forall_mem_cons.mpr ⟨Form.kind_unended _ _, ih⟩

/-- The tokens of characters are the longest matches, one after another, up to the first end of the
input. None of them marks that end. -/
theorem tokenizeCharacters_longest_match (o : LexOptions) (cs : List Character) :
    (∀ ts, Segmented o.mergeOperators (beforeEnd cs) ts ↔ ts = tokenizeCharacters o cs) ∧
      ∀ t ∈ tokenizeCharacters o cs, t.kind ≠ .endOfInput := by
  have segmented := tokenizeCharacters_segmented o cs
  refine ⟨fun ts => ⟨fun h => h.unique segmented, ?_⟩, segmented.unended⟩
  rintro rfl
  exact segmented

/-- A number takes one percent sign, the next one is a fault, and nothing is read behind the end. -/
theorem tokenizeCharacters_longest_match_percent :
    let cs : List Character := [⟨['7'], .number, ⟨1, 1, 0⟩⟩, ⟨['%'], .percent, ⟨1, 2, 1⟩⟩,
      ⟨['%'], .percent, ⟨1, 3, 2⟩⟩, ⟨endText, .endOfInput, ⟨1, 4, 3⟩⟩, ⟨['x'], .letter, ⟨1, 4, 3⟩⟩]
    let ts : List Token := [⟨.percent, ['7', '%'], some ⟨⟨1, 1, 0⟩, ⟨1, 3, 2⟩⟩⟩,
      ⟨.error, ['%'], some ⟨⟨1, 3, 2⟩, ⟨1, 4, 3⟩⟩⟩]
    Segmented true (cs.take 3) ts ∧ ∀ t ∈ ts, t.kind ≠ .endOfInput := by
  intro cs ts
  have tokens : ts = tokenizeCharacters .standard cs := by decide
  have matched := tokenizeCharacters_longest_match .standard cs
  exact ⟨(matched.1 ts).mpr tokens, tokens ▸ matched.2⟩

end StyleValue

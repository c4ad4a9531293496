import StyleValue.Proofs.LongestMatch

/-! What the lexer holds back. Nothing that is fed to it is lost or doubled, even where its state is moved
by hand and no longer fits what it holds. Where it is only fed, the state tells the form of what it
holds. -/
namespace StyleValue

/-- What can be done to a lexer. -/
inductive Operation where
  | feed (c : Character)
  | advance (c : Character)
  | moveTo (s : State)
  /-- A token is made of any characters, as if they had been read in the state `s`. -/
  | create (s : State) (cs : List Character)
  deriving DecidableEq, Repr

/-- The text that an operation adds to the tokens and the buffer. -/
def Operation.text : Operation → Text
  | feed c => if c.charClass = .endOfInput then [] else c.value
  | advance _ | moveTo _ | create _ _ => []

namespace Lexer

def perform (l : Lexer) : Operation → Option Token × Lexer
  | .feed c => l.feed c
  | .advance c => (none, (l.advance c).2)
  | .moveTo s => (none, l.moveTo s)
  | .create _ _ => (none, l)

/-- The tokens that operations have the lexer give, and the lexer after them. -/
def performAll (l : Lexer) : List Operation → List Token × Lexer
  | [] => ([], l)
  | op :: ops =>
    let (token, l) := l.perform op
    let (tokens, l) := l.performAll ops
    (token.toList ++ tokens, l)

/-- A step of the lexer in which the token is made by a function that refuses an empty run. -/
def attempt (l : Lexer) (c : Character) : Except LexError (Option Token × Lexer) := do
  let (boundary, l) := l.advance c
  let (token, held) ←
    if boundary && !l.buffer.isEmpty then do
      let token ← Token.ofCharacters l.previous l.buffer
      pure (some token, [])
    else pure (none, l.held)
  return (token, { l with held := if c.charClass = .endOfInput then held else c :: held })

variable {l : Lexer} {c : Character}

/-! ### Nothing is lost -/

theorem advance_keeps (l : Lexer) (c : Character) :
    (l.advance c).2.held = l.held ∧ (l.advance c).2.merge = l.merge := by
  rw [advance_eq]
  split <;> exact ⟨rfl, rfl⟩

theorem attempt_eq (l : Lexer) (c : Character) : l.attempt c = .ok (l.feed c) := by
  unfold attempt feed
  generalize l.advance c = advanced
  obtain ⟨boundary, l⟩ := advanced
  unfold token?
  dsimp only
  cases boundary with
  | false => simp [pure, Except.pure, bind, Except.bind]
  | true =>
    cases held : l.buffer with
    | nil => simp [pure, Except.pure, bind, Except.bind]
    | cons first later => simp [Token.ofCharacters, pure, Except.pure, bind, Except.bind]

/-- The characters of a buffer leave it all at once, or not at all. -/
theorem token?_text (l : Lexer) : l.token?.toList.flatMap (·.value) ++
    (if l.token?.isSome then [] else l.held).reverse.flatMap (·.value) =
      l.buffer.flatMap (·.value) := by
  unfold token?
  cases waiting : l.buffer with
  | nil =>
    have empty : l.held = [] := List.reverse_eq_nil_iff.mp waiting
    simp [empty]
  | cons first later => simp [Token.ofRun]

theorem feed_text (l : Lexer) (c : Character) :
    (l.feed c).1.toList.flatMap (·.value) ++ (l.feed c).2.buffer.flatMap (·.value) =
      l.buffer.flatMap (·.value) ++ (Operation.feed c).text := by
  have same : l.buffer = (l.advance c).2.buffer := congrArg List.reverse (advance_keeps l c).1.symm
  rw [same]
  unfold feed Operation.text
  generalize l.advance c = advanced
  obtain ⟨boundary, l⟩ := advanced
  have parts := token?_text l
  cases boundary with
  | false => by_cases ends : c.charClass = .endOfInput <;> simp [buffer, ends]
  | true =>
    rw [← parts]
    by_cases ends : c.charClass = .endOfInput <;> simp [buffer, ends]

theorem performAll_text (l : Lexer) (ops : List Operation) :
    (l.performAll ops).1.flatMap (·.value) ++ (l.performAll ops).2.buffer.flatMap (·.value) =
      l.buffer.flatMap (·.value) ++ ops.flatMap Operation.text := by
  induction ops generalizing l with
  | nil => simp [performAll]
  | cons op ops ih =>
    have first : (l.perform op).1.toList.flatMap (·.value) ++
        (l.perform op).2.buffer.flatMap (·.value) = l.buffer.flatMap (·.value) ++ op.text := by
      cases op with
      | feed c => exact feed_text l c
      | advance c => simp [perform, Operation.text, buffer, (advance_keeps l c).1]
      | moveTo s => simp [perform, Operation.text, buffer, moveTo]
      | create s cs => simp [perform, Operation.text]
    have later := ih (l.perform op).2
    simp only [performAll, List.flatMap_append, List.flatMap_cons, List.append_assoc, later]
    rw [← List.append_assoc, first, List.append_assoc]

end Lexer

/-! ### The state fits the buffer -/

/-- What may wait in a buffer in each state, when the lexer is only fed. -/
def State.Fits (merge : Bool) : State → List CharClass → Prop
  | initial, run => ∀ k ∈ run, k = .start ∨ k = .newLine ∨ k = .percent ∨ k = .other
  | whitespace, run => run ≠ [] ∧ ∀ k ∈ run, k = .whitespace
  | hex, run => ∃ later, run = .hash :: later ∧ ∀ k ∈ later, k = .hash ∨ k = .letter ∨ k = .number
  | letter, run => ∃ later, run = .letter :: later ∧ ∀ k ∈ later, k = .letter ∨ k = .number
  | number, run => run ≠ [] ∧ ∀ k ∈ run, k = .number
  | percent, run => ∃ digits, digits ≠ [] ∧ (∀ k ∈ digits, k = .number) ∧ run = digits ++ [.percent]
  | operator, run => run ≠ [] ∧ (∀ k ∈ run, k = .operator) ∧ (merge = false → run.length = 1)
  | finished, run => run = []

open State

/-- There is nothing to wait for only at the start and behind the end of the input. -/
theorem State.fits_iff {merge : Bool} {s : State} {run : List CharClass} :
    s.Fits merge run ↔ s.Holds merge run ∨ run = [] ∧ (s = .initial ∨ s = .finished) := by
  cases s with
  | initial =>
    constructor
    · intro all
      by_cases empty : run = []
      · exact .inr ⟨empty, .inl rfl⟩
      · exact .inl ⟨empty, all⟩
    · rintro (holds | ⟨rfl, _⟩)
      · exact holds.2
      · exact List.forall_mem_nil _
  | finished => simp [Fits, Holds]
  | _ => simp [Fits, Holds, Form.Matches]

namespace Lexer

variable {l : Lexer}

/-- The state fits what waits in the buffer. -/
def Fits (l : Lexer) : Prop := l.state.Fits l.merge (l.buffer.map Character.charClass)

/-- A lexer that holds nothing opens a run with whatever comes. -/
theorem feed_empty (empty : l.held = []) (idle : l.state = .initial ∨ l.state = .finished)
    (c : Character) : l.feed c = (none, ⟨l.merge, opened c.charClass, l.state,
      if c.charClass = .endOfInput then [] else [c]⟩) := by
  obtain ⟨merge, state, previous, held⟩ := l
  dsimp only at empty idle
  subst empty
  have advanced : ∃ boundary, (Lexer.mk merge state previous []).advance c =
      (boundary, ⟨merge, opened c.charClass, state, []⟩) := by
    rw [advance_eq]
    rcases idle with rfl | rfl
    · split <;> exact ⟨_, rfl⟩
    · cases kind : c.charClass <;> exact ⟨_, rfl⟩
  obtain ⟨boundary, advanced⟩ := advanced
  simp [feed, advanced, token?, buffer]

theorem opened_fits (merge : Bool) (previous : State) (c : Character) :
    (Lexer.mk merge (opened c.charClass) previous
      (if c.charClass = .endOfInput then [] else [c])).Fits := by
  apply fits_iff.mpr
  by_cases ends : c.charClass = .endOfInput
  · rw [if_pos ends, ends]
    exact .inr ⟨rfl, .inr rfl⟩
  · rw [if_neg ends]
    exact .inl (holds_opened ends)

theorem feed_fits (h : l.Fits) (c : Character) : (l.feed c).2.Fits := by
  rcases fits_iff.mp h with holds | ⟨empty, idle⟩
  · cases joins : l.state.joins l.merge c.charClass with
    | true =>
      have unended : c.charClass ≠ .endOfInput := by
        intro ends
        rw [ends, not_joins_end holds] at joins
        cases joins
      rw [feed_joins unended joins (held_of_holds holds)]
      apply fits_iff.mpr
      exact .inl (by simpa [buffer] using holds_next holds joins)
    | false =>
      obtain ⟨first, later, read⟩ := List.exists_cons_of_ne_nil (held_of_holds holds)
      rw [feed_closes joins read]
      exact opened_fits l.merge l.state c
  · have nothing : l.held = [] := List.reverse_eq_nil_iff.mp (List.map_eq_nil_iff.mp empty)
    rw [feed_empty nothing idle]
    exact opened_fits l.merge l.state c

theorem fed_fits (h : l.Fits) (cs : List Character) : (l.performAll (cs.map .feed)).2.Fits := by
  induction cs generalizing l with
  | nil => exact h
  | cons c cs ih => exact ih (feed_fits h c)

theorem performAll_merge (l : Lexer) (ops : List Operation) : (l.performAll ops).2.merge = l.merge := by
  induction ops generalizing l with
  | nil => rfl
  | cons op ops ih =>
    have first : (l.perform op).2.merge = l.merge := by
      cases op with
      | feed c => exact (advance_keeps l c).2
      | advance c => exact (advance_keeps l c).2
      | moveTo s => rfl
      | create s cs => rfl
    exact (ih (l.perform op).2).trans first

/-- Whatever is done to a lexer, in whatever state it starts, its tokens and its buffer together spell what
it was fed, and no step of it fails. Where it starts afresh and is only fed, its state tells at every
moment what its buffer looks like. -/
theorem performAll_keeps (merge : Bool) (s : State) (ops : List Operation) (cs : List Character) :
    (((start merge s).performAll ops).1.flatMap (·.value) ++
        ((start merge s).performAll ops).2.buffer.flatMap (·.value) = ops.flatMap Operation.text) ∧
      (∀ c, ((start merge s).performAll ops).2.attempt c =
        .ok (((start merge s).performAll ops).2.feed c)) ∧
      ((start merge .initial).performAll (cs.map .feed)).2.state.Fits merge
        (((start merge .initial).performAll (cs.map .feed)).2.buffer.map Character.charClass) := by
  refine ⟨performAll_text (start merge s) ops, fun c => attempt_eq _ c, ?_⟩
  have afresh : (start merge .initial).Fits := List.forall_mem_nil _
  have fits := fed_fits afresh cs
  unfold Fits at fits
  rw [performAll_merge] at fits
  exact fits

end Lexer

end StyleValue

import StyleValue.Proofs.Readers

/-! What a reader answers. Whatever it is asked, and in whatever order, each answer depends only on the
characters that it was made for and on how many of them have been asked for before. -/
namespace StyleValue

inductive Request where
  | next
  | peek (distance : Int)
  | atError
  | ended
  deriving DecidableEq, Repr

inductive Answer where
  | character (c : Character)
  /-- There is nothing more to give. -/
  | exhausted
  | value (v : Option Text)
  | refused (e : PeekError)
  | errorMark (c : Character)
  | ended (b : Bool)
  deriving DecidableEq, Repr

def Answer.character? : Answer → Option Character
  | character c => some c
  | _ => none

namespace Reader

def answer (r : Reader) : Request → Answer × Reader
  | .next =>
    match r.next? with
    | some (c, r) => (.character c, r)
    | none => (.exhausted, r)
  | .peek distance =>
    match r.peek distance with
    | .ok v => (.value v, r)
    | .error e => (.refused e, r)
  | .atError => (.errorMark r.atError, r)
  | .ended => (.ended r.ended, r)

def answers (r : Reader) : List Request → List Answer
  | [] => []
  | q :: qs => (r.answer q).1 :: (r.answer q).2.answers qs

/-- The reader after it has answered. -/
def asked (r : Reader) (qs : List Request) : Reader := qs.foldl (fun r q => (r.answer q).2) r

theorem answers_append (r : Reader) (before later : List Request) :
    r.answers (before ++ later) = r.answers before ++ (r.asked before).answers later := by
  induction before generalizing r with
  | nil => rfl
  | cons q before ih => exact congrArg ((r.answer q).1 :: ·) (ih _)

theorem length_answers (r : Reader) (qs : List Request) : (r.answers qs).length = qs.length := by
  induction qs generalizing r with
  | nil => rfl
  | cons q qs ih => exact congrArg (· + 1) (ih _)

end Reader

/-- What a request is answered when the characters to give are `cs` and behind them `mark`, and `n` of
them have been asked for before. -/
inductive Answered (cs : List Character) (mark : Character) (n : Nat) : Request → Answer → Prop where
  | character {c : Character} : (cs ++ [mark])[n]? = some c → Answered cs mark n .next (.character c)
  | exhausted : (cs ++ [mark]).length ≤ n → Answered cs mark n .next .exhausted
  | peek (k : Nat) : Answered cs mark n (.peek k) (.value (cs[n + k]?.map (·.value)))
  | behind {distance : Int} : distance < 0 →
      Answered cs mark n (.peek distance) (.refused ⟨distance⟩)
  | atError {c : Character} : (cs ++ [mark])[min n cs.length]? = some c →
      Answered cs mark n .atError (.errorMark (.errorMark c.position))
  | ended {b : Bool} : (b = true ↔ cs.length < n) → Answered cs mark n .ended (.ended b)

/-- A reader in the middle of its work: `n` characters have been asked for, the mark counted. -/
structure Reader.Stands (cs : List Character) (mark : Character) (n : Nat) (r : Reader) : Prop where
  upcoming : r.upcoming = cs.drop n
  mark : r.mark = mark
  ended : r.ended = true ↔ cs.length < n

namespace Reader.Stands

variable {cs : List Character} {mark : Character} {n : Nat} {r : Reader}

theorem start (cs : List Character) (mark : Character) : Stands cs mark 0 ⟨cs, mark, false⟩ :=
  ⟨rfl, rfl, by simp⟩

theorem next (h : Stands cs mark n r) : Answered cs mark n .next (r.answer .next).1 ∧
    Stands cs mark (n + 1) (r.answer .next).2 := by
  obtain ⟨upcoming, mark', ended⟩ := r
  obtain ⟨coming, rfl, flag⟩ := h
  dsimp only at coming flag
  by_cases inside : n < cs.length
  · -- A character is left.
    rw [List.drop_eq_getElem_cons inside] at coming
    subst coming
    constructor
    · apply Answered.character
      rw [List.getElem?_append_left inside]
      exact List.getElem?_eq_getElem inside
    · exact ⟨rfl, rfl, flag.trans (by omega)⟩
  · have nothing : cs.drop n = [] := List.drop_of_length_le (by omega)
    have later : cs.drop (n + 1) = [] := List.drop_of_length_le (by omega)
    rw [nothing] at coming
    subst coming
    cases ended with
    | false =>
      -- Only the mark is left.
      have last : n = cs.length := by
        have before : ¬cs.length < n := fun passed => nomatch flag.mpr passed
        omega
      constructor
      · apply Answered.character
        rw [last, List.getElem?_append_right (Nat.le_refl _), Nat.sub_self]
        rfl
      · exact ⟨later.symm, rfl, iff_of_true rfl (by omega)⟩
    | true =>
      have passed : cs.length < n := flag.mp rfl
      constructor
      · apply Answered.exhausted
        rw [List.length_append]
        exact passed
      · exact ⟨later.symm, rfl, iff_of_true rfl (by omega)⟩

theorem peek (h : Stands cs mark n r) (distance : Int) :
    Answered cs mark n (.peek distance) (r.answer (.peek distance)).1 := by
  unfold answer Reader.peek
  dsimp only
  by_cases behind : distance < 0
  · rw [if_pos behind]
    exact .behind behind
  · rw [if_neg behind]
    obtain ⟨k, rfl⟩ := Int.eq_ofNat_of_zero_le (Int.not_lt.mp behind)
    dsimp only
    rw [h.upcoming, List.getElem?_drop]
    exact .peek k

theorem atError (h : Stands cs mark n r) :
    Answered cs mark n .atError (r.answer .atError).1 := by
  unfold answer Reader.atError position
  dsimp only
  rw [h.upcoming, h.mark]
  apply Answered.atError
  by_cases inside : n < cs.length
  · rw [List.drop_eq_getElem_cons inside, Nat.min_eq_left (by omega)]
    rw [List.getElem?_append_left inside]
    exact List.getElem?_eq_getElem inside
  · rw [List.drop_of_length_le (by omega), Nat.min_eq_right (by omega)]
    simp

/-- A reader takes a step for each character that it is asked for, and stays where it is otherwise. -/
theorem step (h : Stands cs mark n r) (q : Request) : Answered cs mark n q (r.answer q).1 ∧
    Stands cs mark (n + [q].count .next) (r.answer q).2 := by
  cases q with
  | next => exact h.next
  | peek distance =>
    refine ⟨h.peek distance, ?_⟩
    unfold answer
    dsimp only
    cases r.peek distance <;> exact h
  | atError => exact ⟨h.atError, h⟩
  | ended => exact ⟨.ended h.ended, h⟩

theorem asked (h : Stands cs mark n r) (qs : List Request) :
    Stands cs mark (n + qs.count .next) (r.asked qs) := by
  induction qs generalizing n r with
  | nil => exact h
  | cons q qs ih =>
    have later := ih (h.step q).2
    rwa [Nat.add_assoc, ← List.count_append] at later

theorem unique {r' : Reader} (h : Stands cs mark n r) (h' : Stands cs mark n r') : r = r' := by
  obtain ⟨upcoming, mark, ended⟩ := r
  obtain ⟨upcoming', mark', ended'⟩ := r'
  obtain ⟨rfl, rfl, flag⟩ := h
  obtain ⟨rfl, rfl, flag'⟩ := h'
  obtain rfl : ended = ended' := Bool.eq_iff_iff.mpr (flag.trans flag'.symm)
  rfl

theorem given (h : Stands cs mark n r) (qs : List Request) :
    (r.answers qs).filterMap Answer.character? = ((cs ++ [mark]).drop n).take (qs.count .next) := by
  induction qs generalizing n r with
  | nil => rfl
  | cons q qs ih =>
    obtain ⟨answered, stands⟩ := h.step q
    have later := ih stands
    rw [answers, List.filterMap_cons]
    generalize (r.answer q).1 = a at answered ⊢
    cases answered with
    | character found =>
      obtain ⟨inside, rfl⟩ := List.getElem?_eq_some_iff.mp found
      rw [List.drop_eq_getElem_cons inside, List.count_cons_self, List.take_succ_cons]
      exact congrArg (_ :: ·) later
    | exhausted passed =>
      have none : (cs ++ [mark]).drop n = [] := List.drop_of_length_le passed
      have later' : (cs ++ [mark]).drop (n + 1) = [] := List.drop_of_length_le (by omega)
      simpa [Answer.character?, none, later'] using later
    | peek | behind | atError | ended => simpa [Answer.character?] using later

end Reader.Stands

/-- How a reader of `cs`, with `mark` behind them, answers any requests in any order. -/
structure Reader.Serves (r : Reader) (cs : List Character) (mark : Character) : Prop where
  answers : ∀ qs i q, qs[i]? = some q →
    ∃ a, (r.answers qs)[i]? = some a ∧ Answered cs mark ((qs.take i).count .next) q a
  given : ∀ qs, (r.answers qs).filterMap Answer.character? = (cs ++ [mark]).take (qs.count .next)
  /-- Requests that take no character leave no trace in what is answered later. -/
  steady : ∀ before before' later : List Request, before.count .next = before'.count .next →
    (r.answers (before ++ later)).drop before.length =
      (r.answers (before' ++ later)).drop before'.length

theorem Reader.Stands.serves {cs : List Character} {mark : Character} {r : Reader}
    (h : Stands cs mark 0 r) : r.Serves cs mark := by
  constructor
  case answers =>
    intro qs i q found
    obtain ⟨inside, rfl⟩ := List.getElem?_eq_some_iff.mp found
    have cut : qs = qs.take i ++ qs[i] :: qs.drop (i + 1) := by
      rw [← List.drop_eq_getElem_cons inside, List.take_append_drop]
    have stands := h.asked (qs.take i)
    rw [Nat.zero_add] at stands
    refine ⟨((r.asked (qs.take i)).answer qs[i]).1, ?_, (stands.step qs[i]).1⟩
    have front : (r.answers (qs.take i)).length = i := by
      rw [length_answers, List.length_take_of_le (Nat.le_of_lt inside)]
    conv_lhs => rw [cut, answers_append, List.getElem?_append_right (Nat.le_of_eq front), front]
    rw [Nat.sub_self]
    rfl
  case given => exact h.given
  case steady =>
    intro before before' later same
    have stands := h.asked before
    have stands' := h.asked before'
    rw [← same] at stands'
    rw [answers_append, answers_append, List.drop_left' (length_answers r before),
      List.drop_left' (length_answers r before'), stands.unique stands']

end StyleValue

import StyleValue.Proofs.Frontier

/-! Brackets that are still open. Behind some tokens the innermost open bracket is the one with nothing but
pairs of brackets behind it, and there is at most one such. -/
namespace StyleValue

/-- Tokens in which every bracket has its partner. -/
inductive Balanced : List Token → Prop where
  | nil : Balanced []
  | plain {t : Token} {ts : List Token} :
      t.kind ≠ .leftParen → t.kind ≠ .rightParen → Balanced ts → Balanced (t :: ts)
  | pair {opening closing : Token} {inner behind : List Token} : opening.kind = .leftParen →
      Balanced inner → closing.kind = .rightParen → Balanced behind →
      Balanced (opening :: (inner ++ closing :: behind))

namespace Balanced

variable {ts us : List Token}

theorem append (first : Balanced ts) (second : Balanced us) : Balanced (ts ++ us) := by
  induction first with
  | nil => exact second
  | plain opens closes _ ih => exact .plain opens closes ih
  | pair opens inner closes _ _ ih =>
    rw [List.cons_append, List.append_assoc, List.cons_append]
    exact .pair opens inner closes ih

theorem single {t : Token} (opens : t.kind ≠ .leftParen) (closes : t.kind ≠ .rightParen) :
    Balanced [t] := .plain opens closes .nil

theorem enclosed {opening closing : Token} (opens : opening.kind = .leftParen) (inner : Balanced ts)
    (closes : closing.kind = .rightParen) : Balanced (opening :: (ts ++ [closing])) :=
  .pair opens inner closes .nil

end Balanced

def openings (ts : List Token) : Nat := ts.countP (·.kind = .leftParen)

def closings (ts : List Token) : Nat := ts.countP (·.kind = .rightParen)

theorem openings_cons (t : Token) (ts : List Token) :
    openings (t :: ts) = openings ts + if t.kind = .leftParen then 1 else 0 := by
  simp [openings, List.countP_cons]

theorem closings_cons (t : Token) (ts : List Token) :
    closings (t :: ts) = closings ts + if t.kind = .rightParen then 1 else 0 := by
  simp [closings, List.countP_cons]

theorem openings_append (ts us : List Token) : openings (ts ++ us) = openings ts + openings us :=
  List.countP_append

theorem closings_append (ts us : List Token) : closings (ts ++ us) = closings ts + closings us :=
  List.countP_append

namespace Balanced

variable {ts : List Token}

theorem openings_eq (h : Balanced ts) : openings ts = closings ts := by
  induction h with
  | nil => rfl
  | plain opens closes _ ih =>
    rw [openings_cons, closings_cons, if_neg opens, if_neg closes, ih]
  | @pair opening closing inner behind opens _ closes _ inside later =>
    have opening_unclosed : opening.kind ≠ .rightParen := by simp [opens]
    have closing_unopened : closing.kind ≠ .leftParen := by simp [closes]
    rw [openings_cons, closings_cons, openings_append, closings_append, openings_cons, closings_cons,
      if_pos opens, if_neg opening_unclosed, if_neg closing_unopened, if_pos closes]
    omega

theorem openings_closing_le {closing : Token} (closes : closing.kind = .rightParen) (h : Balanced ts)
    (few : ∀ n, openings (ts.drop n) ≤ closings (ts.drop n)) (n : Nat) :
    openings ((closing :: ts).drop n) ≤ closings ((closing :: ts).drop n) := by
  cases n with
  | succ n => exact few n
  | zero =>
    have equal := h.openings_eq
    rw [List.drop_zero, openings_cons, closings_cons, if_neg (by simp [closes]), if_pos closes]
    omega

/-- No end of balanced tokens has a bracket without the partner that closes it. -/
theorem openings_drop_le (h : Balanced ts) (n : Nat) : openings (ts.drop n) ≤ closings (ts.drop n) := by
  induction h generalizing n with
  | nil => simp [openings]
  | plain opens closes balanced ih =>
    cases n with
    | zero => exact Nat.le_of_eq (Balanced.plain opens closes balanced).openings_eq
    | succ n => exact ih n
  | @pair opening closing inner behind opens balanced closes balanced' inside later =>
    cases n with
    | zero => exact Nat.le_of_eq (Balanced.pair opens balanced closes balanced').openings_eq
    | succ n =>
      have first := inside n
      have second := openings_closing_le closes balanced' later (n - inner.length)
      rw [List.drop_succ_cons, List.drop_append, openings_append, closings_append]
      omega

end Balanced

/-- The innermost bracket that is open behind `ts`, with what stands before it and inside it. -/
structure InnermostOpen (ts before : List Token) (bracket : Token) (inside : List Token) : Prop where
  split : ts = before ++ bracket :: inside
  opens : bracket.kind = .leftParen
  balanced : Balanced inside

namespace InnermostOpen

variable {ts before before' inside inside' : List Token} {bracket bracket' : Token}

theorem length_le (h : InnermostOpen ts before bracket inside)
    (h' : InnermostOpen ts before' bracket' inside') : inside'.length ≤ inside.length := by
  -- If the other bracket stood further out, this one would be without a partner inside of it.
  refine Nat.le_of_not_lt fun longer => ?_
  have same := h.split.symm.trans h'.split
  obtain ⟨between, rfl⟩ : ∃ between, inside' = between ++ bracket :: inside := by
    rcases List.append_eq_append_iff.mp same with ⟨more, _, behind⟩ | ⟨more, _, behind⟩
    · have lengths := congrArg List.length behind
      simp only [List.length_cons, List.length_append] at lengths
      omega
    · cases more with
      | nil =>
        cases behind
        omega
      | cons t more =>
        cases behind
        exact ⟨more, rfl⟩
  have few := h'.balanced.openings_drop_le between.length
  have equal := h.balanced.openings_eq
  rw [List.drop_left, openings_cons, closings_cons, if_pos h.opens, if_neg (by simp [h.opens])] at few
  omega

theorem unique (h : InnermostOpen ts before bracket inside)
    (h' : InnermostOpen ts before' bracket' inside') :
    before = before' ∧ bracket = bracket' ∧ inside = inside' := by
  have lengths := Nat.le_antisymm (h'.length_le h) (h.length_le h')
  have same := h.split.symm.trans h'.split
  obtain ⟨fronts, backs⟩ := List.append_inj' same (by simp [lengths])
  exact ⟨fronts, List.cons.inj backs⟩

end InnermostOpen

/-- What stands in front of a bracket: a name if it is that of a call, anything else if it is that of a
group. -/
def Bracket.Follows (before : List Token) : Bracket → Prop
  | group => ∀ t ∈ before.getLast?, t.kind ≠ .identifier
  | call callee => ∃ t ∈ before.getLast?, t.kind = .identifier ∧ t.value = callee

/-- The brackets that are open behind some tokens, the innermost one first. -/
inductive Nested : List Bracket → List Token → Prop where
  | flat {ts : List Token} : Balanced ts → Nested [] ts
  | inside {b : Bracket} {outer : List Bracket} {before inner : List Token} {bracket : Token} :
      Nested outer before → b.Follows before → bracket.kind = .leftParen → Balanced inner →
      Nested (b :: outer) (before ++ bracket :: inner)

namespace Nested

variable {brackets : List Bracket} {b : Bracket} {ts us : List Token} {t : Token}

theorem append (h : Nested brackets ts) (balanced : Balanced us) : Nested brackets (ts ++ us) := by
  cases h with
  | flat first => exact .flat (first.append balanced)
  | inside outer follows opens inner =>
    rw [List.append_assoc, List.cons_append]
    exact .inside outer follows opens (inner.append balanced)

theorem plain (h : Nested brackets ts) (opens : t.kind ≠ .leftParen) (closes : t.kind ≠ .rightParen) :
    Nested brackets (ts ++ [t]) := h.append (.single opens closes)

theorem opened (h : Nested brackets ts) (follows : b.Follows ts) (opens : t.kind = .leftParen) :
    Nested (b :: brackets) (ts ++ [t]) := .inside h follows opens .nil

theorem closed (h : Nested (b :: brackets) ts) (closes : t.kind = .rightParen) :
    Nested brackets (ts ++ [t]) := by
  cases h with
  | inside outer _ opens inner =>
    rw [List.append_assoc, List.cons_append]
    exact outer.append (.enclosed opens inner closes)

theorem innermost (h : Nested (b :: brackets) ts) :
    ∃ before bracket inside, InnermostOpen ts before bracket inside ∧ b.Follows before := by
  cases h with
  | inside _ follows opens inner => exact ⟨_, _, _, ⟨rfl, opens, inner⟩, follows⟩

end Nested

end StyleValue

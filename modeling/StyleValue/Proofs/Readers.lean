import StyleValue.Proofs.Tiling

/-! What a reader gives. All that is still to come is one list, the mark of the end included, and each step
takes one character off its front. In the middle of a text that list is again the list of a text, one that
starts at another place. -/
namespace StyleValue

namespace Reader

theorem take?_upcoming (r : Reader) {n : Nat} (fits : n ≤ r.upcoming.length) :
    r.take? n = some (r.upcoming.take n, { r with upcoming := r.upcoming.drop n }) := by
  induction n generalizing r with
  | zero => rfl
  | succ n ih =>
    obtain ⟨upcoming, mark, ended⟩ := r
    cases upcoming with
    | nil => cases fits
    | cons c rest =>
      have later := ih ⟨rest, mark, ended⟩ (Nat.le_of_succ_le_succ fits)
      simp [take?, next?, later]

theorem take?_all (r : Reader) (open' : r.ended = false) :
    r.take? (r.upcoming.length + 1) = some (r.remaining, r.exhausted) := by
  obtain ⟨upcoming, mark, ended⟩ := r
  cases open'
  induction upcoming with
  | nil => rfl
  | cons c rest ih =>
    rw [List.length_cons, take?]
    simp only [next?, Option.bind_eq_bind, Option.bind_some, ih]
    rfl

end Reader

theorem remaining_ofText (text : Text) :
    (Reader.ofText text).remaining = text.characters ++ [.endMark text.endPosition] := rfl

/-- What a reader of a text that starts at `p` gives. -/
def streamFrom (p : Position) (text : Text) : List Character :=
  charactersFrom p text ++ [.endMark (p.afterText text)]

theorem streamFrom_cons (p : Position) (c : Char) (rest : Text) :
    streamFrom p (c :: rest) = ⟨[c], .ofChar c, p⟩ :: streamFrom (p.after c rest) rest := rfl

theorem streamFrom_head (p : Position) (text : Text) :
    (streamFrom p text).head?.map Character.position = some p := by
  cases text <;> rfl

theorem streamFrom_append {front back : Text} (apart : BreaksApart front back) (p : Position) :
    streamFrom p (front ++ back) = charactersFrom p front ++ streamFrom (p.afterText front) back := by
  rw [streamFrom, charactersFrom_append apart, afterText_append apart, List.append_assoc]
  rfl

/-- What is left behind the first characters of a text is given as by a reader that starts there. -/
theorem streamFrom_drop (p : Position) (text : Text) {n : Nat} (fits : n ≤ text.length) :
    ∃ q, (streamFrom p text).drop n = streamFrom q (text.drop n) ∧
      (charactersFrom p text).drop n = charactersFrom q (text.drop n) ∧ q.offset = p.offset + n := by
  induction n generalizing p text with
  | zero => exact ⟨p, rfl, rfl, by simp⟩
  | succ n ih =>
    cases text with
    | nil => cases fits
    | cons c rest =>
      obtain ⟨q, stream, characters, offset⟩ := ih (p.after c rest) rest (Nat.le_of_succ_le_succ fits)
      refine ⟨q, stream, characters, ?_⟩
      rw [offset, offset_after]
      push_cast
      omega

end StyleValue

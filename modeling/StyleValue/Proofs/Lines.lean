import StyleValue.Text

/-! Texts put together from pieces with a mark behind each of them, and taken apart again. Where no piece
holds the mark, the text tells its pieces. -/
namespace StyleValue

theorem Text.splitOn_eq (separator : Char) (t : Text) :
    Text.splitOn separator t = List.splitOn separator t := by
  induction t with
  | nil => rfl
  | cons c rest ih =>
    rw [Text.splitOn, List.splitOn_cons_eq_if_modifyHead, ih]
    by_cases here : c = separator
    · simp [here]
    · rw [if_neg here, if_neg (by simpa using here)]
      cases pieces : List.splitOn separator rest with
      | nil => exact absurd pieces (List.splitOn_ne_nil _ _)
      | cons piece pieces => rfl

theorem Text.not_mem_splitOn (separator : Char) (t : Text) :
    ∀ piece ∈ Text.splitOn separator t, separator ∉ piece := by
  fun_induction Text.splitOn separator t with
  | case1 => simp
  | case2 rest ih => simpa using ih
  | case3 c rest other pieces ih => simpa using Ne.symm other
  | case4 c rest other piece pieces split ih =>
    rw [split] at ih
    obtain ⟨first, others⟩ := List.forall_mem_cons.mp ih
    exact List.forall_mem_cons.mpr ⟨by simp [first, Ne.symm other], others⟩

theorem Text.append_cons_inj {c : Char} {front front' back back' : Text} (plain : c ∉ front)
    (plain' : c ∉ front') (same : front ++ c :: back = front' ++ c :: back') :
    front = front' ∧ back = back' := by
  induction front generalizing front' with
  | nil =>
    cases front' with
    | nil => exact ⟨rfl, (List.cons.inj same).2⟩
    | cons d rest => exact absurd ((List.cons.inj same).1 ▸ List.mem_cons_self) plain'
  | cons d rest ih =>
    cases front' with
    | nil => exact absurd ((List.cons.inj same).1 ▸ List.mem_cons_self) plain
    | cons d' rest' =>
      obtain ⟨rfl, tails⟩ := List.cons.inj same
      obtain ⟨rfl, backs⟩ := ih (fun later => plain (List.mem_cons_of_mem _ later))
        (fun later => plain' (List.mem_cons_of_mem _ later)) tails
      exact ⟨rfl, backs⟩

namespace Text

/-- Lines with a line feed behind each of them. -/
def ofLines (ls : List Text) : Text := ls.flatMap (· ++ ['\n'])

theorem splitOn_append_cons {separator : Char} {front : Text} (plain : separator ∉ front) (back : Text) :
    splitOn separator (front ++ separator :: back) = front :: splitOn separator back := by
  induction front with
  | nil => rw [List.nil_append, splitOn, if_pos rfl]
  | cons c front ih =>
    obtain ⟨other, others⟩ := not_or.mp (mt List.mem_cons.mpr plain)
    rw [List.cons_append, splitOn, if_neg (Ne.symm other), ih others]

/-- Each line is a piece, and there is nothing behind the last feed. -/
theorem splitOn_ofLines {ls : List Text} (plain : ∀ l ∈ ls, '\n' ∉ l) :
    splitOn '\n' (ofLines ls) = ls ++ [[]] := by
  induction ls with
  | nil => rfl
  | cons l ls ih =>
    obtain ⟨first, others⟩ := List.forall_mem_cons.mp plain
    have split : ofLines (l :: ls) = l ++ '\n' :: ofLines ls := by simp [ofLines]
    rw [split, splitOn_append_cons first, ih others, List.cons_append]

theorem ofLines_inj {ls ms : List Text} (plain : ∀ l ∈ ls, '\n' ∉ l) (plain' : ∀ l ∈ ms, '\n' ∉ l) :
    ofLines ls = ofLines ms ↔ ls = ms := by
  constructor
  · intro same
    have pieces := congrArg (splitOn '\n') same
    rw [splitOn_ofLines plain, splitOn_ofLines plain'] at pieces
    exact List.append_cancel_right pieces
  · exact congrArg ofLines

end Text

end StyleValue

import StyleValue.Proofs.Tiling
import StyleValue.SyntaxError

/-! The lines of a text together with the breaks between them. The place behind a text is told by its
rows: as many lines down as there are rows, and behind the last of them. -/
namespace StyleValue

structure Row where
  line : Text
  /-- The break that ends the line. Only the last row has none. -/
  ending : Text
  deriving DecidableEq, Repr

def Row.text (r : Row) : Text := r.line ++ r.ending

namespace Text

def rows : Text → List Row
  | [] => [⟨[], []⟩]
  | '\r' :: '\n' :: rest => ⟨[], ['\r', '\n']⟩ :: rows rest
  | c :: rest =>
    if c = '\r' ∨ c = '\n' then ⟨[], [c]⟩ :: rows rest
    else (rows rest).modifyHead fun row => ⟨c :: row.line, row.ending⟩

/-- A text up to its first break. -/
def firstLine (t : Text) : Text := t.takeWhile fun c => ¬(c = '\r' ∨ c = '\n')

theorem firstLine_eq_nil {t : Text} (nothing : firstLine t = []) :
    t = [] ∨ ∃ c rest, t = c :: rest ∧ (c = '\r' ∨ c = '\n') := by
  cases t with
  | nil => exact .inl rfl
  | cons c rest =>
    refine .inr ⟨c, rest, rfl, ?_⟩
    by_contra plain
    rw [firstLine, List.takeWhile_cons_of_pos (by simp [plain])] at nothing
    cases nothing

theorem rows_cons {c : Char} {rest : Text} (apart : BreaksApart [c] rest) : rows (c :: rest) =
    if c = '\r' ∨ c = '\n' then ⟨[], [c]⟩ :: rows rest
    else (rows rest).modifyHead fun row => ⟨c :: row.line, row.ending⟩ :=
  rows.eq_3 c rest fun more carriage feed => apart (by simp [carriage]) (by simp [feed])

theorem rows_head (t : Text) : ∃ ending more, rows t = ⟨firstLine t, ending⟩ :: more := by
  fun_induction rows t with
  | case1 => exact ⟨_, _, rfl⟩
  | case2 rest => exact ⟨_, _, rfl⟩
  | case3 c rest _ breaks =>
    have nothing : firstLine (c :: rest) = [] := List.takeWhile_cons_of_neg (by simp [breaks])
    exact ⟨_, _, by rw [nothing]⟩
  | case4 c rest _ plain ih =>
    obtain ⟨ending, more, rows⟩ := ih
    have goesOn : firstLine (c :: rest) = c :: firstLine rest :=
      List.takeWhile_cons_of_pos (by simp [plain])
    exact ⟨ending, more, by rw [rows, goesOn]; rfl⟩

theorem map_line_rows (t : Text) : (rows t).map Row.line = t.lines := by
  unfold lines
  fun_induction rows t with
  | case1 => rfl
  | case2 rest ih => exact congrArg ([] :: ·) ih
  | case3 c rest other breaks ih =>
    rw [unifyBreaks.eq_3 c rest other]
    rcases breaks with rfl | rfl <;> exact congrArg ([] :: ·) ih
  | case4 c rest other plain ih =>
    obtain ⟨carriage, feed⟩ := not_or.mp plain
    obtain ⟨ending, more, rows⟩ := rows_head rest
    rw [unifyBreaks.eq_3 c rest other, if_neg carriage, splitOn, if_neg feed, ← ih, rows]
    rfl

theorem flatMap_rows (t : Text) : (rows t).flatMap Row.text = t := by
  fun_induction rows t with
  | case1 => rfl
  | case2 rest ih => exact congrArg ('\r' :: '\n' :: ·) ih
  | case3 c rest _ _ ih => exact congrArg (c :: ·) ih
  | case4 c rest _ _ ih =>
    obtain ⟨ending, more, rows⟩ := rows_head rest
    rw [rows] at ih ⊢
    exact congrArg (c :: ·) ih

/-- The last row of a text goes on with the first row of what follows it. -/
theorem rows_append {front back : Text} (apart : BreaksApart front back) :
    ∃ init last first ending more, rows front = init ++ [⟨last, []⟩] ∧
      rows back = ⟨first, ending⟩ :: more ∧
      rows (front ++ back) = init ++ ⟨last ++ first, ending⟩ :: more := by
  fun_induction rows front with
  | case1 =>
    obtain ⟨ending, more, behind⟩ := rows_head back
    exact ⟨[], [], _, ending, more, rfl, behind, behind⟩
  | case2 rest ih =>
    obtain ⟨init, last, first, ending, more, before, behind, whole⟩ := ih apart.of_cons.of_cons
    exact ⟨⟨[], ['\r', '\n']⟩ :: init, last, first, ending, more, congrArg (_ :: ·) before, behind,
      congrArg (_ :: ·) whole⟩
  | case3 c rest other breaks ih =>
    obtain ⟨init, last, first, ending, more, before, behind, whole⟩ := ih apart.of_cons
    refine ⟨⟨[], [c]⟩ :: init, last, first, ending, more, congrArg (_ :: ·) before, behind, ?_⟩
    rw [List.cons_append, rows_cons (apart.first other), if_pos breaks, whole]
    rfl
  | case4 c rest other plain ih =>
    obtain ⟨init, last, first, ending, more, before, behind, whole⟩ := ih apart.of_cons
    rw [List.cons_append, rows_cons (apart.first other), if_neg plain, before, whole]
    cases init with
    | nil => exact ⟨[], c :: last, first, ending, more, rfl, behind, rfl⟩
    | cons row init =>
      exact ⟨⟨c :: row.line, row.ending⟩ :: init, last, first, ending, more, rfl, behind, rfl⟩

theorem afterText_rows (p : Position) (t : Text) : ∃ init last, rows t = init ++ [⟨last, []⟩] ∧
    p.afterText t = ⟨p.line + init.length,
      if init = [] then p.column + last.length else last.length + 1, p.offset + t.length⟩ := by
  -- As long as no row is ended, the column goes on from that of `p`.
  fun_induction rows t generalizing p with
  | case1 => exact ⟨[], [], rfl, by simp [Position.afterText]⟩
  | case2 rest ih =>
    obtain ⟨init, last, rows, stop⟩ := ih ⟨p.line + 1, 1, p.offset + 2⟩
    have broken : p.afterText ('\r' :: '\n' :: rest) =
        (Position.mk (p.line + 1) 1 (p.offset + 2)).afterText rest := by
      simp [Position.afterText, Position.after, Int.add_assoc]
    refine ⟨⟨[], ['\r', '\n']⟩ :: init, last, congrArg (_ :: ·) rows, ?_⟩
    rw [broken, stop, Position.mk.injEq]
    simp
    omega
  | case3 c rest other breaks ih =>
    obtain ⟨init, last, rows, stop⟩ := ih ⟨p.line + 1, 1, p.offset + 1⟩
    have ends : c = '\n' ∨ (c = '\r' ∧ rest.head? ≠ some '\n') :=
      breaks.symm.imp_right fun carriage =>
        ⟨carriage, BreaksApart.singleton other (congrArg some carriage)⟩
    refine ⟨⟨[], [c]⟩ :: init, last, congrArg (_ :: ·) rows, ?_⟩
    rw [Position.afterText, Position.after, if_pos ends, stop, Position.mk.injEq]
    simp
    omega
  | case4 c rest other plain ih =>
    obtain ⟨init, last, rows, stop⟩ := ih ⟨p.line, p.column + 1, p.offset + 1⟩
    have stays : ¬(c = '\n' ∨ (c = '\r' ∧ rest.head? ≠ some '\n')) :=
      fun ends => plain (ends.symm.imp_left And.left)
    rw [Position.afterText, Position.after, if_neg stays, stop, rows]
    cases init with
    | nil => exact ⟨[], c :: last, rfl, by simp; omega⟩
    | cons row init => exact ⟨⟨c :: row.line, row.ending⟩ :: init, last, rfl, by simp; omega⟩

theorem endPosition_eq {t : Text} {init : List Row} {last : Text} (rows : rows t = init ++ [⟨last, []⟩]) :
    t.endPosition = ⟨init.length + 1, last.length + 1, t.length⟩ := by
  obtain ⟨init', last', rows', stop⟩ := afterText_rows .origin t
  obtain ⟨rfl, same⟩ := List.append_inj' (rows'.symm.trans rows) rfl
  cases same
  rw [endPosition, stop, Position.mk.injEq]
  dsimp only [Position.origin]
  refine ⟨by omega, ?_, by omega⟩
  split <;> omega

end Text

end StyleValue

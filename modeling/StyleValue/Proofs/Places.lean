import StyleValue.Proofs.Readers
import StyleValue.Proofs.Rows
import StyleValue.SyntaxError

/-! Where each character of a text stands among the lines of the text. A reader counts lines and columns as
it goes on, the lines come from rewriting and cutting the whole text; both agree at every character. -/
namespace StyleValue

open Text

/-- The place of the character number `k` of a text, in a line that reads `row`. A break stands behind its
line, the line feed of a pair one column further. -/
structure Text.Places (text : Text) (k : Nat) (p : Position) (line column : Nat) (row : Text) : Prop where
  position : p = ⟨line, column, k⟩
  inside : 1 ≤ line ∧ line ≤ text.lines.length
  reads : text.lines[line - 1]? = some row
  counted : 1 ≤ column
  plain : ∀ c ∈ text[k]?, c ≠ '\r' → c ≠ '\n' → row[column - 1]? = some c
  ends : text[k]? = some '\r' ∨ text[k]? = some '\n' ∧ (text.take k).getLast? ≠ some '\r' →
    column = row.length + 1
  feeds : text[k]? = some '\n' ∧ (text.take k).getLast? = some '\r' → column = row.length + 2

theorem exists_split {text : Text} {k : Nat} {c : Char} (found : text[k]? = some c) :
    ∃ front back, text = front ++ c :: back ∧ front.length = k := by
  obtain ⟨inside, rfl⟩ := List.getElem?_eq_some_iff.mp found
  refine ⟨text.take k, text.drop (k + 1), ?_, List.length_take_of_le (Nat.le_of_lt inside)⟩
  rw [← List.drop_eq_getElem_cons, List.take_append_drop]

theorem firstLine_plain {c : Char} {back : Text} (carriage : c ≠ '\r') (feed : c ≠ '\n') :
    firstLine (c :: back) = c :: firstLine back :=
  List.takeWhile_cons_of_pos (by simp [carriage, feed])

theorem firstLine_break {c : Char} {back : Text} (breaks : c = '\r' ∨ c = '\n') :
    firstLine (c :: back) = [] :=
  List.takeWhile_cons_of_neg (by simp [breaks])

/-- A line that begins in one text and goes on in the next. -/
theorem lines_seam {front back : Text} (apart : BreaksApart front back) :
    ∃ (line column : Nat) (last : Text), front.endPosition = ⟨line, column, front.length⟩ ∧
      1 ≤ line ∧ line ≤ (front ++ back).lines.length ∧ column = last.length + 1 ∧
      (front ++ back).lines[line - 1]? = some (last ++ firstLine back) := by
  obtain ⟨above, last, first, ending, more, fronts, backs, whole⟩ := rows_append apart
  obtain ⟨_, _, same⟩ := rows_head back
  cases same.symm.trans backs
  refine ⟨above.length + 1, last.length + 1, last, endPosition_eq fronts, by omega, ?_, rfl, ?_⟩
  · rw [← map_line_rows, whole]
    simp
  · rw [← map_line_rows, whole]
    simp

/-- Where no pair of breaks is cut, a character stands behind all that is in front of it. -/
theorem places_seam {front back : Text} {c : Char} (apart : BreaksApart front (c :: back)) :
    ∃ line column row,
      (front ++ c :: back).Places front.length front.endPosition line column row := by
  obtain ⟨line, column, last, position, counted, inside, rfl, reads⟩ := lines_seam apart
  refine ⟨line, _, _, position, ⟨counted, inside⟩, reads, by omega, ?_, ?_, ?_⟩
  · intro d found carriage feed
    obtain rfl : c = d := by simpa using found
    simp [firstLine_plain carriage feed]
  · intro breaks
    have broken : c = '\r' ∨ c = '\n' := by simpa using breaks.imp_right And.left
    simp [firstLine_break broken]
  · rintro ⟨feed, carriage⟩
    exact absurd (by simpa using feed) (apart (by simpa using carriage))

theorem after_pair (p : Position) (back : Text) :
    p.after '\r' ('\n' :: back) = ⟨p.line, p.column + 1, p.offset + 1⟩ := by
  simp [Position.after]

/-- The line feed of a pair stands in the line that the pair ends. -/
theorem places_pair (front back : Text) : ∃ line column row,
    (front ++ '\r' :: '\n' :: back).Places (front.length + 1)
      (front.endPosition.after '\r' ('\n' :: back)) line column row := by
  have apart : BreaksApart front ('\r' :: '\n' :: back) := fun _ => by simp
  obtain ⟨line, column, last, position, counted, inside, rfl, reads⟩ := lines_seam apart
  rw [firstLine_break (.inl rfl), List.append_nil] at reads
  have found : (front ++ '\r' :: '\n' :: back)[front.length + 1]? = some '\n' := by simp
  have before : ((front ++ '\r' :: '\n' :: back).take (front.length + 1)).getLast? = some '\r' := by
    simp [List.take_append]
  refine ⟨line, last.length + 2, last, ?_, ⟨counted, inside⟩, reads, by omega, ?_, ?_, ?_⟩
  · rw [after_pair, position]
    rfl
  · intro d same _ feed
    exact absurd (Option.some.inj (found.symm.trans same)).symm feed
  · rintro (carriage | ⟨_, alone⟩)
    · simp at carriage
    · exact absurd before alone
  · exact fun _ => rfl

theorem characters_seam {front back : Text} {c : Char} (apart : BreaksApart front (c :: back)) :
    (front ++ c :: back).characters[front.length]? = some ⟨[c], .ofChar c, front.endPosition⟩ := by
  rw [characters, charactersFrom_append apart, List.getElem?_append_right (by simp [length_charactersFrom]),
    length_charactersFrom, Nat.sub_self]
  rfl

theorem characters_pair (front back : Text) :
    (front ++ '\r' :: '\n' :: back).characters[front.length + 1]? =
      some ⟨['\n'], .ofChar '\n', front.endPosition.after '\r' ('\n' :: back)⟩ := by
  have apart : BreaksApart front ('\r' :: '\n' :: back) := fun _ => by simp
  rw [characters, charactersFrom_append apart, List.getElem?_append_right (by simp [length_charactersFrom]),
    length_charactersFrom, Nat.add_sub_cancel_left]
  rfl

/-- Every character of a text has its place in one of the lines. -/
theorem characters_place {text : Text} {k : Nat} {c : Char} (found : text[k]? = some c) :
    ∃ d line column row, text.characters[k]? = some d ∧ d.value = [c] ∧
      text.Places k d.position line column row := by
  obtain ⟨front, back, rfl, rfl⟩ := exists_split found
  by_cases apart : BreaksApart front (c :: back)
  · obtain ⟨line, column, row, places⟩ := places_seam apart
    exact ⟨_, line, column, row, characters_seam apart, rfl, places⟩
  · -- The character is the second of a pair, and the first stands behind what is in front of both.
    unfold BreaksApart at apart
    push Not at apart
    obtain ⟨last, feed⟩ := apart
    obtain ⟨front, rfl⟩ := List.getLast?_eq_some_iff.mp last
    obtain rfl : c = '\n' := by simpa using feed
    obtain ⟨line, column, row, places⟩ := places_pair front back
    rw [List.append_assoc, List.length_append]
    exact ⟨_, line, column, row, characters_pair front back, rfl, places⟩

theorem ofEnd_eq (text : Text) : Position.ofEnd text = text.endPosition := by
  obtain ⟨init, last, rows, _⟩ := afterText_rows .origin text
  rw [endPosition_eq rows, Position.ofEnd, ← map_line_rows, rows]
  simp

theorem after_eq_iff {p : Position} {c d : Char} {rest : Text} :
    p.after c [] = p.after c (d :: rest) ↔ ¬(c = '\r' ∧ d = '\n') := by
  constructor
  · rintro same ⟨rfl, rfl⟩
    rw [after_pair] at same
    have lines : p.line + 1 = p.line := congrArg Position.line same
    omega
  · intro apart
    have ends : (c = '\n' ∨ c = '\r' ∧ ([] : Text).head? ≠ some '\n') ↔
        (c = '\n' ∨ c = '\r' ∧ (d :: rest).head? ≠ some '\n') := by
      refine or_congr_right (and_congr_right fun carriage => ?_)
      simpa using fun feed => apart ⟨carriage, feed⟩
    unfold Position.after
    simp only [ends]

/-- Whether two characters are a carriage return and a line feed, which are one break. -/
def Character.IsPair (c d : Character) : Prop := c.value = ['\r'] ∧ d.value = ['\n']

/-- Neighbours in what is read: the first ends where the second stands, unless they are a pair. -/
theorem streamFrom_adjoins (p : Position) (text : Text) : (streamFrom p text).IsChain fun c d =>
    c.stop = d.position ↔ ¬c.IsPair d := by
  induction text generalizing p with
  | nil => exact .singleton _
  | cons c rest ih =>
    rw [streamFrom_cons]
    refine (ih _).cons fun d next => ?_
    rw [stop_last]
    cases rest with
    | nil =>
      cases next
      exact iff_of_true rfl (by simp [Character.IsPair, Character.endMark, endText])
    | cons e rest =>
      cases next
      simpa [Character.IsPair] using after_eq_iff

/-- Each character that a reader of a text gives has the place that the lines of the text have for it, and so
has the mark of the end. -/
theorem ofText_take_places (text : Text) : ∃ given : List Character,
    (Reader.ofText text).take? (text.length + 1) =
      some (given ++ [.endMark (.ofEnd text)], (Reader.ofText text).exhausted) ∧
    given.length = text.length ∧
    (∀ k c, text[k]? = some c → ∃ d line column row, given[k]? = some d ∧ d.value = [c] ∧
      text.Places k d.position line column row) ∧
    List.IsChain (fun c d : Character => c.stop = d.position ↔ ¬c.IsPair d)
      (given ++ [.endMark (.ofEnd text)]) := by
  have counted : (Reader.ofText text).upcoming.length = text.length := length_characters text
  refine ⟨text.characters, ?_, counted, fun k c => characters_place, ?_⟩
  · have all := (Reader.ofText text).take?_all rfl
    rwa [counted, remaining_ofText, ← ofEnd_eq] at all
  · rw [ofEnd_eq]
    exact streamFrom_adjoins .origin text

/-- The line feed of a pair stands in the second column behind its line. -/
theorem ofText_take_places_pair :
    let text : Text := ['a', '\r', '\n', '\r']
    text[2]? = some '\n' ∧ text.Places 2 ⟨1, 3, 2⟩ 1 3 ['a'] ∧ Position.ofEnd text = ⟨3, 1, 4⟩ := by
  intro text
  have found : text[2]? = some '\n' := rfl
  obtain ⟨given, taken, _, places, _⟩ := ofText_take_places text
  have ends : Position.ofEnd text = ⟨3, 1, 4⟩ := by decide
  have characters : given ++ [.endMark (.ofEnd text)] = text.characters ++ [.endMark ⟨3, 1, 4⟩] := by
    have same := congrArg (Option.map Prod.fst) taken
    exact (Option.some.inj same).symm
  rw [ends] at characters
  obtain rfl := List.append_cancel_right characters
  obtain ⟨d, line, column, row, third, _, stands⟩ := places 2 '\n' found
  cases third
  obtain ⟨rfl, rfl⟩ : line = 1 ∧ column = 3 := by
    have lines : (1 : Int) = line := congrArg Position.line stands.position
    have columns : (3 : Int) = column := congrArg Position.column stands.position
    omega
  obtain rfl : row = ['a'] := Option.some.inj (stands.reads.symm.trans (by decide))
  exact ⟨found, stands, ends⟩

end StyleValue

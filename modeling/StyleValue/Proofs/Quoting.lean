import Mathlib.Data.Nat.Digits.Defs
import Mathlib.Tactic.SplitIfs
import StyleValue.Text

/-! Quoted text read back. The first two characters of an escape tell how long it is, so the characters of
a text can be taken one by one from its quoted form, and no escape begins with the mark that closes it. -/
namespace StyleValue.Quoted

def nibble (c : Char) : Nat := if c.toNat < 0x3A then c.toNat - 0x30 else c.toNat - 0x57

def hexValue (t : Text) : Nat := t.foldl (fun n c => 16 * n + nibble c) 0

/-- The first of the characters inside of quotation marks, and what stands behind it. -/
def next? : Text → Option (Char × Text)
  | [] => none
  | '\\' :: c :: rest =>
    match c with
    | 't' => some ('\t', rest)
    | 'n' => some ('\n', rest)
    | 'r' => some ('\r', rest)
    | 'x' => some (Char.ofNat (hexValue (rest.take 2)), rest.drop 2)
    | 'u' => some (Char.ofNat (hexValue (rest.take 4)), rest.drop 4)
    | 'U' => some (Char.ofNat (hexValue (rest.take 8)), rest.drop 8)
    | c => some (c, rest)
  | c :: rest => some (c, rest)

theorem length_hex (width n : Nat) : (hex width n).length = width := by
  induction width generalizing n with
  | zero => rfl
  | succ width ih => simp [hex, ih]

theorem nibble_digitChar : ∀ d < 16, nibble (Nat.digitChar d) = d := by decide

theorem hexValue_hex (width n : Nat) : hexValue (hex width n) = n % 16 ^ width := by
  induction width generalizing n with
  | zero =>
    rw [Nat.pow_zero, Nat.mod_one]
    rfl
  | succ width ih =>
    have front : hexValue (hex (width + 1) n) =
        16 * hexValue (hex width (n / 16)) + nibble (Nat.digitChar (n % 16)) := by
      unfold hexValue
      rw [hex, List.foldl_append]
      rfl
    rw [front, ih, nibble_digitChar _ (Nat.mod_lt _ (by decide)), Nat.pow_succ, Nat.mul_comm (16 ^ width),
      Nat.mod_mul, Nat.add_comm]

theorem next?_plain {c : Char} (plain : c ≠ '\\') (rest : Text) : next? (c :: rest) = some (c, rest) := by
  unfold next?
  split
  · rename_i none
    cases none
  · rename_i same
    exact absurd (List.cons.inj same).1 plain
  · rename_i same
    cases same
    rfl

theorem next?_number (c : Char) (rest : Text) : next? (number c ++ rest) = some (c, rest) := by
  have bound : c.toNat < 0x110000 := by
    have valid := c.valid
    simp only [UInt32.isValidChar, Nat.isValidChar] at valid
    simp only [Char.toNat]
    omega
  have digits : ∀ width, c.toNat < 16 ^ width →
      some (Char.ofNat (hexValue ((hex width c.toNat ++ rest).take width)),
        (hex width c.toNat ++ rest).drop width) = some (c, rest) := by
    intro width fits
    rw [List.take_left' (length_hex _ _), List.drop_left' (length_hex _ _), hexValue_hex,
      Nat.mod_eq_of_lt fits, Char.ofNat_toNat]
  unfold number
  dsimp only
  split_ifs with small middle
  · exact digits 2 (by omega)
  · exact digits 4 (by omega)
  · exact digits 8 (by omega)

theorem mark_cases (t : Text) : mark t = '\'' ∨ mark t = '"' := by
  unfold mark
  split
  · exact .inr rfl
  · exact .inl rfl

theorem next?_escape (plain : Char → Bool) (t : Text) (c : Char) (rest : Text) :
    next? (escape plain (mark t) c ++ rest) = some (c, rest) := by
  unfold escape
  split_ifs with special tab feed carriage shown
  · -- The character behind the backslash stands for itself: it is none of those that begin a number.
    rcases special with rfl | rfl
    · rcases mark_cases t with same | same <;> rw [same] <;> rfl
    · rfl
  · rw [tab]
    rfl
  · rw [feed]
    rfl
  · rw [carriage]
    rfl
  · exact next?_plain (fun same => special (.inr same)) rest
  · exact next?_number c rest

theorem number_head (c : Char) : ∃ rest, number c = '\\' :: rest := by
  unfold number
  dsimp only
  split_ifs <;> exact ⟨_, rfl⟩

theorem escape_head (plain : Char → Bool) (t : Text) (c : Char) :
    ∃ first rest, escape plain (mark t) c = first :: rest ∧ first ≠ mark t := by
  have backslash : '\\' ≠ mark t := by rcases mark_cases t with same | same <;> rw [same] <;> decide
  unfold escape
  split_ifs with special _ _ _ shown
  · exact ⟨_, _, rfl, backslash⟩
  · exact ⟨_, _, rfl, backslash⟩
  · exact ⟨_, _, rfl, backslash⟩
  · exact ⟨_, _, rfl, backslash⟩
  · exact ⟨c, [], rfl, fun same => special (.inl same)⟩
  · obtain ⟨rest, same⟩ := number_head c
    exact ⟨_, rest, same, backslash⟩

/-- The escapes of two texts in front of a mark that begins none of them. If the first character can be
read from what stands there, reading takes the same characters from both. -/
theorem flatMap_inj {escape : Char → Text} {next? : Text → Option (Char × Text)} {mark : Char}
    (read : ∀ c rest, next? (escape c ++ rest) = some (c, rest))
    (head : ∀ c, ∃ first rest, escape c = first :: rest ∧ first ≠ mark) {t u r s : Text}
    (same : t.flatMap escape ++ mark :: r = u.flatMap escape ++ mark :: s) : t = u ∧ r = s := by
  induction t generalizing u with
  | nil =>
    cases u with
    | nil => exact ⟨rfl, (List.cons.inj same).2⟩
    | cons d u =>
      obtain ⟨first, rest, escaped, other⟩ := head d
      rw [List.flatMap_cons, escaped] at same
      exact absurd (List.cons.inj same).1.symm other
  | cons c t ih =>
    cases u with
    | nil =>
      obtain ⟨first, rest, escaped, other⟩ := head c
      rw [List.flatMap_cons, escaped] at same
      exact absurd (List.cons.inj same).1 other
    | cons d u =>
      rw [List.flatMap_cons, List.flatMap_cons, List.append_assoc, List.append_assoc] at same
      have taken := congrArg next? same
      rw [read, read] at taken
      obtain ⟨rfl, behind⟩ := Prod.mk.inj (Option.some.inj taken)
      obtain ⟨rfl, rests⟩ := ih behind
      exact ⟨rfl, rests⟩

/-- Quoted text tells its text and where it ends. -/
theorem write_append_inj (plain : Char → Bool) {t u r s : Text}
    (same : write plain t ++ r = write plain u ++ s) : t = u ∧ r = s := by
  unfold write at same
  simp only [List.append_assoc, List.singleton_append] at same
  obtain ⟨marks, insides⟩ := List.cons.inj same
  rw [← marks] at insides
  exact flatMap_inj (next?_escape plain t) (escape_head plain t) insides

end StyleValue.Quoted

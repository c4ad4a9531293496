import Mathlib.Data.Nat.Digits.Lemmas
import Mathlib.Tactic.SplitIfs
import StyleValue.Character

/-! Decimal digits as they are written: each stands for itself, belongs to the class of numbers, and a
numeral of them is read as the number that was written. -/
namespace StyleValue

theorem digit_bounds {c : Char} (digit : c.isDigit = true) : 0x30 ≤ c.toNat ∧ c.toNat ≤ 0x39 := by
  simpa [Char.isDigit, UInt32.le_iff_toNat_le] using digit

/-- No white space has a code point between those of the space and U+0085. -/
theorem isBlank_of_bounds {c : Char} (low : 0x20 < c.toNat) (high : c.toNat < 0x85) :
    isBlank c = false := by
  rw [isBlank, Ranges.contains, blankRanges, Ranges.find?, if_neg (by omega), if_neg (by omega),
    Ranges.find?, if_neg (by omega), if_neg (by omega), Ranges.find?, if_pos high]
  rfl

theorem isLetter_of_below {c : Char} (below : c.toNat < 0x41) : isLetter c = false := by
  rw [isLetter, Ranges.contains, letterRanges, Ranges.find?, if_pos below]
  rfl

theorem digitValue?_of_isDigit {c : Char} (digit : c.isDigit = true) :
    digitValue? c = some (c.toNat - 0x30) := by
  obtain ⟨low, high⟩ := digit_bounds digit
  have foot : digitRanges.find? c.toNat = some 0x30 := by
    rw [digitRanges, Ranges.find?, if_neg (by omega), if_pos high]
  rw [digitValue?, foot]
  exact congrArg some (Nat.mod_eq_of_lt (by omega))

theorem ofChar_digit {c : Char} (digit : c.isDigit = true) : CharClass.ofChar c = .number := by
  obtain ⟨low, high⟩ := digit_bounds digit
  have other : ∀ d : Char, d.toNat < 0x30 → c ≠ d := by
    rintro d below rfl
    omega
  have breaks : ¬(c = '\n' ∨ c = '\r') := not_or.mpr ⟨other _ (by decide), other _ (by decide)⟩
  unfold CharClass.ofChar
  rw [if_neg breaks, isBlank_of_bounds (by omega) (by omega), if_neg (by simp),
    if_neg (other _ (by decide)), if_neg (other _ (by decide)), isLetter_of_below (by omega),
    if_neg (by simp), isDigit, digitValue?_of_isDigit digit]
  rfl

theorem number_of_ofChar {c : Char} (number : CharClass.ofChar c = .number) :
    isBlank c = false ∧ isDigit c = true := by
  unfold CharClass.ofChar at number
  split_ifs at number with _ blank _ _ _ digit
  exact ⟨by simpa using blank, digit⟩

namespace Numeral

/-! Digits of any script, as the lexer takes them: no white space, no sign and no underscore is one. -/

theorem digits?_of_number {t : Text} (filled : t ≠ []) (digits : ∀ c ∈ t, CharClass.ofChar c = .number) :
    ∃ ds, digits? t = some ds ∧ t.map digitValue? = ds.map some := by
  induction t with
  | nil => exact absurd rfl filled
  | cons c rest ih =>
    obtain ⟨first, others⟩ := List.forall_mem_cons.mp digits
    obtain ⟨d, value⟩ := Option.isSome_iff_exists.mp (number_of_ofChar first).2
    cases rest with
    | nil => exact ⟨[d], by simp [digits?, value], by simp [value]⟩
    | cons next rest =>
      -- An underscore is no digit, so the digits are taken one by one.
      have plain : next ≠ '_' := by
        rintro rfl
        exact absurd (others _ List.mem_cons_self) (by decide)
      obtain ⟨ds, read, values⟩ := ih (by simp) others
      refine ⟨d :: ds, ?_, by rw [List.map_cons, values, value, List.map_cons]⟩
      rw [digits?.eq_4 c (next :: rest) (by simp) fun _ same => plain (List.cons.inj same).1, read, value]
      rfl

theorem dropWhile_margin {t : Text} (digits : ∀ c ∈ t, CharClass.ofChar c = .number) :
    t.dropWhile isMargin = t := by
  cases t with
  | nil => rfl
  | cons c rest =>
    have plain := (number_of_ofChar (digits c List.mem_cons_self)).1
    exact List.dropWhile_cons_of_neg (by simp [isMargin, plain])

theorem unsigned_of_number {t : Text} (digits : ∀ c ∈ t, CharClass.ofChar c = .number) :
    unsigned t = (false, t) := by
  unfold unsigned
  split
  · exact absurd (digits '-' List.mem_cons_self) (by decide)
  · exact absurd (digits '+' List.mem_cons_self) (by decide)
  · rfl

theorem read?_of_number {t : Text} (filled : t ≠ []) (digits : ∀ c ∈ t, CharClass.ofChar c = .number) :
    ∃ ds, t.map digitValue? = ds.map some ∧
      read? t = if t.length ≤ maxDigits then some (value ds : Int) else none := by
  obtain ⟨ds, read, values⟩ := digits?_of_number filled digits
  have lengths : t.length = ds.length := by simpa using congrArg List.length values
  have backwards : ∀ c ∈ t.reverse, CharClass.ofChar c = .number := fun c member =>
    digits c (List.mem_reverse.mp member)
  refine ⟨ds, values, ?_⟩
  unfold read?
  rw [dropWhile_margin digits, dropWhile_margin backwards, List.reverse_reverse]
  dsimp only
  rw [unsigned_of_number digits]
  dsimp only
  rw [read, lengths]
  dsimp only
  by_cases short : ds.length ≤ maxDigits
  · rw [if_pos short, if_neg (by omega), if_neg (by simp)]
  · rw [if_neg short, if_pos (by omega)]

theorem read?_of_isDigit {t : Text} (filled : t ≠ []) (digits : ∀ c ∈ t, c.isDigit = true)
    (short : t.length ≤ maxDigits) : read? t = some (Nat.ofDigitChars 10 t 0 : Int) := by
  obtain ⟨ds, values, read⟩ := read?_of_number filled fun c member => ofChar_digit (digits c member)
  have plain : ds = t.map fun c => c.toNat - 0x30 := by
    apply List.map_injective_iff.mpr (Option.some_injective Nat)
    rw [← values, List.map_map]
    exact List.map_congr_left fun c member => digitValue?_of_isDigit (digits c member)
  rw [read, if_pos short, plain, value, List.foldl_map]
  rfl

theorem ofInt_digits {n : Int} (natural : 0 ≤ n) : Text.ofInt n = Nat.toDigits 10 n.toNat := by
  rw [Text.ofInt, if_neg (by omega)]
  congr 1
  omega

theorem ofInt_ne_nil {n : Int} (natural : 0 ≤ n) : Text.ofInt n ≠ [] := by
  rw [ofInt_digits natural]
  exact Nat.toDigits_ne_nil

theorem isDigit_ofInt {n : Int} (natural : 0 ≤ n) : ∀ c ∈ Text.ofInt n, c.isDigit = true := by
  rw [ofInt_digits natural]
  exact fun c => Nat.isDigit_of_mem_toDigits (by decide) (by decide)

theorem mem_ofInt {c : Char} {n : Int} (member : c ∈ Text.ofInt n) : c = '-' ∨ c.isDigit = true := by
  have digit : c ∈ Nat.toDigits 10 n.natAbs → c.isDigit = true :=
    Nat.isDigit_of_mem_toDigits (by decide) (by decide)
  unfold Text.ofInt at member
  split at member
  · exact (List.mem_cons.mp member).imp_right digit
  · exact .inr (digit member)

theorem not_mem_ofInt {c : Char} (other : c.isDigit = false) (unsigned : c ≠ '-') (n : Int) :
    c ∉ Text.ofInt n := by
  intro member
  rcases mem_ofInt member with sign | digit
  · exact unsigned sign
  · rw [other] at digit
    cases digit

theorem toDigits_injective {m n : Nat} (same : Nat.toDigits 10 m = Nat.toDigits 10 n) : m = n := by
  have values := congrArg (Nat.ofDigitChars 10 · 0) same
  simpa [Nat.ofDigitChars_toDigits] using values

theorem toDigits_ne_signed (n : Nat) (t : Text) : Nat.toDigits 10 n ≠ '-' :: t := by
  intro same
  have digit : '-'.isDigit = true :=
    Nat.isDigit_of_mem_toDigits (b := 10) (n := n) (by decide) (by decide) (same ▸ List.mem_cons_self)
  exact absurd digit (by decide)

theorem ofInt_injective {m n : Int} (same : Text.ofInt m = Text.ofInt n) : m = n := by
  unfold Text.ofInt at same
  split at same <;> split at same
  · have sizes := toDigits_injective (List.cons.inj same).2
    omega
  · exact absurd same.symm (toDigits_ne_signed _ _)
  · exact absurd same (toDigits_ne_signed _ _)
  · have sizes := toDigits_injective same
    omega

theorem ofInt_head (n : Int) : ∃ c rest, Text.ofInt n = c :: rest ∧ (c = '-' ∨ c.isDigit = true) := by
  cases written : Text.ofInt n with
  | nil =>
    unfold Text.ofInt at written
    split at written
    · cases written
    · exact absurd written Nat.toDigits_ne_nil
  | cons c rest => exact ⟨c, rest, rfl, mem_ofInt (written ▸ List.mem_cons_self)⟩

/-- A numeral ends in front of anything but a digit or a sign. -/
theorem ofInt_append_inj {m n : Int} {r s : Text}
    (ended : ∀ c ∈ r.head?, c.isDigit = false ∧ c ≠ '-')
    (ended' : ∀ c ∈ s.head?, c.isDigit = false ∧ c ≠ '-')
    (same : Text.ofInt m ++ r = Text.ofInt n ++ s) : m = n ∧ r = s := by
  let belongs (c : Char) : Bool := c.isDigit || c == '-'
  have taken (k : Int) {t : Text} (ended : ∀ c ∈ t.head?, c.isDigit = false ∧ c ≠ '-') :
      (Text.ofInt k ++ t).takeWhile belongs = Text.ofInt k := by
    rw [List.takeWhile_append_of_pos fun c member => ?_]
    · cases t with
      | nil => exact List.append_nil _
      | cons c t =>
        obtain ⟨digit, sign⟩ := ended c rfl
        rw [List.takeWhile_cons_of_neg (by simp [belongs, digit, sign]), List.append_nil]
    · rcases mem_ofInt member with rfl | digit
      · rfl
      · simp [belongs, digit]
  have numerals : Text.ofInt m = Text.ofInt n := by rw [← taken m ended, same, taken n ended']
  rw [numerals] at same
  exact ⟨ofInt_injective numerals, List.append_cancel_left same⟩

theorem read?_ofInt {n : Int} (natural : 0 ≤ n) (bound : n < 10 ^ maxDigits) :
    read? (Text.ofInt n) = some n := by
  have short : (Text.ofInt n).length ≤ maxDigits := by
    rw [ofInt_digits natural, Nat.length_toDigits_le_iff (by decide) (by decide)]
    exact (Int.toNat_lt natural).mpr (by exact_mod_cast bound)
  rw [read?_of_isDigit (ofInt_ne_nil natural) (isDigit_ofInt natural) short, ofInt_digits natural,
    Nat.ofDigitChars_toDigits (by decide) (by decide), Int.toNat_of_nonneg natural]

end Numeral

end StyleValue

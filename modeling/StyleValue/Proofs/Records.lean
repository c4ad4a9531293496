import StyleValue.Json
import StyleValue.Proofs.Numerals
import StyleValue.Proofs.Quoting

/-! The text of a JSON value read back. Every value begins with a character that tells its form, and the
marks around its members tell where it ends. -/
namespace StyleValue.Json

/-- Equality of values, where the fields of a record count by their keys and not by their order. -/
inductive Same : Json → Json → Prop where
  | number (n : Int) : Same (.number n) (.number n)
  | text (t : Text) : Same (.text t) (.text t)
  | list {as bs : List Json} : List.Forall₂ Same as bs → Same (.list as) (.list bs)
  | record {fs gs : List (Text × Json)} :
      (∀ key, Option.Rel Same (fs.lookup key) (gs.lookup key)) → Same (.record fs) (.record gs)

namespace Same

mutual
theorem refl : ∀ j : Json, j.Same j
  | .number n => .number n
  | .text t => .text t
  | .list items => .list (reflAll items)
  | .record fields => .record (lookup_refl fields)

theorem reflAll : ∀ items : List Json, List.Forall₂ Same items items
  | [] => .nil
  | item :: items => .cons (refl item) (reflAll items)

theorem lookup_refl :
    ∀ (fields : List (Text × Json)) (key : Text), Option.Rel Same (fields.lookup key) (fields.lookup key)
  | [], _ => .none
  | (name, value) :: fields, key => by
    rw [List.lookup_cons]
    split
    · exact .some (refl value)
    · exact lookup_refl fields key
end

theorem number_eq {m n : Int} (same : (Json.number m).Same (.number n)) : m = n := by
  cases same
  rfl

theorem text_eq {t u : Text} (same : (Json.text t).Same (.text u)) : t = u := by
  cases same
  rfl

theorem items {as bs : List Json} (same : (Json.list as).Same (.list bs)) : List.Forall₂ Same as bs := by
  cases same with
  | list items => exact items

theorem field {fs gs : List (Text × Json)} (same : (Json.record fs).Same (.record gs)) (key : Text)
    {a b : Json} (left : fs.lookup key = some a) (right : gs.lookup key = some b) : a.Same b := by
  cases same with
  | record fields =>
    have values := fields key
    rw [left, right] at values
    cases values
    assumption

end Same

/-! ### Strings -/

/-- The character of the unit at the front or, if that is a surrogate, of the two units there. -/
def fromUnits (t : Text) : Char × Text :=
  let unit := Quoted.hexValue (t.take 4)
  if unit < 0xD800 ∨ 0xDFFF < unit then (Char.ofNat unit, t.drop 4)
  else
    let low := Quoted.hexValue ((t.drop 6).take 4)
    (Char.ofNat (0x10000 + 0x400 * (unit - 0xD800) + (low - 0xDC00)), t.drop 10)

/-- The first of the characters inside of a string, and what stands behind it. -/
def next? : Text → Option (Char × Text)
  | [] => none
  | '\\' :: c :: rest =>
    match c with
    | 'n' => some ('\n', rest)
    | 'r' => some ('\r', rest)
    | 't' => some ('\t', rest)
    | 'b' => some (Char.ofNat 8, rest)
    | 'f' => some (Char.ofNat 12, rest)
    | 'u' => some (fromUnits rest)
    | c => some (c, rest)
  | c :: rest => some (c, rest)

def unitEscape (unit : Nat) : Text := '\\' :: 'u' :: Quoted.hex 4 unit

theorem take_unit {n : Nat} (fits : n < 0x10000) (rest : Text) :
    Quoted.hexValue ((Quoted.hex 4 n ++ rest).take 4) = n := by
  rw [List.take_left' (Quoted.length_hex _ _), Quoted.hexValue_hex, Nat.mod_eq_of_lt (by omega)]

theorem next?_unit {n : Nat} (fits : n < 0x10000) (whole : n < 0xD800 ∨ 0xDFFF < n) (rest : Text) :
    next? (unitEscape n ++ rest) = some (Char.ofNat n, rest) := by
  have read : next? (unitEscape n ++ rest) = some (fromUnits (Quoted.hex 4 n ++ rest)) := rfl
  rw [read, fromUnits]
  dsimp only
  rw [take_unit fits, if_pos whole, List.drop_left' (Quoted.length_hex _ _)]

theorem next?_pair {n : Nat} (fits : n < 0x100000) (rest : Text) :
    next? (unitEscape (0xD800 + n / 0x400) ++ (unitEscape (0xDC00 + n % 0x400) ++ rest)) =
      some (Char.ofNat (0x10000 + n), rest) := by
  have high : n / 0x400 < 0x400 := Nat.div_lt_of_lt_mul fits
  let back := unitEscape (0xDC00 + n % 0x400) ++ rest
  have second : (Quoted.hex 4 (0xD800 + n / 0x400) ++ back).drop 6 =
      Quoted.hex 4 (0xDC00 + n % 0x400) ++ rest := by
    rw [← List.drop_drop (i := 2) (j := 4), List.drop_left' (Quoted.length_hex _ _)]
    rfl
  have behind : (Quoted.hex 4 (0xD800 + n / 0x400) ++ back).drop 10 = rest := by
    rw [← List.drop_drop (i := 4) (j := 6), second, List.drop_left' (Quoted.length_hex _ _)]
  have whole : 0x10000 + 0x400 * (0xD800 + n / 0x400 - 0xD800) + (0xDC00 + n % 0x400 - 0xDC00) =
      0x10000 + n := by omega
  have read : next? (unitEscape (0xD800 + n / 0x400) ++ back) =
      some (fromUnits (Quoted.hex 4 (0xD800 + n / 0x400) ++ back)) := rfl
  rw [read, fromUnits]
  dsimp only
  rw [take_unit (by omega), if_neg (by omega), second, behind, take_unit (by omega), whole]

theorem next?_plain {c : Char} (plain : c ≠ '\\') (rest : Text) : next? (c :: rest) = some (c, rest) := by
  unfold next?
  split
  · rename_i none
    cases none
  · rename_i same
    exact absurd (List.cons.inj same).1 plain
  · rename_i same
    cases same
    rfl

theorem next?_escape (c : Char) (rest : Text) : next? (escape c ++ rest) = some (c, rest) := by
  have bound : c.toNat < 0xD800 ∨ 0xDFFF < c.toNat ∧ c.toNat < 0x110000 := c.valid
  have numbered (n : Nat) (same : c.toNat = n) : Char.ofNat n = c := by rw [← same, Char.ofNat_toNat]
  unfold escape
  split_ifs with quote backslash feed carriage tab bell form shown
  · rw [quote]
    rfl
  · rw [backslash]
    rfl
  · rw [feed]
    rfl
  · rw [carriage]
    rfl
  · rw [tab]
    rfl
  · rw [← numbered 8 bell]
    rfl
  · rw [← numbered 12 form]
    rfl
  · exact next?_plain backslash rest
  · unfold units
    split
    · rename_i small
      have read := next?_unit small (by omega) rest
      rw [Char.ofNat_toNat] at read
      exact read
    · rename_i large
      have read := next?_pair (n := c.toNat - 0x10000) (by omega) rest
      rw [numbered (0x10000 + (c.toNat - 0x10000)) (by omega)] at read
      exact read

theorem escape_head (c : Char) : ∃ first rest, escape c = first :: rest ∧ first ≠ '"' := by
  unfold escape
  split_ifs with quote
  rotate_left 7
  · exact ⟨c, [], rfl, quote⟩
  · unfold units
    split <;> exact ⟨_, _, rfl, by decide⟩
  all_goals exact ⟨_, _, rfl, by decide⟩

theorem quote_append_inj {t u r s : Text} (same : quote t ++ r = quote u ++ s) : t = u ∧ r = s := by
  unfold quote at same
  simp only [List.append_assoc, List.singleton_append] at same
  exact Quoted.flatMap_inj next?_escape escape_head (List.cons.inj same).2

/-! ### Values -/

theorem breakLine_inj {depth : Nat} {r s : Text} (same : breakLine depth r = breakLine depth s) : r = s :=
  List.append_cancel_left (List.cons.inj same).2

/-- What may stand behind a value, so that a number ends there. -/
def Ended (t : Text) : Prop := ∀ c ∈ t.head?, c = ',' ∨ c = '\n'

theorem Ended.unnumbered {t : Text} (ended : Ended t) : ∀ c ∈ t.head?, c.isDigit = false ∧ c ≠ '-' := by
  intro c first
  rcases ended c first with rfl | rfl <;> decide

theorem breakLine_ended (depth : Nat) (t : Text) : Ended (breakLine depth t) := by
  intro c first
  cases first
  exact .inr rfl

theorem renderItems_ended {depth outer : Nat} {t : Text} {items : List Json} :
    Ended (renderItems depth (breakLine outer t) items) := by
  cases items with
  | nil => exact breakLine_ended outer t
  | cons =>
    intro c first
    cases first
    exact .inl rfl

theorem renderFields_ended {depth outer : Nat} {t : Text} {fields : List (Text × Json)} :
    Ended (renderFields depth (breakLine outer t) fields) := by
  cases fields with
  | nil => exact breakLine_ended outer t
  | cons =>
    intro c first
    cases first
    exact .inl rfl

inductive Form where
  | number
  | text
  | list
  | record
  deriving DecidableEq, Repr

def form : Json → Form
  | .number _ => .number
  | .text _ => .text
  | .list _ => .list
  | .record _ => .record

/-- The form of a value that begins with `c`. -/
def Form.ofHead (c : Char) : Form :=
  if c = '"' then text else if c = '[' then list else if c = '\x7b' then record else number

theorem renderOnto_head (depth : Nat) (tail : Text) (j : Json) :
    (renderOnto depth tail j).head?.map Form.ofHead = some j.form := by
  cases j with
  | number n =>
    obtain ⟨c, rest, written, belongs⟩ := Numeral.ofInt_head n
    have other (d : Char) (sign : d ≠ '-') (digit : d.isDigit = false) : c ≠ d := by
      rintro rfl
      rcases belongs with here | here
      · exact sign here
      · rw [digit] at here
        cases here
    rw [renderOnto, written]
    change some (Form.ofHead c) = some Form.number
    rw [Form.ofHead, if_neg (other _ (by decide) rfl), if_neg (other _ (by decide) rfl),
      if_neg (other _ (by decide) rfl)]
  | text t => rfl
  | list items => cases items <;> rfl
  | record fields => cases fields <;> rfl

mutual
theorem renderOnto_inj : ∀ (a b : Json) {depth : Nat} {r s : Text}, Ended r → Ended s →
    renderOnto depth r a = renderOnto depth s b → a = b ∧ r = s := by
  intro a b depth r s ended ended' same
  -- The first character tells the form, so both values have the same one.
  have forms : some a.form = some b.form := by
    rw [← renderOnto_head depth r a, same, renderOnto_head]
  cases a <;> cases b <;> try cases forms
  case number.number m n =>
    obtain ⟨rfl, rest⟩ := Numeral.ofInt_append_inj ended.unnumbered ended'.unnumbered same
    exact ⟨rfl, rest⟩
  case text.text t u =>
    obtain ⟨rfl, rest⟩ := quote_append_inj same
    exact ⟨rfl, rest⟩
  case list.list as bs =>
    cases as with
    | nil =>
      cases bs with
      | nil => exact ⟨rfl, (List.cons.inj (List.cons.inj same).2).2⟩
      | cons => exact absurd (List.cons.inj (List.cons.inj same).2).1 (by decide)
    | cons a as =>
      cases bs with
      | nil => exact absurd (List.cons.inj (List.cons.inj same).2).1 (by decide)
      | cons b bs =>
        obtain ⟨rfl, later⟩ := renderOnto_inj a b renderItems_ended renderItems_ended
          (breakLine_inj (List.cons.inj same).2)
        obtain ⟨rfl, behind⟩ := renderItems_inj as bs later
        exact ⟨rfl, (List.cons.inj behind).2⟩
  case record.record fs gs =>
    cases fs with
    | nil =>
      cases gs with
      | nil => exact ⟨rfl, (List.cons.inj (List.cons.inj same).2).2⟩
      | cons => exact absurd (List.cons.inj (List.cons.inj same).2).1 (by decide)
    | cons f fs =>
      cases gs with
      | nil => exact absurd (List.cons.inj (List.cons.inj same).2).1 (by decide)
      | cons g gs =>
        obtain ⟨key, a⟩ := f
        obtain ⟨key', b⟩ := g
        obtain ⟨rfl, values⟩ := quote_append_inj (breakLine_inj (List.cons.inj same).2)
        obtain ⟨rfl, later⟩ := renderOnto_inj a b renderFields_ended renderFields_ended
          (List.cons.inj (List.cons.inj values).2).2
        obtain ⟨rfl, behind⟩ := renderFields_inj fs gs later
        exact ⟨rfl, (List.cons.inj behind).2⟩

theorem renderItems_inj : ∀ (as bs : List Json) {depth outer : Nat} {r s : Text},
    renderItems depth (breakLine outer r) as = renderItems depth (breakLine outer s) bs → as = bs ∧ r = s
  | [], [], _, _, _, _, same => ⟨rfl, breakLine_inj same⟩
  | [], _ :: _, _, _, _, _, same => absurd (List.cons.inj same).1 (by decide)
  | _ :: _, [], _, _, _, _, same => absurd (List.cons.inj same).1 (by decide)
  | a :: as, b :: bs, _, _, _, _, same => by
    obtain ⟨rfl, later⟩ := renderOnto_inj a b renderItems_ended renderItems_ended
      (breakLine_inj (List.cons.inj same).2)
    obtain ⟨rfl, behind⟩ := renderItems_inj as bs later
    exact ⟨rfl, behind⟩

theorem renderFields_inj : ∀ (fs gs : List (Text × Json)) {depth outer : Nat} {r s : Text},
    renderFields depth (breakLine outer r) fs = renderFields depth (breakLine outer s) gs →
      fs = gs ∧ r = s
  | [], [], _, _, _, _, same => ⟨rfl, breakLine_inj same⟩
  | [], _ :: _, _, _, _, _, same => absurd (List.cons.inj same).1 (by decide)
  | _ :: _, [], _, _, _, _, same => absurd (List.cons.inj same).1 (by decide)
  | (key, a) :: fs, (key', b) :: gs, _, _, _, _, same => by
    obtain ⟨rfl, values⟩ := quote_append_inj (breakLine_inj (List.cons.inj same).2)
    obtain ⟨rfl, later⟩ := renderOnto_inj a b renderFields_ended renderFields_ended
      (List.cons.inj (List.cons.inj values).2).2
    obtain ⟨rfl, behind⟩ := renderFields_inj fs gs later
    exact ⟨rfl, behind⟩
end

theorem render_injective : Function.Injective render := fun a b same =>
  (renderOnto_inj a b (by simp [Ended]) (by simp [Ended]) same).1

end StyleValue.Json

import StyleValue.Text.Utf8

/-! UTF-8 is read as it is written: the bytes of a text spell that text. -/
namespace StyleValue.Utf8

/-! ### Leading bytes -/

theorem lead?_single : ∀ n < 0x80, lead? (.ofNat n) = some (n, []) := by decide +kernel

/-- The two least numbers would be overlong forms of single bytes. -/
theorem lead?_pair : ∀ n < 0x1E, lead? (.ofNat (n + 2 + 192)) = some (n + 2, [continuation]) := by
  decide +kernel

/-- The second byte keeps out overlong forms and surrogates. -/
theorem lead?_triple : ∀ n < 0x10, lead? (.ofNat (n + 224)) =
    some (n, [(if n = 0 then 0xA0 else 0x80, if n = 13 then 0x9F else 0xBF), continuation]) := by
  decide +kernel

theorem lead?_quadruple : ∀ n < 5, lead? (.ofNat (n + 240)) =
    some (n, [(if n = 0 then 0x90 else 0x80, if n = 4 then 0x8F else 0xBF), continuation,
      continuation]) := by
  decide +kernel

/-! ### Steps -/

namespace Decoder

theorem step_single (o : Nat) (t : Text) {n : Nat} (small : n < 0x80) :
    step ⟨o, t, none⟩ (.ofNat n) = .ok ⟨o + 1, .ofNat n :: t, none⟩ := by
  simp [step, lead?_single n small]

theorem step_begins (o : Nat) (t : Text) {b : UInt8} {bits : Nat} {next : Bounds} {later : List Bounds}
    (lead : lead? b = some (bits, next :: later)) :
    step ⟨o, t, none⟩ b = .ok ⟨o + 1, t, some ⟨o, b, 1, bits, next, later⟩⟩ := by
  simp [step, lead]

/-- A byte inside the bounds is a digit of six bits. -/
theorem digit_inside {next : Bounds} {k : Nat} (digit : k < 64) (lower : next.1.toNat ≤ k + 128)
    (upper : k + 128 ≤ next.2.toNat) : ¬(.ofNat (k + 128) < next.1 ∨ next.2 < .ofNat (k + 128)) ∧
      (UInt8.ofNat (k + 128)).toNat - 0x80 = k := by
  have value : (UInt8.ofNat (k + 128)).toNat = k + 128 := by
    apply UInt8.toNat_ofNat_of_lt'
    unfold UInt8.size
    omega
  rw [UInt8.lt_iff_toNat_lt, UInt8.lt_iff_toNat_lt, value]
  omega

theorem step_continues (o o' : Nat) (t : Text) (byte : UInt8) (count bits : Nat) {next next' : Bounds}
    (later : List Bounds) {k : Nat} (digit : k < 64) (lower : next.1.toNat ≤ k + 128)
    (upper : k + 128 ≤ next.2.toNat) :
    step ⟨o, t, some ⟨o', byte, count, bits, next, next' :: later⟩⟩ (.ofNat (k + 128)) =
      .ok ⟨o + 1, t, some ⟨o', byte, count + 1, bits * 64 + k, next', later⟩⟩ := by
  obtain ⟨inside, value⟩ := digit_inside digit lower upper
  unfold step
  dsimp only
  rw [if_neg inside, value]

theorem step_ends (o o' : Nat) (t : Text) (byte : UInt8) (count bits : Nat) {k : Nat} (digit : k < 64) :
    step ⟨o, t, some ⟨o', byte, count, bits, continuation, []⟩⟩ (.ofNat (k + 128)) =
      .ok ⟨o + 1, .ofNat (bits * 64 + k) :: t, none⟩ := by
  have lower : continuation.1.toNat = 128 := by decide
  have upper : continuation.2.toNat = 191 := by decide
  obtain ⟨inside, value⟩ := @digit_inside continuation _ digit (by omega) (by omega)
  unfold step
  dsimp only
  rw [if_neg inside, value]

theorem fold_step {d d' : Decoder} {b : UInt8} {rest : List UInt8} (stepped : d.step b = .ok d') :
    (b :: rest).foldlM step d = rest.foldlM step d' := by
  rw [List.foldlM_cons, stepped]
  rfl

end Decoder

/-! ### Characters -/

open Decoder

variable {o n : Nat} {t : Text}

theorem fold_pair (least : 0x80 ≤ n) (greatest : n < 0x800) :
    [.ofNat (n / 64 % 32 + 192), .ofNat (n % 64 + 128)].foldlM step ⟨o, t, none⟩ =
      .ok ⟨o + 2, .ofNat n :: t, none⟩ := by
  have lead := lead?_pair (n / 64 % 32 - 2) (by omega)
  rw [Nat.sub_add_cancel (by omega)] at lead
  have bits : n / 64 % 32 * 64 + n % 64 = n := by omega
  rw [fold_step (step_begins o t lead), fold_step (step_ends _ _ _ _ _ _ (by omega)), bits]
  rfl

theorem fold_triple (least : 0x800 ≤ n) (scalar : n < 0xD800 ∨ 0xDFFF < n) (greatest : n < 0x10000) :
    [.ofNat (n / 4096 % 16 + 224), .ofNat (n / 64 % 64 + 128), .ofNat (n % 64 + 128)].foldlM step
      ⟨o, t, none⟩ = .ok ⟨o + 3, .ofNat n :: t, none⟩ := by
  have lead := lead?_triple (n / 4096 % 16) (by omega)
  have lower : (if n / 4096 % 16 = 0 then 0xA0 else 0x80 : UInt8).toNat ≤ n / 64 % 64 + 128 := by
    split
    · change 160 ≤ _
      omega
    · change 128 ≤ _
      omega
  have upper : n / 64 % 64 + 128 ≤ (if n / 4096 % 16 = 13 then 0x9F else 0xBF : UInt8).toNat := by
    split
    · change _ ≤ 159
      omega
    · change _ ≤ 191
      omega
  have bits : (n / 4096 % 16 * 64 + n / 64 % 64) * 64 + n % 64 = n := by omega
  rw [fold_step (step_begins o t lead),
    fold_step (step_continues _ _ _ _ _ _ _ (by omega) lower upper),
    fold_step (step_ends _ _ _ _ _ _ (by omega)), bits]
  rfl

theorem fold_quadruple (least : 0x10000 ≤ n) (greatest : n < 0x110000) :
    [.ofNat (n / 262144 % 8 + 240), .ofNat (n / 4096 % 64 + 128), .ofNat (n / 64 % 64 + 128),
      .ofNat (n % 64 + 128)].foldlM step ⟨o, t, none⟩ = .ok ⟨o + 4, .ofNat n :: t, none⟩ := by
  have lead := lead?_quadruple (n / 262144 % 8) (by omega)
  have lower : (if n / 262144 % 8 = 0 then 0x90 else 0x80 : UInt8).toNat ≤ n / 4096 % 64 + 128 := by
    split
    · change 144 ≤ _
      omega
    · change 128 ≤ _
      omega
  have upper : n / 4096 % 64 + 128 ≤ (if n / 262144 % 8 = 4 then 0x8F else 0xBF : UInt8).toNat := by
    split
    · change _ ≤ 143
      omega
    · change _ ≤ 191
      omega
  have third : continuation.1.toNat ≤ n / 64 % 64 + 128 ∧ n / 64 % 64 + 128 ≤ continuation.2.toNat := by
    change 128 ≤ _ ∧ _ ≤ 191
    omega
  have bits : ((n / 262144 % 8 * 64 + n / 4096 % 64) * 64 + n / 64 % 64) * 64 + n % 64 = n := by omega
  rw [fold_step (step_begins o t lead),
    fold_step (step_continues _ _ _ _ _ _ _ (by omega) lower upper),
    fold_step (step_continues _ _ _ _ _ _ _ (by omega) third.1 third.2),
    fold_step (step_ends _ _ _ _ _ _ (by omega)), bits]
  rfl

theorem fold_char (c : Char) (o : Nat) (t : Text) :
    ∃ o', (String.utf8EncodeChar c).foldlM step ⟨o, t, none⟩ = .ok ⟨o', c :: t, none⟩ := by
  have same : Char.ofNat c.val.toNat = c := Char.ofNat_toNat c
  have valid := c.valid
  unfold UInt32.isValidChar Nat.isValidChar at valid
  unfold String.utf8EncodeChar
  dsimp only
  generalize c.val.toNat = n at same valid
  subst same
  split
  · exact ⟨o + 1, fold_step (step_single o t (by omega))⟩
  · split
    · exact ⟨o + 2, fold_pair (by omega) (by omega)⟩
    · split
      · exact ⟨o + 3, fold_triple (by omega) (by omega) (by omega)⟩
      · exact ⟨o + 4, fold_quadruple (by omega) (by omega)⟩

/-- The bytes of a text spell the text. -/
theorem decode_encode (t : Text) : decode (encode t) = .ok t := by
  have folded : ∀ (t spelled : Text) (o : Nat), ∃ o',
      (encode t).foldlM step ⟨o, spelled, none⟩ = .ok ⟨o', t.reverse ++ spelled, none⟩ := by
    intro t
    induction t with
    | nil => exact fun spelled o => ⟨o, rfl⟩
    | cons c rest ih =>
      intro spelled o
      obtain ⟨o', first⟩ := fold_char c o spelled
      obtain ⟨o'', others⟩ := ih (c :: spelled) o'
      refine ⟨o'', ?_⟩
      change (String.utf8EncodeChar c ++ encode rest).foldlM step _ = _
      rw [List.foldlM_append, first, List.reverse_cons, List.append_assoc]
      exact others
  obtain ⟨o, whole⟩ := folded t [] 0
  unfold decode
  rw [whole]
  simp [Except.bind, finish]

end StyleValue.Utf8

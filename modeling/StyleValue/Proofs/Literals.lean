import StyleValue.Proofs.Blame
import StyleValue.Proofs.Extents
import StyleValue.Proofs.Numerals

/-! What number literals mean. The lexer takes nothing but digits into a number, and one percent sign
behind them, so their value is that of the digits at their places, and they fail to have one only if there
are too many. -/
namespace StyleValue

namespace Numeral

/-- The value of digits of any scripts, of which the last one counts ones. -/
def Denotes (digits : Text) (v : Int) : Prop :=
  ∃ ds : List Nat, digits.map digitValue? = ds.map some ∧ v = (Nat.ofDigits 10 ds.reverse : Nat)

theorem value_eq (ds : List Nat) : value ds = Nat.ofDigits 10 ds.reverse := by
  rw [value, Nat.ofDigits_eq_foldr, List.foldr_reverse]
  exact congrArg (fun f => ds.foldl f 0) (funext fun n => funext fun d => Nat.add_comm (10 * n) d)

theorem read?_eq_some {digits : Text} (filled : digits ≠ [])
    (numbers : ∀ c ∈ digits, CharClass.ofChar c = .number) {v : Int} :
    read? digits = some v ↔ digits.length ≤ maxDigits ∧ Denotes digits v := by
  obtain ⟨ds, values, read⟩ := read?_of_number filled numbers
  rw [read]
  constructor
  · intro result
    split at result
    · rename_i short
      refine ⟨short, ds, values, ?_⟩
      rw [← value_eq]
      exact (Option.some.inj result).symm
    · cases result
  · rintro ⟨short, ds', values', rfl⟩
    have same : ds = ds' :=
      List.map_injective_iff.mpr (Option.some_injective Nat) (values.symm.trans values')
    rw [if_pos short, same, value_eq]

theorem read?_eq_none {digits : Text} (filled : digits ≠ [])
    (numbers : ∀ c ∈ digits, CharClass.ofChar c = .number) :
    read? digits = none ↔ maxDigits < digits.length := by
  obtain ⟨ds, _, read⟩ := read?_of_number filled numbers
  rw [read]
  split <;> simp <;> omega

theorem digitValue?_lt {c : Char} {d : Nat} (value : digitValue? c = some d) : d < 10 := by
  obtain ⟨foot, _, rfl⟩ := Option.map_eq_some_iff.mp value
  exact Nat.mod_lt _ (by decide)

theorem Denotes.bounds {digits : Text} {v : Int} (h : Denotes digits v) :
    0 ≤ v ∧ v < 10 ^ digits.length := by
  obtain ⟨ds, values, rfl⟩ := h
  have lengths : ds.reverse.length = digits.length := by
    simpa using (congrArg List.length values).symm
  have small : ∀ d ∈ ds.reverse, d < 10 := by
    intro d member
    have listed : some d ∈ digits.map digitValue? :=
      values ▸ List.mem_map_of_mem (List.mem_reverse.mp member)
    obtain ⟨c, _, value⟩ := List.mem_map.mp listed
    exact digitValue?_lt value
  have bound := Nat.ofDigits_lt_base_pow_length (by decide) small
  rw [lengths] at bound
  exact ⟨Int.natCast_nonneg _, by exact_mod_cast bound⟩

theorem length_ofInt_le {v : Int} {n : Nat} (filled : 0 < n) (natural : 0 ≤ v) (bound : v < 10 ^ n) :
    (Text.ofInt v).length ≤ n := by
  rw [ofInt_digits natural, Nat.length_toDigits_le_iff (by decide) filled]
  exact (Int.toNat_lt natural).mpr (by exact_mod_cast bound)

end Numeral

/-! ### Numbers as the lexer takes them -/

/-- A percentage has its sign behind the digits, and a number has nothing else. -/
structure Token.Numeric (t : Token) (digits : Text) : Prop where
  filled : digits ≠ []
  numbers : ∀ c ∈ digits, CharClass.ofChar c = .number
  whole : t.kind = .number ∧ t.value = digits ∨ t.kind = .percent ∧ t.value = digits ++ ['%']

theorem Token.Numeric.digits?_eq {t : Token} {digits : Text} (h : t.Numeric digits) :
    t.digits? = some digits := by
  unfold Token.digits?
  rcases h.whole with ⟨kind, value⟩ | ⟨kind, value⟩ <;> simp [kind, value]

theorem TokenKind.ofOperator_symbol (op : Text) : ofOperator op ≠ .number ∧ ofOperator op ≠ .percent := by
  unfold ofOperator
  split <;> decide

theorem percent_of_ofChar {c : Char} (percent : CharClass.ofChar c = .percent) : c = '%' := by
  unfold CharClass.ofChar at percent
  split_ifs at percent with _ _ _ same
  exact same

theorem Form.number_kind (p : Position) (text : Text) : Form.number.kind (charactersFrom p text) =
    if .percent ∈ text.map CharClass.ofChar then .percent else .number := by
  rw [← charactersFrom_classes p, kind]
  simp

theorem Form.number_numeric {merge : Bool} {p : Position} {text : Text} {span : Option Span}
    (run : Form.number.Matches merge (text.map CharClass.ofChar)) :
    ∃ digits, Token.Numeric ⟨Form.number.kind (charactersFrom p text), text, span⟩ digits := by
  obtain ⟨classes, filled, numbers, same | same⟩ := run
  · refine ⟨text, ?_, ?_, .inl ⟨?_, rfl⟩⟩
    · rintro rfl
      exact filled same.symm
    · exact fun c member => numbers _ (same ▸ List.mem_map_of_mem member)
    · have plain : .percent ∉ classes := fun member => absurd (numbers _ member) (by decide)
      rw [number_kind, same]
      exact if_neg plain
  · obtain ⟨digits, sign, rfl, rfl, signs⟩ := List.map_eq_append_iff.mp same
    obtain ⟨c, rfl, percent⟩ := List.map_eq_singleton_iff.mp signs
    obtain rfl := percent_of_ofChar percent
    refine ⟨digits, ?_, ?_, .inr ⟨?_, rfl⟩⟩
    · rintro rfl
      exact filled rfl
    · exact fun c member => numbers _ (List.mem_map_of_mem member)
    · rw [number_kind, if_pos (by simp [same])]

theorem Segmented.numeric {merge : Bool} {cs : List Character} {ts : List Token}
    (h : Segmented merge cs ts) {p : Position} {text : Text} (read : cs = charactersFrom p text) :
    ∀ t ∈ ts, t.kind = .number ∨ t.kind = .percent → ∃ digits, t.Numeric digits := by
  induction h generalizing p text with
  | nil => simp
  | @cons input later rest first form ts _ longest _ ih =>
    subst read
    obtain ⟨front, back, rfl, apart, run, behind⟩ := longest.text
    refine List.forall_mem_cons.mpr ⟨?_, ih behind⟩
    rw [form.token_eq run.symm]
    cases form with
    | number =>
      have holds := longest.holds
      rw [run, charactersFrom_classes] at holds
      exact fun _ => Form.number_numeric holds
    | symbol =>
      rintro (kind | kind)
      · exact absurd kind (TokenKind.ofOperator_symbol _).1
      · exact absurd kind (TokenKind.ofOperator_symbol _).2
    | space | hex | word | fault => rintro (kind | kind) <;> cases kind

theorem tokenize_numeric (o : LexOptions) (source : Text) :
    ∀ t ∈ tokenize o source, t.kind = .number ∨ t.kind = .percent → ∃ digits, t.Numeric digits :=
  (tokenize_segmented o source).numeric rfl

/-! ### Literals and faults -/

/-- The message about a literal of `n` digits. -/
def tooLong (n : Nat) : Text := "numeric literal too long (" ++ Text.ofInt n ++ " digits)"

theorem SyntaxError.message_tooLong {e : SyntaxError} {n : Nat} (same : e.message = tooLong n) :
    ∃ node, e.cause = .numeral node n := by
  have first : e.message.head? = some 'n' := by
    rw [same]
    rfl
  unfold message at same first
  split at same <;> rename_i cause <;> rw [cause] at first
  · cases first
  · cases first
  · cases first
  · cases first
  · cases first
  · dsimp only at first
    split at first <;> cases first
  · rename_i node length
    have numerals := List.append_cancel_left (List.append_cancel_right same)
    cases Int.natCast_inj.mp (Numeral.ofInt_injective numerals)
    exact ⟨node, cause⟩

theorem Token.Numeric.converts_iff {t : Token} {digits : Text} (h : t.Numeric digits) :
    t.converts = true ↔ digits.length ≤ Numeral.maxDigits := by
  rw [Token.converts, h.digits?_eq, Option.all_some]
  cases read : Numeral.read? digits with
  | none => simpa using (Numeral.read?_eq_none h.filled h.numbers).mp read
  | some v => simpa using ((Numeral.read?_eq_some h.filled h.numbers).mp read).1

/-- The kind of the token and the value of a number or a percentage. -/
def Expr.literal? {α : Type} : Expr α → Option (TokenKind × Int)
  | number v _ => some (.number, v)
  | percent v _ => some (.percent, v)
  | _ => none

/-- A literal is read from a single token, from its digits and nothing else. -/
theorem Expr.literal_spelled {α : Type} {e : Expr α} {kind : TokenKind} {v : Int} {us : List Token}
    (literal : e.literal? = some (kind, v)) (spelled : List.Forall₂ Lexeme.Spells e.lexemes us) :
    ∃ t, us = [t] ∧ t.kind = kind ∧
      ∀ digits, t.Numeric digits → Numeral.read? digits = some v := by
  cases e <;> cases literal
  case number note =>
    obtain ⟨t, rest, ⟨kind, read⟩, nothing, rfl⟩ := List.forall₂_cons_left_iff.mp spelled
    cases nothing
    refine ⟨t, rfl, kind, fun digits number => ?_⟩
    rcases number.whole with ⟨_, value⟩ | ⟨other, _⟩
    · rwa [← value]
    · exact absurd (kind.symm.trans other) (by decide)
  case percent note =>
    obtain ⟨t, rest, ⟨kind, read⟩, nothing, rfl⟩ := List.forall₂_cons_left_iff.mp spelled
    cases nothing
    refine ⟨t, rfl, kind, fun digits number => ?_⟩
    rcases number.whole with ⟨other, _⟩ | ⟨_, value⟩
    · exact absurd (kind.symm.trans other) (by decide)
    · rwa [value, List.dropLast_concat] at read

theorem Token.Numeric.unlayout {t : Token} {digits : Text} (h : t.Numeric digits) :
    t.isLayout = false := by
  rcases h.whole with ⟨kind, _⟩ | ⟨kind, _⟩ <;> simp [Token.isLayout, kind]

theorem parse_fails_literal {o : LexOptions} {source : Text} {e : SyntaxError} {node : NodeKind} {n : Nat}
    (failed : parse o source = .error e) (cause : e.cause = .numeral node n) :
    e.token ∈ withoutLayout (tokenize o source) ∧ e.cause = e.token.fault ∧ e.token.converts = false := by
  obtain ⟨pre, post, g, _, passed, _, reason⟩ := Frontier.scan_fails (parse_scan failed)
  have closes := Frontier.missing_closes passed
  -- No frontier misses a literal, so the token itself is at fault.
  rcases reason with ⟨_, rfl, _⟩ | ⟨_, missing, _⟩ | ⟨member, fault, _, refused⟩
  · change g.missing = _ at cause
    rw [cause] at closes
    exact closes.elim
  · rw [← missing, cause] at closes
    exact closes.elim
  · exact ⟨member, fault, refused⟩

/-- The token that the message is about has as many digits as it says, and they are too many. -/
theorem parse_tooLong {o : LexOptions} {source : Text} {e : SyntaxError} {n : Nat}
    (failed : parse o source = .error e) (message : e.message = tooLong n) :
    e.token ∈ tokenize o source ∧ ∃ digits, e.token.Numeric digits ∧ digits.length = n ∧
      Numeral.maxDigits < n := by
  obtain ⟨node, cause⟩ := SyntaxError.message_tooLong message
  obtain ⟨member, fault, refused⟩ := parse_fails_literal failed cause
  have member := List.mem_of_mem_filter member
  obtain ⟨digits, number⟩ := tokenize_numeric o source _ member (digits_kind refused)
  have length : digits.length = n := by
    rw [cause, Token.fault, number.digits?_eq] at fault
    exact (Cause.numeral.inj fault).2.symm
  refine ⟨member, digits, number, length, ?_⟩
  rw [← length]
  by_contra short
  have converts := number.converts_iff.mpr (by omega)
  rw [refused] at converts
  cases converts

theorem parse_short {o : LexOptions} {source : Text} {p : Program Located}
    (parsed : parse o source = .ok p) {t : Token} (member : t ∈ tokenize o source) {digits : Text}
    (number : t.Numeric digits) : digits.length ≤ Numeral.maxDigits := by
  -- A program takes every word, so the token has been converted.
  apply number.converts_iff.mp
  apply (parse_reads parsed).1.converts
  exact List.mem_filter.mpr ⟨member, by simp [number.unlayout]⟩

theorem parse_literal {o : LexOptions} {source : Text} {p : Program Located} {path : List Step}
    {e : Expr Located} {kind : TokenKind} {v : Int} (parsed : parse o source = .ok p)
    (found : (Node.program p).at? path = some (.expression e)) (literal : e.literal? = some (kind, v)) :
    ∃ t ∈ tokenize o source,
      (Node.program p).words path (.expression e) (withoutLayout (tokenize o source)) = [t] ∧
        t.kind = kind ∧ ∃ digits, t.Numeric digits ∧ Numeral.read? digits = some v := by
  obtain ⟨before, us, after, split, lead, read⟩ :=
    (Node.ReadFrom.program (parse_reads parsed).1).descendant found
  obtain ⟨t, rfl, same, value⟩ := Expr.literal_spelled literal read.spells
  have member : t ∈ tokenize o source :=
    List.mem_of_mem_filter (split ▸ List.mem_append_left after (List.mem_append_right before
      (List.mem_singleton_self t)))
  have either : t.kind = .number ∨ t.kind = .percent := by
    rw [same]
    cases e <;> cases literal
    · exact .inl rfl
    · exact .inr rfl
  obtain ⟨digits, number⟩ := tokenize_numeric o source t member either
  refine ⟨t, member, ?_, same, digits, number, value digits number⟩
  rw [split]
  exact Node.words_eq read lead

section

variable {digits : Text} (numbers : ∀ c ∈ digits, CharClass.ofChar c = .number)
include numbers

theorem tokenize_number (filled : digits ≠ []) (merge : Bool) :
    tokenize ⟨merge, false⟩ digits = [⟨.number, digits, some ⟨.origin, digits.endPosition⟩⟩] := by
  have classes : ∀ k ∈ digits.map CharClass.ofChar, k = .number := List.forall_mem_map.mpr numbers
  have holds : State.number.Holds merge (digits.characters.map Character.charClass) := by
    rw [Text.characters, charactersFrom_classes]
    exact ⟨by simpa using filled, classes⟩
  obtain ⟨first, later, run, segmented⟩ := Segmented.cons_of_holds holds (by simp) .nil
  have plain : .percent ∉ digits.map CharClass.ofChar := fun member =>
    absurd (classes _ member) (by decide)
  rw [State.form, Form.number.token_eq run, Form.number_kind, if_neg plain, List.append_nil] at segmented
  exact (tokenize_plain merge digits).unique segmented

/-- Too many digits and nothing else: the message counts them. -/
theorem parse_overlong (long : Numeral.maxDigits < digits.length) (merge : Bool) :
    ∃ e, parse ⟨merge, false⟩ digits = .error e ∧ e.message = tooLong digits.length := by
  have filled : digits ≠ [] := by
    rintro rfl
    cases long
  let t : Token := ⟨.number, digits, some ⟨.origin, digits.endPosition⟩⟩
  have number : t.Numeric digits := ⟨filled, numbers, .inl ⟨rfl, rfl⟩⟩
  have refused : t.converts = false := by
    rw [Bool.eq_false_iff]
    exact fun converts => absurd (number.converts_iff.mp converts) (Nat.not_le_of_lt long)
  have words : withoutLayout (tokenize ⟨merge, false⟩ digits) = [t] := by
    rw [tokenize_number numbers filled]
    rfl
  cases parsed : parse ⟨merge, false⟩ digits with
  | ok p =>
    have converts := (parse_reads parsed).1.converts t (words ▸ List.mem_cons_self)
    rw [refused] at converts
    cases converts
  | error e =>
    refine ⟨e, rfl, ?_⟩
    have failed := parse_scan parsed
    rw [words, Frontier.scan] at failed
    change (if t.converts = true then _ else _) = _ at failed
    rw [if_neg (by simp [refused])] at failed
    cases failed
    rfl

end

/-- What becomes of the numbers and percentages of a source. -/
structure LiteralsRead (o : LexOptions) (source : Text) : Prop where
  numeric : ∀ t ∈ tokenize o source, t.kind = .number ∨ t.kind = .percent → ∃ digits, t.Numeric digits
  value : ∀ {p path e kind v}, parse o source = .ok p →
    (Node.program p).at? path = some (.expression e) → e.literal? = some (kind, v) →
      ∃ t digits, (Node.program p).words path (.expression e) (withoutLayout (tokenize o source)) = [t] ∧
        t.kind = kind ∧ t.Numeric digits ∧ Numeral.Denotes digits v ∧
        0 ≤ v ∧ v < 10 ^ Numeral.maxDigits ∧ (Text.ofInt v).length ≤ Numeral.maxDigits
  fault : ∀ {e n}, parse o source = .error e → e.message = tooLong n →
    e.token ∈ tokenize o source ∧ ∃ digits, e.token.Numeric digits ∧ digits.length = n ∧
      Numeral.maxDigits < n
  short : (∀ t ∈ tokenize o source, ∀ digits, t.Numeric digits → digits.length ≤ Numeral.maxDigits) →
    ∀ {e n}, parse o source = .error e → e.message ≠ tooLong n
  long : ∀ t ∈ tokenize o source, ∀ digits, t.Numeric digits → Numeral.maxDigits < digits.length →
    ∀ p, parse o source ≠ .ok p

theorem literals_read (o : LexOptions) (source : Text) : LiteralsRead o source := by
  constructor
  case numeric => exact tokenize_numeric o source
  case fault => exact parse_tooLong
  case value =>
    intro p path e kind v parsed found literal
    obtain ⟨t, member, row, same, digits, number, read⟩ := parse_literal parsed found literal
    obtain ⟨short, denotes⟩ := (Numeral.read?_eq_some number.filled number.numbers).mp read
    obtain ⟨natural, bound⟩ := denotes.bounds
    have limit : v < 10 ^ Numeral.maxDigits :=
      Int.lt_of_lt_of_le bound (pow_le_pow_right₀ (by decide) short)
    exact ⟨t, digits, row, same, number, denotes, natural, limit,
      Numeral.length_ofInt_le (by decide) natural limit⟩
  case short =>
    intro all e n failed message
    obtain ⟨member, digits, number, rfl, long⟩ := parse_tooLong failed message
    exact absurd (all _ member digits number) (Nat.not_le_of_lt long)
  case long =>
    intro t member digits number long p parsed
    exact absurd (parse_short parsed member number) (Nat.not_le_of_lt long)

/-- Digits of two scripts make up one percentage, and digits of one script can be too many. -/
theorem literals_read_scripts :
    let span : Located := some ⟨⟨1, 1, 0⟩, ⟨1, 4, 3⟩⟩
    let e : Expr Located := .percent 37 span
    parse .standard ['3', '٧', '%'] = .ok ⟨[⟨e, span⟩], span⟩ ∧ (∃ digits, Numeral.Denotes digits 37) ∧
      ∃ fault, parse .standard (List.replicate 4301 '٣') = .error fault ∧
        fault.message = tooLong 4301 ∧
        fault.token ∈ tokenize .standard (List.replicate 4301 '٣') := by
  intro span e
  have parsed : parse .standard ['3', '٧', '%'] = .ok ⟨[⟨e, span⟩], span⟩ := by cbv
  have found : (Node.program ⟨[⟨e, span⟩], span⟩).at? [.body 0, .expression] =
      some (.expression e) := rfl
  obtain ⟨_, digits, _, _, _, denotes, _⟩ :=
    (literals_read .standard ['3', '٧', '%']).value parsed found rfl
  have numbers : ∀ c ∈ List.replicate 4301 '٣', CharClass.ofChar c = .number := by
    intro c member
    rw [List.eq_of_mem_replicate member]
    decide
  have length : (List.replicate 4301 '٣').length = 4301 := List.length_replicate
  obtain ⟨fault, failed, message⟩ := parse_overlong numbers (by rw [length]; decide) true
  rw [length] at message
  exact ⟨parsed, ⟨digits, denotes⟩, fault, failed, message, ((literals_read _ _).fault failed message).1⟩

end StyleValue

import Mathlib.Data.List.Chain
import StyleValue.Proofs.Seams

/-! Operators that merge and operators that do not. Reading with merged operators gives the tokens of
reading without, but for every row of operators, which becomes one token. -/
namespace StyleValue

/-! ### Rows of operators -/

def TokenKind.isOperator : TokenKind → Bool
  | plus | minus | comma | slash | leftParen | rightParen | operator => true
  | identifier | hexValue | number | percent | whitespace | endOfInput | error => false

/-- Operators side by side as a single token. -/
def Token.merged (first : Token) (later : List Token) : Token :=
  let value := (first :: later).flatMap (·.value)
  ⟨.ofClass .operator value, value, Span.cover? first.span (later.getLast?.getD first).span⟩

/-- Every longest row of operators becomes one token, and all other tokens stay as they are. -/
def coalesce : List Token → List Token
  | [] => []
  | t :: ts =>
    if t.kind.isOperator then
      .merged t (ts.takeWhile (·.kind.isOperator)) :: coalesce (ts.dropWhile (·.kind.isOperator))
    else t :: coalesce ts
  termination_by ts => ts.length
  decreasing_by
  · exact Nat.lt_succ_of_le (List.dropWhile_sublist _).length_le
  · exact Nat.lt_succ_self _

theorem coalesce_operator {t : Token} (operator : t.kind.isOperator = true) (ts : List Token) :
    coalesce (t :: ts) =
      .merged t (ts.takeWhile (·.kind.isOperator)) :: coalesce (ts.dropWhile (·.kind.isOperator)) := by
  rw [coalesce, if_pos operator]

theorem coalesce_other {t : Token} (other : t.kind.isOperator = false) (ts : List Token) :
    coalesce (t :: ts) = t :: coalesce ts := by
  rw [coalesce, if_neg (by simp [other])]

theorem TokenKind.isOperator_ofOperator (value : Text) : (ofOperator value).isOperator = true := by
  unfold ofOperator
  split <;> rfl

namespace Form

theorem isOperator_kind {form : Form} {run : List Character} :
    (form.kind run).isOperator = true ↔ form = symbol := by
  cases form with
  | symbol => exact iff_of_true (TokenKind.isOperator_ofOperator _) rfl
  | number =>
    simp only [kind]
    split <;> decide
  | _ => exact iff_of_false Bool.false_ne_true (by simp)

/-- Whether operators merge matters for operators only. -/
theorem matches_merge {form : Form} (other : form ≠ symbol) (merge merge' : Bool) :
    form.Matches merge = form.Matches merge' := by
  cases form with
  | symbol => exact absurd rfl other
  | _ => rfl

theorem begunBy_symbol {k : CharClass} : begunBy k = some symbol ↔ k = .operator := by
  cases k <;> decide

/-- Without merging, an operator is a single character. -/
theorem longest_symbol {input later rest : List Character} {first : Character}
    (h : Longest (symbol.Matches false) input (first :: later) rest) :
    later = [] ∧ input = first :: rest := by
  have length := h.holds.2.2 rfl
  rw [List.length_map, List.length_cons] at length
  obtain rfl := List.length_eq_zero_iff.mp (Nat.succ.inj length)
  exact ⟨rfl, h.split⟩

/-- The tokens of single operators, merged, are the token of all of them. -/
theorem merged_symbols (first : Character) (later : List Character) :
    Token.merged (symbol.token first []) (later.map fun c => symbol.token c []) =
      symbol.token first later := by
  have values : (symbol.token first [] :: later.map fun c => symbol.token c []).flatMap (·.value) =
      (first :: later).flatMap (·.value) := by
    simp [token, List.flatMap_map]
  have span : Span.cover? (symbol.token first []).span
      (((later.map fun c => symbol.token c []).getLast?.getD (symbol.token first [])).span) =
        some (.ofRun first later) := by
    unfold Span.ofRun
    rw [List.getLast?_map]
    cases later.getLast? with
    | none => rfl
    | some last => rfl
  rw [Token.merged, values, span]
  rfl

end Form

theorem State.not_joins_operator {k : CharClass} (other : k ≠ .operator) :
    operator.joins true k = false := by
  rw [← Bool.not_eq_true, joins_iff]
  simpa [joined] using other

/-! ### Merged tokens -/

namespace Segmented

/-- The row of operators at the front of some tokens is the row of operator characters at the front of
their input. -/
theorem operators {cs : List Character} {ts : List Token} (h : Segmented false cs ts) :
    ∃ row behind, cs = row ++ behind ∧ (∀ c ∈ row, c.charClass = .operator) ∧
      (∀ c ∈ behind.head?, c.charClass ≠ .operator) ∧
      ts.takeWhile (·.kind.isOperator) = row.map (fun c => Form.symbol.token c []) ∧
      Segmented false behind (ts.dropWhile (·.kind.isOperator)) := by
  induction h with
  | nil => exact ⟨[], [], rfl, by simp, by simp, rfl, .nil⟩
  | @cons input later rest first form ts begun longest others ih =>
    by_cases operator : form = .symbol
    · subst operator
      obtain ⟨rfl, rfl⟩ := Form.longest_symbol longest
      obtain ⟨row, behind, rfl, all, stops, taken, left⟩ := ih
      have kind : (Form.symbol.token first []).kind.isOperator = true := Form.isOperator_kind.mpr rfl
      refine ⟨first :: row, behind, rfl, ?_, stops, ?_, ?_⟩
      · exact List.forall_mem_cons.mpr ⟨Form.begunBy_symbol.mp begun, all⟩
      · rw [List.takeWhile_cons, if_pos kind, taken]
        rfl
      · rwa [List.dropWhile_cons, if_pos kind]
    · have kind : ¬(form.token first later).kind.isOperator = true := mt Form.isOperator_kind.mp operator
      refine ⟨[], input, rfl, by simp, fun c next same => operator ?_, ?_, ?_⟩
      · rw [longest.split] at next
        cases next
        rw [Form.begunBy_symbol.mpr same] at begun
        exact (Option.some.inj begun).symm
      · rw [List.takeWhile_cons, if_neg kind]
        rfl
      · rw [List.dropWhile_cons, if_neg kind]
        exact .cons begun longest others

theorem coalesce {cs : List Character} {ts : List Token} (h : Segmented false cs ts) :
    Segmented true cs (coalesce ts) := by
  -- The recursion of `coalesce` leaves out a whole row, so the induction is not on the segmentation.
  induction ts using StyleValue.coalesce.induct generalizing cs with
  | case1 =>
    cases h
    rw [StyleValue.coalesce]
    exact .nil
  | case2 t ts operator ih =>
    cases h with
    | @cons _ later rest first form _ begun longest others =>
      obtain rfl := Form.isOperator_kind.mp operator
      obtain ⟨rfl, rfl⟩ := Form.longest_symbol longest
      obtain ⟨row, behind, rfl, all, stops, taken, left⟩ := others.operators
      have holds : State.operator.Holds true ((first :: row).map Character.charClass) := by
        refine ⟨by simp, List.forall_mem_map.mpr ?_, nofun⟩
        exact List.forall_mem_cons.mpr ⟨Form.begunBy_symbol.mp begun, all⟩
      have apart : ∀ c ∈ behind.head?, State.operator.joins true c.charClass = false :=
        fun c next => State.not_joins_operator (stops c next)
      rw [coalesce_operator operator, taken, Form.merged_symbols]
      exact .cons begun (longest_of_holds holds apart) (ih left)
  | case3 t ts other ih =>
    cases h with
    | @cons _ later rest first form _ begun longest others =>
      rw [coalesce_other (by simpa using other)]
      have plain := mt Form.isOperator_kind.mpr other
      exact .cons begun (Form.matches_merge plain false true ▸ longest) (ih others)

end Segmented

/-! ### Operators apart -/

/-- No two operator characters stand side by side. -/
def OperatorsApart (source : Text) : Prop :=
  source.IsChain fun c d => ¬(CharClass.ofChar c = .operator ∧ CharClass.ofChar d = .operator)

theorem OperatorsApart.characters {source : Text} (apart : OperatorsApart source) (p : Position) :
    (charactersFrom p source).IsChain fun c d =>
      ¬(c.charClass = .operator ∧ d.charClass = .operator) := by
  have classes : ((charactersFrom p source).map Character.charClass).IsChain fun k l =>
      ¬(k = .operator ∧ l = .operator) := by
    rw [charactersFrom_classes]
    exact (List.isChain_map CharClass.ofChar).mpr apart
  exact (List.isChain_map Character.charClass).mp classes

/-- Where no two operators meet there is nothing to merge. -/
theorem Segmented.merge {cs : List Character} {ts : List Token} (h : Segmented false cs ts)
    (apart : cs.IsChain fun c d => ¬(c.charClass = .operator ∧ d.charClass = .operator)) :
    Segmented true cs ts := by
  induction h with
  | nil => exact .nil
  | @cons input later rest first form ts begun longest _ ih =>
    by_cases operator : form = .symbol
    · subst operator
      obtain ⟨rfl, rfl⟩ := Form.longest_symbol longest
      obtain ⟨next, behind⟩ := List.isChain_cons.mp apart
      have class' := Form.begunBy_symbol.mp begun
      have holds : State.operator.Holds true ([first].map Character.charClass) := by
        rw [List.map_singleton, class']
        exact State.holds_opened (k := .operator) (by decide)
      have stops : ∀ c ∈ rest.head?, State.operator.joins true c.charClass = false :=
        fun c follows => State.not_joins_operator fun same => next c follows ⟨class', same⟩
      exact .cons begun (longest_of_holds holds stops) (ih behind)
    · obtain rfl := longest.split
      have behind := apart.right_of_append
      exact .cons begun (Form.matches_merge operator false true ▸ longest) (ih behind)

theorem tokenize_apart {source : Text} (apart : OperatorsApart source) :
    tokenize ⟨true, false⟩ source = tokenize ⟨false, false⟩ source :=
  (tokenize_plain true source).unique ((tokenize_plain false source).merge (apart.characters _))

/-- Merging the operators is coalescing their tokens. It makes no difference to a program in which no
two of them meet. -/
theorem tokenize_merged (normalize : Bool) :
    (∀ cs, tokenizeCharacters ⟨true, normalize⟩ cs =
        coalesce (tokenizeCharacters ⟨false, normalize⟩ cs)) ∧
      (∀ source, tokenize ⟨true, normalize⟩ source = coalesce (tokenize ⟨false, normalize⟩ source)) ∧
      ∀ source, OperatorsApart source → parse ⟨true, false⟩ source = parse ⟨false, false⟩ source := by
  refine ⟨fun cs => ?_, fun source => ?_, fun source apart => ?_⟩
  · have single := tokenizeCharacters_segmented ⟨false, normalize⟩ cs
    exact (tokenizeCharacters_segmented ⟨true, normalize⟩ cs).unique single.coalesce
  · have single := tokenize_segmented ⟨false, normalize⟩ source
    exact (tokenize_segmented ⟨true, normalize⟩ source).unique single.coalesce
  · unfold parse
    rw [tokenize_apart apart]

/-- A bracket and a comma become one token, and two signs with a blank between them stay two. -/
theorem tokenize_merged_comma :
    let cs := Text.characters ['a', ')', ',']
    let source : Text := ['a', '+', ' ', '-', '7']
    tokenizeCharacters ⟨true, false⟩ cs = coalesce (tokenizeCharacters ⟨false, false⟩ cs) ∧
      tokenizeCharacters ⟨true, false⟩ cs =
        [⟨.identifier, ['a'], some ⟨⟨1, 1, 0⟩, ⟨1, 2, 1⟩⟩⟩,
          ⟨.operator, [')', ','], some ⟨⟨1, 2, 1⟩, ⟨1, 4, 3⟩⟩⟩] ∧
      OperatorsApart source ∧ parse ⟨true, false⟩ source = parse ⟨false, false⟩ source := by
  intro cs source
  obtain ⟨merged, _, same⟩ := tokenize_merged false
  have apart : OperatorsApart source := by
    unfold OperatorsApart
    decide
  exact ⟨merged cs, by decide, apart, same source apart⟩

end StyleValue

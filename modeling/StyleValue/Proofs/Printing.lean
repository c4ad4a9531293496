import StyleValue.Proofs.Numerals
import StyleValue.Proofs.Seams
import StyleValue.Proofs.Sequences
import StyleValue.Proofs.Spelling

/-! Writing programs. A program is written as its words with one space between any two of them, and what
is written is read as the same program again. -/
namespace StyleValue

namespace Lexeme

def text : Lexeme → Text
  | number value => Text.ofInt value
  | percent value => Text.ofInt value ++ ['%']
  | hex value => value
  | name text | callee text | sign text | operator text => text
  | opening => ['(']
  | comma => [',']
  | closing => [')']

def form : Lexeme → Form
  | number _ | percent _ => .number
  | hex _ => .hex
  | name _ | callee _ => .word
  | sign _ | operator _ | opening | comma | closing => .symbol

def kind : Lexeme → TokenKind
  | number _ => .number
  | percent _ => .percent
  | hex _ => .hexValue
  | name _ | callee _ => .identifier
  | sign text | operator text => .ofOperator text
  | opening => .leftParen
  | comma => .comma
  | closing => .rightParen

def token (w : Lexeme) : Token := ⟨w.kind, w.text, none⟩

/-- The text of a word is one run, and that run is a token of the word's kind. -/
structure Legible (merge : Bool) (w : Lexeme) : Prop where
  run : w.form.Matches merge (w.text.map CharClass.ofChar)
  kind : w.form.kind w.text.unplaced = w.kind

end Lexeme

/-- The operators of a level, as they are written: signs, or other operator characters that are no
bracket and no comma. -/
def Level.Writes (merge : Bool) : Level → Text → Prop
  | sum, op => op = ['+'] ∨ op = ['-']
  | product, op => Form.symbol.Matches merge (op.map CharClass.ofChar) ∧
      op ∉ [['+'], ['-'], [','], ['('], [')']]

variable {α : Type}

/-- Whether an expression can be written at a rank: its names, values and operators have the form of
their tokens, and its operators group as they are read. -/
inductive Expr.Printable (merge : Bool) : Rank → Expr α → Prop where
  | name {n : Name α} : Form.word.Matches merge (n.text.map CharClass.ofChar) →
      Printable merge .primary (.identifier n)
  | hex {value : Text} {s : α} : Form.hex.Matches merge (value.map CharClass.ofChar) →
      Printable merge .primary (.hex value s)
  | number {value : Int} {s : α} : 0 ≤ value → value < 10 ^ Numeral.maxDigits →
      Printable merge .primary (.number value s)
  | percent {value : Int} {s : α} : 0 ≤ value → value < 10 ^ Numeral.maxDigits →
      Printable merge .primary (.percent value s)
  | call {callee : Name α} {es : List (Expr α)} {s : α} :
      Form.word.Matches merge (callee.text.map CharClass.ofChar) →
      (∀ e ∈ es, Printable merge (.chain .sum) e) → Printable merge .primary (.call callee es s)
  | group {e : Expr α} {s : α} : Printable merge (.chain .sum) e →
      Printable merge .primary (.group e s)
  | primary {e : Expr α} : Printable merge .primary e → Printable merge .unary e
  | unary {op : Text} {e : Expr α} {s : α} : Level.sum.Writes merge op → Printable merge .unary e →
      Printable merge .unary (.unary op e s)
  | operand {level : Level} {e : Expr α} : Printable merge level.operandRank e →
      Printable merge (.chain level) e
  | binary {level : Level} {op : Text} {l r : Expr α} {s : α} : Printable merge (.chain level) l →
      level.Writes merge op → Printable merge level.operandRank r →
      Printable merge (.chain level) (.binary op l r s)

/-- All statements can be written, and none fuses with the one before it. -/
structure Program.Printable (merge : Bool) (p : Program α) : Prop where
  statements : ∀ s ∈ p.body, s.expression.Printable merge (.chain .sum)
  apart : p.body.IsChain fun s t => ∀ v ∈ s.expression.lexemes.getLast?,
    ∀ w ∈ t.expression.lexemes.head?, v.kind.fuses w.kind = false

def Program.text (p : Program α) : Text := Text.joined [' '] (p.lexemes.map Lexeme.text)

/-! ### Legible words -/

theorem Form.matches_symbol {merge : Bool} {c : Char} (symbol : CharClass.ofChar c = .operator) :
    Form.symbol.Matches merge ([c].map CharClass.ofChar) :=
  ⟨by simp, by simp [symbol], fun _ => rfl⟩

namespace Lexeme

variable {merge : Bool}

theorem legible_word {w : Lexeme} (form : w.form = .word) (kind : w.kind = .identifier)
    (run : Form.word.Matches merge (w.text.map CharClass.ofChar)) : w.Legible merge :=
  ⟨form ▸ run, by rw [form, kind]; rfl⟩

theorem legible_symbol {w : Lexeme} (form : w.form = .symbol) (kind : w.kind = .ofOperator w.text)
    (run : Form.symbol.Matches merge (w.text.map CharClass.ofChar)) : w.Legible merge := by
  refine ⟨form ▸ run, ?_⟩
  rw [form, kind, Form.kind, unplaced_values]

theorem legible_opening : opening.Legible merge :=
  legible_symbol rfl rfl (Form.matches_symbol (by decide))

theorem legible_comma : comma.Legible merge :=
  legible_symbol rfl rfl (Form.matches_symbol (by decide))

theorem legible_closing : closing.Legible merge :=
  legible_symbol rfl rfl (Form.matches_symbol (by decide))

theorem classes_ofInt {value : Int} (natural : 0 ≤ value) :
    ∀ k ∈ (Text.ofInt value).map CharClass.ofChar, k = .number := by
  intro k member
  obtain ⟨c, digit, rfl⟩ := List.mem_map.mp member
  exact ofChar_digit (Numeral.isDigit_ofInt natural c digit)

theorem legible_number {value : Int} (natural : 0 ≤ value) : (number value).Legible merge := by
  have classes := classes_ofInt natural
  refine ⟨⟨_, by simpa using Numeral.ofInt_ne_nil natural, classes, .inl rfl⟩, ?_⟩
  have plain : (Text.ofInt value).unplaced.any (·.charClass = .percent) = false := by
    refine List.any_eq_false.mpr fun c member => ?_
    have class' := classes _ (unplaced_classes _ ▸ List.mem_map_of_mem member)
    simp [class']
  simp only [form, text, Form.kind, plain]
  rfl

theorem legible_percent {value : Int} (natural : 0 ≤ value) : (percent value).Legible merge := by
  have sign : CharClass.ofChar '%' = .percent := by decide
  refine ⟨⟨_, by simpa using Numeral.ofInt_ne_nil natural, classes_ofInt natural, .inr ?_⟩, ?_⟩
  · rw [text, List.map_append, List.map_singleton, sign]
  · have signed : (Text.ofInt value ++ ['%']).unplaced.any (·.charClass = .percent) = true := by
      simp [Text.unplaced, sign]
    simp only [form, text, Form.kind, signed]
    rfl

end Lexeme

theorem TokenKind.joins_ofOperator {merge : Bool} {level : Level} {op : Text}
    (writes : level.Writes merge op) : level.joins (.ofOperator op) = true := by
  cases level with
  | sum => rcases writes with rfl | rfl <;> rfl
  | product =>
    have other := writes.2
    unfold ofOperator
    split <;> simp_all [Level.joins]

theorem Level.Writes.run {merge : Bool} {level : Level} {op : Text} (writes : level.Writes merge op) :
    Form.symbol.Matches merge (op.map CharClass.ofChar) := by
  cases level with
  | sum => rcases writes with rfl | rfl <;> exact Form.matches_symbol (by decide)
  | product => exact writes.1

/-! ### Trees -/

theorem covered_placeless {ts : List Token} (placeless : ∀ t ∈ ts, t.span = none) :
    covered ts = none := by
  cases ts with
  | nil => rfl
  | cons t ts => simp [covered, Span.cover?, placeless t List.mem_cons_self]

theorem reads_placeless {rank : Rank} (tree : Located → Expr Located) {ws : List Lexeme}
    {ts : List Token} (words : ws.map Lexeme.token = ts)
    (read : Reads (.expr rank (tree (covered ts))) ts) :
    Reads (.expr rank (tree none)) (ws.map Lexeme.token) := by
  have placeless : ∀ t ∈ ts, t.span = none := by
    intro t member
    obtain ⟨w, _, rfl⟩ := List.mem_map.mp (words ▸ member)
    rfl
  rw [covered_placeless placeless] at read
  exact words ▸ read

namespace Expr

variable {merge : Bool}

def placeless (e : Expr α) : Expr Located := e.map fun _ => none

theorem lexemesAll_legible {es : List (Expr α)} (legible : ∀ e ∈ es, ∀ w ∈ e.lexemes, w.Legible merge) :
    ∀ w ∈ lexemesAll es, w.Legible merge := by
  induction es with
  | nil => simp [lexemesAll]
  | cons e rest ih =>
    obtain ⟨first, others⟩ := List.forall_mem_cons.mp legible
    rw [lexemesAll]
    refine List.forall_mem_append.mpr ⟨first, ?_⟩
    split
    · simp
    · exact List.forall_mem_cons.mpr ⟨Lexeme.legible_comma, ih others⟩

theorem Printable.legible {rank : Rank} {e : Expr α} (h : e.Printable merge rank) :
    ∀ w ∈ e.lexemes, w.Legible merge := by
  induction h with
  | name run => simpa [lexemes] using Lexeme.legible_word (w := .name _) rfl rfl run
  | hex run => simpa [lexemes] using (⟨run, rfl⟩ : (Lexeme.hex _).Legible merge)
  | number natural => simpa [lexemes] using Lexeme.legible_number natural
  | percent natural => simpa [lexemes] using Lexeme.legible_percent natural
  | call run _ ih =>
    refine List.forall_mem_cons.mpr ⟨Lexeme.legible_word rfl rfl run, List.forall_mem_cons.mpr
      ⟨Lexeme.legible_opening, List.forall_mem_append.mpr ⟨lexemesAll_legible ih, ?_⟩⟩⟩
    simpa using Lexeme.legible_closing
  | group _ ih =>
    refine List.forall_mem_cons.mpr
      ⟨Lexeme.legible_opening, List.forall_mem_append.mpr ⟨ih, ?_⟩⟩
    simpa using Lexeme.legible_closing
  | primary _ ih | operand _ ih => exact ih
  | unary writes _ ih =>
    exact List.forall_mem_cons.mpr ⟨Lexeme.legible_symbol rfl rfl writes.run, ih⟩
  | binary _ writes _ left right =>
    exact List.forall_mem_append.mpr ⟨left,
      List.forall_mem_cons.mpr ⟨Lexeme.legible_symbol rfl rfl writes.run, right⟩⟩

theorem reads_arguments {es : List (Expr α)} (filled : es ≠ [])
    (read : ∀ e ∈ es, Reads (.expr (.chain .sum) e.placeless) (e.lexemes.map Lexeme.token)) :
    Reads (.arguments (mapAll (fun _ => none) es)) ((lexemesAll es).map Lexeme.token) := by
  induction es with
  | nil => exact absurd rfl filled
  | cons e rest ih =>
    obtain ⟨first, others⟩ := List.forall_mem_cons.mp read
    cases rest with
    | nil =>
      rw [lexemesAll, List.isEmpty_nil, if_pos rfl, List.append_nil]
      exact first.argument
    | cons f rest =>
      rw [lexemesAll, List.isEmpty_cons, if_neg (by simp), List.map_append, List.map_cons]
      exact first.arguments rfl (ih (by simp) others)

theorem Printable.reads {rank : Rank} {e : Expr α} (h : e.Printable merge rank) :
    Reads (.expr rank e.placeless) (e.lexemes.map Lexeme.token) := by
  induction h with
  | @name n run => exact @Reads.name (Lexeme.name n.text).token rfl
  | @hex value s run => exact @Reads.hex (Lexeme.hex value).token rfl
  | @number value s natural bound =>
    exact @Reads.number (Lexeme.number value).token value rfl (Numeral.read?_ofInt natural bound)
  | @percent value s natural bound =>
    refine @Reads.percent (Lexeme.percent value).token value rfl ?_
    rw [Lexeme.token, Lexeme.text, List.dropLast_concat]
    exact Numeral.read?_ofInt natural bound
  | @call callee es s run _ ih =>
    have words : (Expr.call callee es s).lexemes.map Lexeme.token =
        (Lexeme.callee callee.text).token :: Lexeme.opening.token ::
          ((lexemesAll es).map Lexeme.token ++ [Lexeme.closing.token]) := by simp [lexemes]
    refine reads_placeless (.call ⟨callee.text, none⟩ (mapAll (fun _ => none) es)) words ?_
    cases es with
    | nil => exact @Reads.emptyCall (Lexeme.callee callee.text).token _ _ rfl rfl rfl
    | cons e rest =>
      have read := reads_arguments (by simp) ih
      exact @Reads.call (Lexeme.callee callee.text).token _ _ _ _ rfl rfl read rfl
  | @group e s _ ih =>
    have words : (Expr.group e s).lexemes.map Lexeme.token =
        Lexeme.opening.token :: (e.lexemes.map Lexeme.token ++ [Lexeme.closing.token]) := by
      simp [lexemes]
    exact reads_placeless (.group e.placeless) words
      (@Reads.group Lexeme.opening.token Lexeme.closing.token _ _ rfl ih rfl)
  | primary _ ih => exact ih.primary
  | operand _ ih => exact ih.operand
  | @unary op e s writes _ ih =>
    have words : (Expr.unary op e s).lexemes.map Lexeme.token =
        (Lexeme.sign op).token :: e.lexemes.map Lexeme.token := rfl
    exact reads_placeless (.unary op e.placeless) words
      (@Reads.sign (Lexeme.sign op).token _ _ (TokenKind.joins_ofOperator writes) ih)
  | @binary level op l r s _ writes _ left right =>
    have words : (Expr.binary op l r s).lexemes.map Lexeme.token =
        l.lexemes.map Lexeme.token ++ (Lexeme.operator op).token :: r.lexemes.map Lexeme.token := by
      simp [lexemes]
    exact reads_placeless (.binary op l.placeless r.placeless) words
      (@Reads.binary level (Lexeme.operator op).token _ _ _ _ left
        (TokenKind.joins_ofOperator writes) right)

end Expr

end StyleValue

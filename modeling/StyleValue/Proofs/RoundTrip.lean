import Mathlib.Data.List.Chain
import StyleValue.Proofs.Printing

/-! What is written is read back. Spaces keep the words of a text apart, so its tokens are the tokens of
its words, and these are read as the tree that they come from. -/
namespace StyleValue

/-! ### Words with spaces between them -/

theorem Form.Matches.no_space {merge : Bool} {form : Form} {run : List CharClass}
    (h : form.Matches merge run) (other : form ≠ .space) : ∀ k ∈ run, k ≠ .whitespace := by
  rintro _ member rfl
  cases form with
  | space => exact other rfl
  | hex | word =>
    obtain ⟨later, rfl, all⟩ := h
    rcases List.mem_cons.mp member with same | member
    · cases same
    · simpa using all _ member
  | number =>
    obtain ⟨digits, _, all, rfl | rfl⟩ := h
    · simpa using all _ member
    · rcases List.mem_append.mp member with member | same
      · simpa using all _ member
      · simp at same
  | symbol => simpa using h.2.1 _ member
  | fault => simpa using h.2 _ member

/-- White space goes on with white space, and with nothing else. -/
theorem State.joins_whitespace {merge : Bool} {s : State} {run : List CharClass} {k : CharClass}
    (holds : s.Holds merge run) (joins : s.joins merge k = true) :
    ∀ j ∈ run, j = .whitespace ↔ k = .whitespace := by
  intro j member
  by_cases space : s = .whitespace
  · subst space
    have class' : k = .whitespace := by simpa [joined] using joins_iff.mp joins
    simp [holds.2 j member, class']
  · have run' : j ≠ .whitespace := by
      refine (matches_of_holds holds).no_space (fun same => ?_) j member
      cases s <;> first | exact space rfl | cases same
    have class' : k ≠ .whitespace := by
      rintro rfl
      cases s <;> cases merge <;> first | exact space rfl | cases joins
    simp [run', class']

namespace Lexeme

variable {merge : Bool} {w : Lexeme}

theorem form_ne_space (w : Lexeme) : w.form ≠ .space := by
  cases w <;> simp [form]

theorem unspaced (legible : w.Legible merge) :
    ∀ c ∈ w.text.unplaced, c.charClass ≠ .whitespace := by
  intro c member
  refine legible.run.no_space w.form_ne_space _ ?_
  rw [← unplaced_classes]
  exact List.mem_map_of_mem member

theorem segmented (legible : w.Legible merge) :
    ∃ t, Segmented merge w.text.unplaced [t] ∧ t.bare = w.token := by
  obtain ⟨s, form, holds⟩ := legible.run.state
  rw [← unplaced_classes] at holds
  obtain ⟨first, later, run, segmented⟩ := Segmented.cons_of_holds holds (by simp) .nil
  rw [List.append_nil, form] at segmented
  refine ⟨_, segmented, ?_⟩
  have kind := legible.kind
  have value := unplaced_values w.text
  rw [run] at kind value
  simp only [Token.bare, Form.token, token, kind, value]

theorem not_layout (w : Lexeme) : w.token.isLayout = false := by
  have operator : ∀ text : Text, (⟨.ofOperator text, text, none⟩ : Token).isLayout = false := by
    intro text
    unfold TokenKind.ofOperator
    split <;> rfl
  cases w with
  | sign text | operator text => exact operator text
  | _ => rfl

end Lexeme

theorem segmented_space (merge : Bool) :
    ∃ t, Segmented merge (Text.unplaced [' ']) [t] ∧ t.isLayout = true := by
  have holds : State.whitespace.Holds merge ((Text.unplaced [' ']).map Character.charClass) :=
    ⟨by simp [Text.unplaced], by decide⟩
  obtain ⟨first, later, _, segmented⟩ := Segmented.cons_of_holds holds (by simp) .nil
  exact ⟨_, segmented, rfl⟩

theorem unplaced_append (t u : Text) : (t ++ u).unplaced = t.unplaced ++ u.unplaced :=
  List.map_append

theorem text_ne_nil {merge : Bool} {w : Lexeme} (legible : w.Legible merge) : w.text ≠ [] := by
  intro empty
  obtain ⟨s, _, holds⟩ := legible.run.state
  rw [empty] at holds
  exact State.ne_nil_of_holds holds rfl

theorem apart_of_space {merge : Bool} {s : State} {run cs : List Character} {d : Character}
    (suffix : run <:+ cs) (holds : s.Holds merge (run.map Character.charClass))
    (differ : ∀ c ∈ cs, c.charClass = .whitespace ↔ d.charClass ≠ .whitespace) :
    s.joins merge d.charClass = false := by
  by_contra joins
  obtain ⟨c, member⟩ := List.exists_mem_of_ne_nil run fun empty =>
    State.ne_nil_of_holds holds (by rw [empty]; rfl)
  have alike := State.joins_whitespace holds (by simpa using joins) _ (List.mem_map_of_mem member)
  have unlike := differ c (suffix.subset member)
  exact iff_not_self (alike.symm.trans unlike)

theorem joined_cons (separator piece : Text) (pieces : List Text) :
    ∃ more, Text.joined separator (piece :: pieces) = piece ++ more := by
  cases pieces with
  | nil => exact ⟨[], (List.append_nil piece).symm⟩
  | cons next pieces => exact ⟨_, List.append_assoc _ _ _⟩

theorem segmented_spaced {merge : Bool} {ws : List Lexeme} (legible : ∀ w ∈ ws, w.Legible merge) :
    ∃ ts, Segmented merge (Text.joined [' '] (ws.map Lexeme.text)).unplaced ts ∧
      (withoutLayout ts).map Token.bare = ws.map Lexeme.token := by
  induction ws with
  | nil => exact ⟨[], .nil, rfl⟩
  | cons w ws ih =>
    obtain ⟨here, others⟩ := List.forall_mem_cons.mp legible
    obtain ⟨t, word, same⟩ := Lexeme.segmented here
    have counts : t.isLayout = false := by
      rw [← w.not_layout, ← same]
      rfl
    cases ws with
    | nil =>
      refine ⟨[t], word, ?_⟩
      simp [withoutLayout, counts, same]
    | cons v ws =>
      obtain ⟨space, spaced, layout⟩ := segmented_space merge
      obtain ⟨ts, behind, words⟩ := ih others
      have next := others v List.mem_cons_self
      have white : ∀ c ∈ Text.unplaced [' '], c.charClass = .whitespace := by decide
      have second : Segmented merge (Text.unplaced [' '] ++
          (Text.joined [' '] ((v :: ws).map Lexeme.text)).unplaced) ([space] ++ ts) := by
        refine spaced.append behind fun s run suffix holds d head => ?_
        obtain ⟨more, front⟩ := joined_cons [' '] v.text (ws.map Lexeme.text)
        have filled : v.text.unplaced ≠ [] := by simpa [Text.unplaced] using text_ne_nil next
        rw [List.map_cons, front, unplaced_append, List.head?_append_of_ne_nil _ filled] at head
        have other := Lexeme.unspaced next d (List.mem_of_mem_head? head)
        exact apart_of_space suffix holds fun c member => by simp [white c member, other]
      have first := word.append second fun s run suffix holds d head => by
        rw [List.head?_append_of_ne_nil _ (by simp [Text.unplaced])] at head
        have other := white d (List.mem_of_mem_head? head)
        exact apart_of_space suffix holds fun c member => by
          simp [Lexeme.unspaced here c member, other]
      rw [← unplaced_append, ← unplaced_append, ← List.append_assoc] at first
      refine ⟨_, first, ?_⟩
      have kept : withoutLayout ([t] ++ ([space] ++ ts)) = t :: withoutLayout ts := by
        simp [withoutLayout, counts, layout]
      rw [kept, List.map_cons, List.map_cons, words, same]

/-! ### Programs -/

variable {α : Type}

namespace Program

theorem Printable.legible {merge : Bool} {p : Program α} (h : p.Printable merge) :
    ∀ w ∈ p.lexemes, w.Legible merge := by
  intro w member
  obtain ⟨s, listed, inside⟩ := List.mem_flatMap.mp member
  exact (h.statements s listed).legible w inside

theorem reads_statements {merge : Bool} {body : List (Statement α)}
    (printable : ∀ s ∈ body, s.expression.Printable merge (.chain .sum))
    (apart : body.IsChain fun s t => ∀ v ∈ s.expression.lexemes.getLast?,
      ∀ w ∈ t.expression.lexemes.head?, v.kind.fuses w.kind = false) :
    ReadsAll (body.map (Statement.map fun _ => none))
      ((body.flatMap fun s => s.expression.lexemes).map Lexeme.token) := by
  induction body with
  | nil => exact .nil
  | cons s rest ih =>
    obtain ⟨here, others⟩ := List.forall_mem_cons.mp printable
    have note : covered (s.expression.lexemes.map Lexeme.token) = none :=
      covered_placeless (by simp [Lexeme.token])
    have one : ReadsAll [Statement.map (fun _ => none) s]
        (s.expression.lexemes.map Lexeme.token) := by
      have alone := ReadsAll.cons here.reads (stops_nil _ _) .nil
      rw [note, List.append_nil] at alone
      exact alone
    rw [List.map_cons, List.flatMap_cons, List.map_append]
    refine one.append (ih others apart.tail) fun t last u first => ?_
    rw [List.getLast?_map, Option.mem_map] at last
    rw [List.head?_map, Option.mem_map] at first
    obtain ⟨v, last, rfl⟩ := last
    obtain ⟨w, first, rfl⟩ := first
    cases rest with
    | nil => cases first
    | cons next rest =>
      rw [List.flatMap_cons, List.head?_append_of_ne_nil _ next.expression.lexemes_ne_nil] at first
      exact (List.isChain_cons_cons.mp apart).1 v last w first

/-- A program that can be written is read back from its text, whatever its nodes are noted with. -/
theorem parse_text {merge : Bool} {p : Program α} (printable : p.Printable merge) :
    ∃ q, parse ⟨merge, false⟩ p.text = .ok q ∧ q.bare = p.bare := by
  obtain ⟨ts, segmented, words⟩ := segmented_spaced printable.legible
  have lexed := tokenize_unplaced segmented
  have tokens : (withoutLayout (tokenize ⟨merge, false⟩ p.text)).map Token.bare =
      (p.lexemes.map Lexeme.token).map Token.bare := by
    rw [withoutLayout_bare, Program.text, lexed, ← withoutLayout_bare, words, List.map_map]
    rfl
  have read := reads_statements printable.statements printable.apart
  obtain ⟨body, reread, trees⟩ := read.relocate _ tokens
  obtain ⟨q, parsed, rfl⟩ := parse_of_reads reread
  refine ⟨q, parsed, congrArg (Program.mk · ()) (trees.trans ?_)⟩
  rw [List.map_map]
  refine List.map_congr_left fun s _ => ?_
  simp only [Function.comp, Statement.map, Expr.map_map]

/-- The text `f ( 50% ) * - x #fff`, two statements. -/
theorem parse_text_two :
    let p : Program Unit := ⟨[
      ⟨.binary ['*'] (.call ⟨['f'], ()⟩ [.percent 50 ()] ())
        (.unary ['-'] (.identifier ⟨['x'], ()⟩) ()) (), ()⟩,
      ⟨.hex ['#', 'f', 'f', 'f'] (), ()⟩], ()⟩
    p.Printable false ∧ ∃ q, parse ⟨false, false⟩ p.text = .ok q ∧ q.bare = p.bare := by
  intro p
  have word : ∀ c : Char, CharClass.ofChar c = .letter →
      Form.word.Matches false ([c].map CharClass.ofChar) :=
    fun c letter => ⟨[], by simp [letter], by simp⟩
  have hex : Form.hex.Matches false (['#', 'f', 'f', 'f'].map CharClass.ofChar) :=
    ⟨[.letter, .letter, .letter], by decide, by decide⟩
  have fifty : (50 : Int) < 10 ^ Numeral.maxDigits :=
    calc (50 : Int) < 10 ^ 2 := by decide
      _ ≤ 10 ^ Numeral.maxDigits := pow_le_pow_right₀ (by decide) (by decide)
  have half : Expr.Printable false (.chain .sum) (.percent 50 ()) :=
    .operand (.operand (.primary (.percent (by decide) fifty)))
  have call : Expr.Printable false .primary (.call ⟨['f'], ()⟩ [.percent 50 ()] ()) :=
    .call (word 'f' (by decide)) (List.forall_mem_singleton.mpr half)
  have signed : Expr.Printable false .unary (.unary ['-'] (.identifier ⟨['x'], ()⟩) ()) :=
    .unary (.inr rfl) (.primary (.name (word 'x' (by decide))))
  have times : Level.product.Writes false ['*'] := ⟨Form.matches_symbol (by decide), by decide⟩
  have printable : p.Printable false := by
    refine ⟨List.forall_mem_cons.mpr ⟨?_, List.forall_mem_singleton.mpr ?_⟩, by decide⟩
    · exact .operand (.binary (.operand (.primary call)) times signed)
    · exact .operand (.operand (.primary (.hex hex)))
  exact ⟨printable, parse_text printable⟩

end Program

end StyleValue

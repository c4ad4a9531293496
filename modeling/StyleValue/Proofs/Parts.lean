import StyleValue.Proofs.Completeness
import StyleValue.Proofs.Spelling

/-! The parts of a tree, at any depth, and the tokens that each of them is read from. How many words
stand in front of a part can be told from the tree alone. -/
namespace StyleValue

variable {α : Type}

namespace Node

theorem at?_cons {n m : Node α} {step : Step} {path : List Step}
    (found : n.at? (step :: path) = some m) :
    ∃ part, n.part? step = some part ∧ part.at? path = some m := by
  unfold at? at found
  rw [List.foldlM_cons] at found
  exact Option.bind_eq_some_iff.mp found

def lexemes : Node α → List Lexeme
  | program p => p.lexemes
  | statement s => s.expression.lexemes
  | expression e => e.lexemes

/-- How many words of a node stand in front of one of its parts. -/
def lead : Node α → Step → Nat
  | program p, .body index => ((p.body.take index).flatMap fun s => s.expression.lexemes).length
  | expression (.group _ _), .expression => 1
  | expression (.binary _ left _ _), .right => left.lexemes.length + 1
  | expression (.unary _ _ _), .argument => 1
  | expression (.call _ arguments _), .arguments index =>
    2 + ((arguments.take index).flatMap fun e => e.lexemes ++ [.comma]).length
  | _, _ => 0

/-- How many words of a node stand in front of what the path leads to. -/
def offset (n : Node α) : List Step → Nat
  | [] => 0
  | step :: path => n.lead step + match n.part? step with
    | none => 0
    | some part => part.offset path

/-- The tokens of a node, all of them and in order. -/
inductive ReadFrom : Node Located → List Token → Prop where
  | program {p : Program Located} {ts : List Token} : ReadsAll p.body ts → ReadFrom (.program p) ts
  | statement {s : Statement Located} {rank : Rank} {ts : List Token} :
      Reads (.expr rank s.expression) ts → s.note = covered ts → ReadFrom (.statement s) ts
  | expression {e : Expr Located} {rank : Rank} {ts : List Token} :
      Reads (.expr rank e) ts → ReadFrom (.expression e) ts

/-- The tokens of a node, with `k` others in front of them and some behind. -/
def ReadWithin (k : Nat) (n : Node Located) (ts : List Token) : Prop :=
  ∃ before us after, ts = before ++ us ++ after ∧ before.length = k ∧ n.ReadFrom us

namespace ReadWithin

variable {k : Nat} {n : Node Located} {ts : List Token}

theorem widen (h : n.ReadWithin k ts) (before after : List Token) :
    n.ReadWithin (before.length + k) (before ++ ts ++ after) := by
  obtain ⟨first, us, last, rfl, rfl, read⟩ := h
  exact ⟨before ++ first, us, last ++ after, by simp, by simp, read⟩

theorem whole (h : n.ReadFrom ts) : n.ReadWithin 0 ts :=
  ⟨[], ts, [], by simp, rfl, h⟩

end ReadWithin

end Node

open Node (ReadWithin)

/-- A part of a phrase, and how many words of the phrase stand in front of it. -/
def Phrase.Has (k : Nat) (part : Node Located) : Phrase → Prop
  | .expr _ e => ∃ step, (Node.expression e).part? step = some part ∧ (Node.expression e).lead step = k
  | .arguments es => ∃ index e, es[index]? = some e ∧ part = .expression e ∧
      ((es.take index).flatMap fun e => e.lexemes ++ [.comma]).length = k

namespace Reads

theorem part {phrase : Phrase} {ts : List Token} {k : Nat} {m : Node Located} (h : Reads phrase ts) :
    phrase.Has k m → m.ReadWithin k ts := by
  induction h generalizing k with
  | number | percent | hex | name =>
    rintro ⟨step, found, _⟩
    cases step <;> cases found
  | @emptyCall t paren close kind =>
    rintro ⟨step, found, rfl⟩
    cases step with
    | callee =>
      cases found
      exact (ReadWithin.whole (.expression (.name kind))).widen [] [paren, close]
    | arguments index => simp [Node.part?] at found
    | _ => cases found
  | @call t paren close es ts kind _ _ _ ih =>
    rintro ⟨step, found, rfl⟩
    cases step with
    | callee =>
      cases found
      exact (ReadWithin.whole (.expression (.name kind))).widen [] (paren :: (ts ++ [close]))
    | arguments index =>
      obtain ⟨e, listed, rfl⟩ := Option.map_eq_some_iff.mp found
      exact (ih ⟨index, e, listed, rfl, rfl⟩).widen [t, paren] [close]
    | _ => cases found
  | @group paren close e ts _ read _ =>
    rintro ⟨step, found, rfl⟩
    cases step with
    | expression =>
      cases found
      exact (ReadWithin.whole (.expression read)).widen [paren] [close]
    | _ => cases found
  | primary _ ih | operand _ ih => exact ih
  | @sign t e ts _ read =>
    rintro ⟨step, found, rfl⟩
    cases step with
    | argument =>
      cases found
      have within := (ReadWithin.whole (.expression read)).widen [t] []
      rwa [List.append_nil] at within
    | _ => cases found
  | @binary level op l r ts us left _ right =>
    rintro ⟨step, found, rfl⟩
    cases step with
    | left =>
      cases found
      exact (ReadWithin.whole (.expression left)).widen [] (op :: us)
    | right =>
      cases found
      have within := (ReadWithin.whole (.expression right)).widen (ts ++ [op]) []
      rw [List.append_nil, List.append_assoc, List.length_append, ← left.spells.length_eq] at within
      exact within
    | _ => cases found
  | argument read =>
    rintro ⟨index, e, listed, rfl, rfl⟩
    cases index with
    | zero =>
      cases listed
      exact .whole (.expression read)
    | succ index => cases listed
  | @arguments comma e es ts us first _ _ _ ih =>
    rintro ⟨index, sub, listed, rfl, rfl⟩
    cases index with
    | zero =>
      cases listed
      exact (ReadWithin.whole (.expression first)).widen [] (comma :: us)
    | succ index =>
      have within := (ih ⟨index, sub, listed, rfl, rfl⟩).widen (ts ++ [comma]) []
      rw [List.append_nil, List.append_assoc, List.length_append, ← first.spells.length_eq] at within
      rw [List.take_succ_cons, List.flatMap_cons, List.length_append, List.length_append]
      exact within

theorem sum {rank : Rank} {e : Expr Located} {ts : List Token} (h : Reads (.expr rank e) ts) :
    Reads (.expr (.chain .sum) e) ts := by
  have ofUnary : Reads (.expr .unary e) ts → Reads (.expr (.chain .sum) e) ts := fun unary =>
    @operand .sum _ _ (@operand .product _ _ unary)
  cases rank with
  | primary => exact ofUnary h.primary
  | unary => exact ofUnary h
  | chain level =>
    cases level with
    | sum => exact h
    | product => exact @operand .sum _ _ h

end Reads

theorem ReadsAll.part {body : List (Statement Located)} {ts : List Token} (h : ReadsAll body ts)
    {index : Nat} {s : Statement Located} (listed : body[index]? = some s) :
    (Node.statement s).ReadWithin ((body.take index).flatMap fun s => s.expression.lexemes).length ts := by
  induction h generalizing index with
  | nil => cases listed
  | @cons e ts us others read _ _ ih =>
    cases index with
    | zero =>
      cases listed
      exact (ReadWithin.whole (.statement read rfl)).widen [] us
    | succ index =>
      have within := (ih listed).widen ts []
      rw [List.append_nil, ← read.spells.length_eq] at within
      rw [List.take_succ_cons, List.flatMap_cons, List.length_append]
      exact within

namespace Node.ReadFrom

variable {n m : Node Located} {ts : List Token}

theorem part {step : Step} (h : n.ReadFrom ts) (found : n.part? step = some m) :
    m.ReadWithin (n.lead step) ts := by
  cases h with
  | program all =>
    cases step with
    | body index =>
      obtain ⟨s, listed, rfl⟩ := Option.map_eq_some_iff.mp found
      exact all.part listed
    | _ => cases found
  | statement read =>
    cases step <;> cases found
    exact .whole (.expression read)
  | expression read => exact read.part ⟨step, found, rfl⟩

theorem descendant {path : List Step} (h : n.ReadFrom ts) (found : n.at? path = some m) :
    m.ReadWithin (n.offset path) ts := by
  induction path generalizing n ts with
  | nil =>
    cases found
    exact .whole h
  | cons step path ih =>
    obtain ⟨node, part, later⟩ := Node.at?_cons found
    obtain ⟨before, us, after, rfl, lead, read⟩ := h.part part
    have within := (ih read later).widen before after
    rw [offset, part, ← lead]
    exact within

theorem spells (h : n.ReadFrom ts) : List.Forall₂ Lexeme.Spells n.lexemes ts := by
  cases h with
  | program all => exact all.spells
  | statement read | expression read => exact read.spells

end Node.ReadFrom

/-- Every expression of a program is read from some of its tokens, with its note over them. -/
theorem ReadsAll.descendant {p : Program Located} {ts : List Token} (h : ReadsAll p.body ts)
    {path : List Step} {n : Expr Located} (found : (Node.program p).at? path = some (.expression n)) :
    ∃ before us after, ts = before ++ us ++ after ∧ Reads (.expr (.chain .sum) n) us ∧
      n.note = covered us := by
  obtain ⟨before, us, after, same, _, within⟩ := (Node.ReadFrom.program h).descendant found
  cases within with
  | expression read => exact ⟨before, us, after, same, read.sum, read.note_eq⟩

end StyleValue

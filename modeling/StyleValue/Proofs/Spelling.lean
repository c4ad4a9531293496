import Mathlib.Data.List.Chain
import Mathlib.Data.List.Forall2
import StyleValue.Proofs.Programs

/-! The words of a tree, in order: what it says about each token that it was read from. A bare name
never stands in front of an opening bracket, neither inside a statement nor between two of them. -/
namespace StyleValue

inductive Lexeme where
  | number (value : Int)
  | percent (value : Int)
  | hex (value : Text)
  | name (text : Text)
  | callee (text : Text)
  | sign (text : Text)
  | operator (text : Text)
  | opening
  | comma
  | closing
  deriving DecidableEq, Repr

namespace Lexeme

def Spells (w : Lexeme) (t : Token) : Prop :=
  match w with
  | number value => t.kind = .number ∧ Numeral.read? t.value = some value
  | percent value => t.kind = .percent ∧ Numeral.read? t.value.dropLast = some value
  | hex value => t.kind = .hexValue ∧ t.value = value
  | name text | callee text => t.kind = .identifier ∧ t.value = text
  | sign text => t.kind.isSign = true ∧ t.value = text
  | operator text => (∃ level : Level, level.joins t.kind = true) ∧ t.value = text
  | opening => t.kind = .leftParen
  | comma => t.kind = .comma
  | closing => t.kind = .rightParen

/-- Two words of which the first is not a name that the second would make a callee. -/
def Apart (v w : Lexeme) : Prop := ∀ text, v = name text → w ≠ opening

theorem chain_cons {v : Lexeme} {ws : List Lexeme} (unnamed : ∀ text, v ≠ name text)
    (h : ws.IsChain Apart) : (v :: ws).IsChain Apart :=
  h.cons fun _ _ text same => absurd same (unnamed text)

theorem chain_between {v : Lexeme} {ws us : List Lexeme} (left : ws.IsChain Apart)
    (plain : v ≠ opening) (unnamed : ∀ text, v ≠ name text) (right : us.IsChain Apart) :
    (ws ++ v :: us).IsChain Apart := by
  refine left.append (chain_cons unnamed right) fun _ _ w first _ _ => ?_
  cases first
  exact plain

theorem spells_paren {w : Lexeme} {t : Token} (spells : w.Spells t) (kind : t.kind = .leftParen) :
    w = opening := by
  cases w <;> simp [Spells, kind, TokenKind.isSign] at spells
  case opening => rfl
  case operator =>
    obtain ⟨⟨level, joins⟩, _⟩ := spells
    cases level <;> simp [Level.joins, TokenKind.isSign] at joins

theorem paren_of_opening {ws : List Lexeme} {ts : List Token} (spelled : List.Forall₂ Spells ws ts)
    (first : opening ∈ ws.head?) : ∃ t ∈ ts.head?, t.kind = .leftParen := by
  cases spelled with
  | nil => cases first
  | cons spells _ =>
    cases first
    exact ⟨_, rfl, spells⟩

theorem ne_error_of_spells {ws : List Lexeme} {ts : List Token}
    (spelled : List.Forall₂ Spells ws ts) : ∀ t ∈ ts, t.kind ≠ .error := by
  induction spelled with
  | nil => simp
  | @cons w t ws ts spells _ ih =>
    refine List.forall_mem_cons.mpr ⟨fun fault => ?_, ih⟩
    cases w <;> simp [Spells, fault, TokenKind.isSign] at spells
    obtain ⟨⟨level, joins⟩, _⟩ := spells
    cases level <;> simp [Level.joins, TokenKind.isSign] at joins

end Lexeme

variable {α : Type}

namespace Expr

mutual
def lexemes : Expr α → List Lexeme
  | identifier name => [.name name.text]
  | number value _ => [.number value]
  | hex value _ => [.hex value]
  | percent value _ => [.percent value]
  | binary operator left right _ => left.lexemes ++ .operator operator :: right.lexemes
  | unary operator argument _ => .sign operator :: argument.lexemes
  | call callee arguments _ =>
    .callee callee.text :: .opening :: (lexemesAll arguments ++ [.closing])
  | group expression _ => .opening :: (expression.lexemes ++ [.closing])

/-- The words of some arguments, with commas between them. -/
def lexemesAll : List (Expr α) → List Lexeme
  | [] => []
  | e :: rest => e.lexemes ++ if rest.isEmpty then [] else .comma :: lexemesAll rest
end

theorem lexemes_ne_nil (e : Expr α) : e.lexemes ≠ [] := by
  cases e <;> simp [lexemes]

theorem lastName?_of_lexemes {text : Text} :
    ∀ e : Expr α, e.lexemes.getLast? = some (.name text) → e.lastName? = some text
  | .identifier name, last => by simpa [lexemes, lastName?] using last
  | .number .., last | .hex .., last | .percent .., last => by simp [lexemes] at last
  | .binary _ _ right _, last => by
    have nonempty := right.lexemes_ne_nil
    refine lastName?_of_lexemes right ?_
    rw [lexemes, List.getLast?_append_cons] at last
    rwa [List.getLast?_cons_of_ne_nil nonempty] at last
  | .unary _ argument _, last => by
    refine lastName?_of_lexemes argument ?_
    rwa [lexemes, List.getLast?_cons_of_ne_nil argument.lexemes_ne_nil] at last
  | .call callee arguments _, last => by
    rw [lexemes, ← List.cons_append, ← List.cons_append, List.getLast?_concat] at last
    cases last
  | .group e _, last => by
    rw [lexemes, ← List.cons_append, List.getLast?_concat] at last
    cases last

end Expr

def Program.lexemes (p : Program α) : List Lexeme := p.body.flatMap fun s => s.expression.lexemes

def Phrase.lexemes : Phrase → List Lexeme
  | .expr _ e => e.lexemes
  | .arguments es => Expr.lexemesAll es

open Lexeme

namespace Reads

theorem arguments_eq {es : List (Expr Located)} {ts : List Token} (h : Reads (.arguments es) ts) :
    ∃ e rest, es = e :: rest := by
  cases h with
  | argument | arguments => exact ⟨_, _, rfl⟩

theorem spells {phrase : Phrase} {ts : List Token} (h : Reads phrase ts) :
    List.Forall₂ Spells phrase.lexemes ts := by
  induction h with
  | number kind digits | percent kind digits => exact .cons ⟨kind, digits⟩ .nil
  | hex kind | name kind => exact .cons ⟨kind, rfl⟩ .nil
  | emptyCall kind opened closed =>
    exact .cons ⟨kind, rfl⟩ (.cons opened (.cons closed .nil))
  | call kind opened _ closed ih =>
    exact .cons ⟨kind, rfl⟩ (.cons opened (List.rel_append ih (.cons closed .nil)))
  | group opened _ closed ih => exact .cons opened (List.rel_append ih (.cons closed .nil))
  | primary _ ih | operand _ ih => exact ih
  | sign kind _ ih => exact .cons ⟨kind, rfl⟩ ih
  | binary _ joins _ left right =>
    exact List.rel_append left (.cons ⟨⟨_, joins⟩, rfl⟩ right)
  | argument _ ih => simpa [Phrase.lexemes, Expr.lexemesAll] using ih
  | @arguments comma e es ts us _ separates others first later =>
    obtain ⟨f, fs, rfl⟩ := others.arguments_eq
    exact List.rel_append first (.cons separates later)

/-- Inside a tree every name in front of a bracket is a callee. -/
theorem apart {phrase : Phrase} {ts : List Token} (h : Reads phrase ts) :
    phrase.lexemes.IsChain Apart := by
  induction h with
  | number | percent | hex | name => exact .singleton _
  | emptyCall => exact chain_cons (by simp) (chain_cons (by simp) (.singleton _))
  | call _ _ _ _ ih =>
    exact chain_cons (by simp) (chain_cons (by simp) (chain_between ih (by simp) (by simp) .nil))
  | group _ _ _ ih => exact chain_cons (by simp) (chain_between ih (by simp) (by simp) .nil)
  | primary _ ih | operand _ ih => exact ih
  | sign _ _ ih => exact chain_cons (by simp) ih
  | binary _ _ _ left right => exact chain_between left (by simp) (by simp) right
  | argument _ ih => simpa [Phrase.lexemes, Expr.lexemesAll] using ih
  | @arguments comma e es ts us _ separates others first later =>
    obtain ⟨f, fs, rfl⟩ := others.arguments_eq
    exact chain_between first (by simp) (by simp) later

end Reads

namespace ReadsAll

variable {body : List (Statement Located)} {ts : List Token}

theorem spells (h : ReadsAll body ts) :
    List.Forall₂ Spells (body.flatMap fun s => s.expression.lexemes) ts := by
  induction h with
  | nil => exact .nil
  | cons read _ _ ih => exact List.rel_append read.spells ih

theorem apart (h : ReadsAll body ts) :
    (body.flatMap fun s => s.expression.lexemes).IsChain Apart := by
  induction h with
  | nil => exact .nil
  | @cons e ts us others read stops later ih =>
    -- Between two statements a bracket behind a name would go on with the first of them.
    refine read.apart.append ih fun v last w first text same opened => ?_
    subst same opened
    have named := e.lastName?_of_lexemes last
    obtain ⟨t, head, paren⟩ := paren_of_opening later.spells first
    exact (stops t head).2 (by simp [named]) paren

/-- The statements take the tokens apart, and only the first can begin with a sign. -/
theorem parts (h : ReadsAll body ts) : ∃ parts : List (List Token), parts.flatten = ts ∧
    List.Forall₂ (fun s part => Reads (.expr (.chain .sum) s.expression) part) body parts ∧
    ∀ part ∈ parts.tail, ∀ t ∈ part.head?, t.kind.isSign = false := by
  induction h with
  | nil => exact ⟨[], rfl, .nil, by simp⟩
  | @cons e ts us others read stops later ih =>
    obtain ⟨parts, rfl, reads, unsigned⟩ := ih
    refine ⟨ts :: parts, rfl, .cons read reads, ?_⟩
    cases reads with
    | nil => simp
    | @cons s part others parts first _ =>
      refine List.forall_mem_cons.mpr ⟨fun t starts => ?_, unsigned⟩
      obtain ⟨u, rest, rfl, _⟩ := first.starts
      have untaken := (stops t starts).1
      simp_all [Rank.takes, Level.joins]

theorem ne_error (h : ReadsAll body ts) : ∀ t ∈ ts, t.kind ≠ .error :=
  ne_error_of_spells h.spells

end ReadsAll

theorem Lexeme.paren_of_apart {ws : List Lexeme} {ts : List Token} (spelled : List.Forall₂ Spells ws ts)
    (apart : ws.IsChain Apart) {i : Nat} {text : Text} {t : Token} (named : ws[i]? = some (.name text))
    (next : ts[i + 1]? = some t) : t.kind ≠ .leftParen := by
  intro paren
  induction spelled generalizing i with
  | nil => cases named
  | cons _ others ih =>
    cases i with
    | succ i => exact ih apart.of_cons named next
    | zero =>
      cases named
      cases others with
      | nil => cases next
      | cons second _ =>
        cases next
        exact apart.rel_head? rfl _ rfl (spells_paren second paren)

end StyleValue

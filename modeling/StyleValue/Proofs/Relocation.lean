import StyleValue.Proofs.Completeness

/-! Readings depend on the kinds and values of tokens alone. Where other tokens have the same ones, they
are read as the same tree, with other notes. -/
namespace StyleValue

theorem Token.bare_eq {t u : Token} (same : u.bare = t.bare) : u.kind = t.kind ∧ u.value = t.value := by
  cases t
  cases u
  simp_all [Token.bare]

theorem Token.single_bare {us : List Token} {t : Token} (same : us.map bare = [t].map bare) :
    ∃ u, us = [u] ∧ u.kind = t.kind ∧ u.value = t.value := by
  obtain ⟨u, rfl, word⟩ := List.map_eq_singleton_iff.mp same
  exact ⟨u, rfl, bare_eq word⟩

theorem withoutLayout_bare (ts : List Token) :
    (withoutLayout ts).map Token.bare = withoutLayout (ts.map Token.bare) := by
  unfold withoutLayout
  rw [List.filter_map]
  rfl

variable {α β : Type}

/-- The tree without its notes. -/
def Expr.bare (e : Expr α) : Expr Unit := e.map fun _ => ()

namespace Expr

theorem bare_identifier (name : Name α) : (identifier name).bare = .identifier ⟨name.text, ()⟩ := rfl

theorem bare_binary (operator : Text) (left right : Expr α) (note : α) :
    (binary operator left right note).bare = .binary operator left.bare right.bare () := rfl

theorem bare_unary (operator : Text) (argument : Expr α) (note : α) :
    (unary operator argument note).bare = .unary operator argument.bare () := rfl

theorem bare_call (callee : Name α) (arguments : List (Expr α)) (note : α) :
    (call callee arguments note).bare = .call ⟨callee.text, ()⟩ (mapAll (fun _ => ()) arguments) () := rfl

theorem bare_group (e : Expr α) (note : α) : (group e note).bare = .group e.bare () := rfl

end Expr

inductive Phrase.Alike : Phrase → Phrase → Prop where
  | expr {rank : Rank} {e e' : Expr Located} : e'.bare = e.bare → Alike (.expr rank e) (.expr rank e')
  | arguments {es es' : List (Expr Located)} :
      Expr.mapAll (fun _ => ()) es' = Expr.mapAll (fun _ => ()) es → Alike (.arguments es) (.arguments es')

namespace Reads

theorem relocate {phrase : Phrase} {ts : List Token} (h : Reads phrase ts) :
    ∀ us : List Token, us.map Token.bare = ts.map Token.bare →
      ∃ phrase', Reads phrase' us ∧ phrase.Alike phrase' := by
  induction h with
  | number kind digits =>
    intro us same
    obtain ⟨u, rfl, kinds, values⟩ := Token.single_bare same
    exact ⟨_, .number (kinds.trans kind) (values ▸ digits), .expr rfl⟩
  | percent kind digits =>
    intro us same
    obtain ⟨u, rfl, kinds, values⟩ := Token.single_bare same
    exact ⟨_, .percent (kinds.trans kind) (values ▸ digits), .expr rfl⟩
  | hex kind =>
    intro us same
    obtain ⟨u, rfl, kinds, values⟩ := Token.single_bare same
    exact ⟨_, .hex (kinds.trans kind), .expr (by simp [Expr.bare, Expr.map, values])⟩
  | name kind =>
    intro us same
    obtain ⟨u, rfl, kinds, values⟩ := Token.single_bare same
    exact ⟨_, .name (kinds.trans kind), .expr (by simp [Expr.bare, Expr.map, Name.map, values])⟩
  | emptyCall kind opens closes =>
    intro us same
    simp only [List.map_cons, List.map_eq_cons_iff, List.map_nil, List.map_eq_nil_iff] at same
    obtain ⟨u, _, rfl, word, paren, _, rfl, second, close, _, rfl, third, rfl⟩ := same
    obtain ⟨kinds, values⟩ := Token.bare_eq word
    exact ⟨_, .emptyCall (kinds.trans kind) ((Token.bare_eq second).1.trans opens)
      ((Token.bare_eq third).1.trans closes),
      .expr (by simp [Expr.bare, Expr.map, Expr.mapAll, Name.map, values])⟩
  | call kind opens _ closes ih =>
    intro us same
    simp only [List.map_cons, List.map_append, List.map_nil, List.map_eq_cons_iff,
      List.map_eq_append_iff, List.map_eq_nil_iff] at same
    obtain ⟨u, _, rfl, word, paren, _, rfl, second, vs, _, rfl, inside, close, _, rfl, last, rfl⟩ := same
    obtain ⟨kinds, values⟩ := Token.bare_eq word
    obtain ⟨_, read, alike⟩ := ih vs inside
    cases alike with
    | arguments alike =>
      exact ⟨_, .call (kinds.trans kind) ((Token.bare_eq second).1.trans opens) read
        ((Token.bare_eq last).1.trans closes),
        .expr (by simp [Expr.bare, Expr.map, Name.map, values, alike])⟩
  | group opens _ closes ih =>
    intro us same
    simp only [List.map_cons, List.map_append, List.map_nil, List.map_eq_cons_iff,
      List.map_eq_append_iff, List.map_eq_nil_iff] at same
    obtain ⟨paren, _, rfl, first, vs, _, rfl, inside, close, _, rfl, last, rfl⟩ := same
    obtain ⟨_, read, alike⟩ := ih vs inside
    cases alike with
    | expr alike =>
      exact ⟨_, .group ((Token.bare_eq first).1.trans opens) read ((Token.bare_eq last).1.trans closes),
        .expr (congrArg (Expr.group · ()) alike)⟩
  | primary _ ih =>
    intro us same
    obtain ⟨_, read, alike⟩ := ih us same
    cases alike with
    | expr alike => exact ⟨_, read.primary, .expr alike⟩
  | sign sign _ ih =>
    intro us same
    obtain ⟨u, vs, rfl, word, inside⟩ := List.map_eq_cons_iff.mp same
    obtain ⟨kinds, values⟩ := Token.bare_eq word
    obtain ⟨_, read, alike⟩ := ih vs inside
    cases alike with
    | expr alike =>
      exact ⟨_, read.sign (by rw [kinds, sign]), .expr (congrArg₂ (Expr.unary · · ()) values alike)⟩
  | operand _ ih =>
    intro us same
    obtain ⟨_, read, alike⟩ := ih us same
    cases alike with
    | expr alike => exact ⟨_, read.operand, .expr alike⟩
  | binary _ joins _ ihLeft ihRight =>
    intro us same
    simp only [List.map_append, List.map_cons, List.map_eq_append_iff, List.map_eq_cons_iff] at same
    obtain ⟨ls, _, rfl, before, op, rs, rfl, word, behind⟩ := same
    obtain ⟨kinds, values⟩ := Token.bare_eq word
    obtain ⟨_, left, alikeLeft⟩ := ihLeft ls before
    obtain ⟨_, right, alikeRight⟩ := ihRight rs behind
    cases alikeLeft with
    | expr alikeLeft =>
      cases alikeRight with
      | expr alikeRight =>
        refine ⟨_, left.binary (by rw [kinds, joins]) right, .expr ?_⟩
        unfold Expr.bare at *
        simp only [Expr.map, values, alikeLeft, alikeRight]
  | argument _ ih =>
    intro us same
    obtain ⟨_, read, alike⟩ := ih us same
    cases alike with
    | expr alike => exact ⟨_, read.argument, .arguments (congrArg ([·]) alike)⟩
  | arguments _ separates _ ihFirst ihOthers =>
    intro us same
    simp only [List.map_append, List.map_cons, List.map_eq_append_iff, List.map_eq_cons_iff] at same
    obtain ⟨ls, _, rfl, before, comma, rs, rfl, word, behind⟩ := same
    obtain ⟨_, first, alikeFirst⟩ := ihFirst ls before
    obtain ⟨_, others, alikeOthers⟩ := ihOthers rs behind
    cases alikeFirst with
    | expr alikeFirst =>
      cases alikeOthers with
      | arguments alikeOthers =>
        exact ⟨_, first.arguments ((Token.bare_eq word).1.trans separates) others,
          .arguments (congrArg₂ (· :: ·) alikeFirst alikeOthers)⟩

end Reads

mutual
theorem Expr.map_map {γ : Type} (f : α → β) (g : β → γ) :
    ∀ e : Expr α, (e.map f).map g = e.map fun a => g (f a)
  | .identifier _ | .number .. | .hex .. | .percent .. => rfl
  | .binary _ left right _ => by simp only [Expr.map, left.map_map f g, right.map_map f g]
  | .unary _ argument _ => by simp only [Expr.map, argument.map_map f g]
  | .call _ arguments _ => by
    simp only [Expr.map, Expr.mapAll_mapAll f g arguments]
    rfl
  | .group e _ => by simp only [Expr.map, e.map_map f g]

theorem Expr.mapAll_mapAll {γ : Type} (f : α → β) (g : β → γ) :
    ∀ es : List (Expr α), Expr.mapAll g (Expr.mapAll f es) = Expr.mapAll (fun a => g (f a)) es
  | [] => rfl
  | e :: rest => by simp only [Expr.mapAll, e.map_map f g, Expr.mapAll_mapAll f g rest]
end

theorem Expr.lastName?_map (f : α → β) : ∀ e : Expr α, (e.map f).lastName? = e.lastName?
  | .identifier _ => rfl
  | .binary _ _ right _ => right.lastName?_map f
  | .unary _ argument _ => argument.lastName?_map f
  | .number .. | .hex .. | .percent .. | .call .. | .group .. => rfl

theorem Stops.relocate {rank : Rank} {e e' : Expr Located} {ts us : List Token} (h : Stops rank e ts)
    (tree : e'.bare = e.bare) (same : us.map Token.bare = ts.map Token.bare) : Stops rank e' us := by
  have names : e'.lastName? = e.lastName? := by
    rw [← e'.lastName?_map fun _ => (), ← e.lastName?_map fun _ => ()]
    exact congrArg Expr.lastName? tree
  intro u next
  have heads := congrArg List.head? same
  rw [List.head?_map, List.head?_map, next] at heads
  obtain ⟨t, first, word⟩ := Option.map_eq_some_iff.mp heads.symm
  rw [names, ← (Token.bare_eq word).1]
  exact h t first

namespace ReadsAll

theorem relocate {body : List (Statement Located)} {ts : List Token} (h : ReadsAll body ts) :
    ∀ us : List Token, us.map Token.bare = ts.map Token.bare → ∃ body', ReadsAll body' us ∧
      body'.map (Statement.map fun _ => ()) = body.map (Statement.map fun _ => ()) := by
  induction h with
  | nil =>
    intro us same
    cases List.map_eq_nil_iff.mp same
    exact ⟨[], .nil, rfl⟩
  | cons read stops _ ih =>
    intro us same
    rw [List.map_append] at same
    obtain ⟨front, back, rfl, fronts, backs⟩ := List.map_eq_append_iff.mp same
    obtain ⟨_, first, alike⟩ := read.relocate front fronts
    obtain ⟨others, later, trees⟩ := ih back backs
    cases alike with
    | expr tree =>
      refine ⟨_, .cons first (stops.relocate tree backs) later, ?_⟩
      have statement := congrArg (Statement.mk · ()) tree
      rw [List.map_cons, List.map_cons, trees]
      exact congrArg (· :: _) statement

end ReadsAll

end StyleValue

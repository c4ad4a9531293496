import StyleValue.Proofs.Acceptance
import StyleValue.Proofs.Reparse

/-! Tokens that read alike. A reader of tokens never looks at what a token says that the lexer could not
place, so with such a token changed it reads the same tree, or stops at the same token for the same
cause. -/
namespace StyleValue

/-- The second token may stand for the first one: it has the same kind and, where the lexer placed it,
the same value. -/
def Token.Alike (t u : Token) : Prop := u.kind = t.kind ∧ (t.kind ≠ .error → u.value = t.value)

/-- What an error says without the words of the token that it names. -/
def SyntaxError.sort (e : SyntaxError) : Cause × TokenKind := (e.cause, e.token.kind)

theorem SyntaxError.construct_eq {e f : SyntaxError} (cause : f.cause = e.cause) :
    f.construct = e.construct := by
  rw [construct, construct, cause]

namespace Frontier

theorem next?_error (f : Frontier) {t : Token} (kind : t.kind = .error) :
    f.next? t = none := by
  cases f with | mk brackets phase =>
  have closed : opens brackets t = none := by simp [opens, kind]
  have ended : goesOn brackets t = none := by
    unfold goesOn
    simp only [kind, Level.joins, TokenKind.isSign]
    cases brackets with
    | nil => simp [opens, kind]
    | cons b outer => cases b <;> simp
  cases phase <;> simp [next?, kind, closed, ended]

theorem next?_bare (f : Frontier) (t : Token) : f.next? t.bare = f.next? t := rfl

end Frontier

namespace Token.Alike

variable {t u : Token}

theorem refl (t : Token) : t.Alike t := ⟨rfl, fun _ => rfl⟩

theorem bare_eq (h : t.Alike u) (placed : t.kind ≠ .error) : u.bare = t.bare := by
  rw [bare, bare, h.1, h.2 placed]

theorem next?_eq (h : t.Alike u) (f : Frontier) : f.next? u = f.next? t := by
  by_cases fault : t.kind = .error
  · rw [f.next?_error fault, f.next?_error (h.1.trans fault)]
  · rw [← f.next?_bare u, h.bare_eq fault]
    rfl

theorem digits?_eq (h : t.Alike u) : u.digits? = t.digits? := by
  unfold digits?
  rw [h.1]
  cases kind : t.kind <;> first | rfl | rw [h.2 (by simp [kind])]

theorem converts_eq (h : t.Alike u) : u.converts = t.converts := by
  rw [converts, converts, h.digits?_eq]

theorem fault_eq (h : t.Alike u) : u.fault = t.fault := by
  rw [fault, fault, h.1, h.digits?_eq]

end Token.Alike

section

variable {ts us : List Token}

theorem alike_refl (ts : List Token) : List.Forall₂ Token.Alike ts ts :=
  List.forall₂_same.mpr fun t _ => .refl t

theorem alike_of_bare (same : us.map Token.bare = ts.map Token.bare) :
    List.Forall₂ Token.Alike ts us := by
  induction ts generalizing us with
  | nil =>
    cases List.map_eq_nil_iff.mp same
    exact .nil
  | cons t ts ih =>
    obtain ⟨u, us, rfl, first, others⟩ := List.map_eq_cons_iff.mp same
    obtain ⟨kind, value⟩ := Token.bare_eq first
    exact .cons ⟨kind, fun _ => value⟩ (ih others)

theorem bare_of_alike (alike : List.Forall₂ Token.Alike ts us) (placed : ∀ t ∈ ts, t.kind ≠ .error) :
    us.map Token.bare = ts.map Token.bare := by
  induction alike with
  | nil => rfl
  | cons first _ ih =>
    obtain ⟨here, behind⟩ := List.forall_mem_cons.mp placed
    rw [List.map_cons, List.map_cons, first.bare_eq here, ih behind]

theorem kinds_of_alike (alike : List.Forall₂ Token.Alike ts us) :
    us.map Token.kind = ts.map Token.kind := by
  induction alike with
  | nil => rfl
  | cons first _ ih => rw [List.map_cons, List.map_cons, first.1, ih]

theorem converts_of_alike (alike : List.Forall₂ Token.Alike ts us) :
    (∀ u ∈ us, u.converts = true) ↔ ∀ t ∈ ts, t.converts = true := by
  induction alike with
  | nil => simp
  | cons first _ ih => rw [List.forall_mem_cons, List.forall_mem_cons, first.converts_eq, ih]

/-! ### Outcomes -/

theorem Frontier.scan_alike {stop stop' : Token} (ends : stop'.kind = stop.kind)
    (alike : List.Forall₂ Token.Alike ts us) (f : Frontier) :
    (f.scan stop' us).mapError SyntaxError.sort = (f.scan stop ts).mapError SyntaxError.sort := by
  induction alike generalizing f with
  | nil =>
    unfold scan
    cases f.final with
    | true => rfl
    | false => exact congrArg (fun kind => Except.error (f.missing, kind)) ends
  | @cons t u ts us first _ ih =>
    unfold scan
    rw [first.next?_eq, first.converts_eq, first.fault_eq]
    cases f.next? t with
    | none => exact congrArg (fun kind => Except.error (f.missing, kind)) first.1
    | some g =>
      cases t.converts with
      | true => exact ih g
      | false => exact congrArg (fun kind => Except.error (t.fault, kind)) first.1

namespace Parser

theorem accepts_alike {stop stop' : Token} (ends : stop.kind = .endOfInput)
    (ends' : stop'.kind = .endOfInput) (alike : List.Forall₂ Token.Alike ts us) :
    (∃ q, program stop' us = .ok q) ↔ ∃ p, program stop ts = .ok p := by
  rw [program_accepts_iff ends, program_accepts_iff ends', kinds_of_alike alike, converts_of_alike alike]

/-- Tokens that read alike make the same program or fail for the same cause at tokens of one kind. -/
theorem program_alike {stop stop' : Token} (ends : stop.kind = .endOfInput)
    (ends' : stop'.kind = .endOfInput) (alike : List.Forall₂ Token.Alike ts us) :
    match program stop ts, program stop' us with
    | .ok p, .ok q => q.bare = p.bare
    | .error e, .error f => f.sort = e.sort
    | _, _ => False := by
  have accepts := accepts_alike ends ends' alike
  have follow := program_follows ends ts
  have follow' := program_follows ends' us
  cases parsed : program stop ts with
  | ok p =>
    rw [parsed] at follow
    cases parsed' : program stop' us with
    | error f => simp [parsed, parsed'] at accepts
    | ok q =>
      obtain ⟨body, reread, trees⟩ :=
        follow.1.relocate us (bare_of_alike alike follow.1.ne_error)
      obtain ⟨q', again, rfl⟩ := reread.program_eq stop'
      obtain rfl := Except.ok.inj (parsed'.symm.trans again)
      exact congrArg (Program.mk · ()) trees
  | error e =>
    rw [parsed] at follow
    cases parsed' : program stop' us with
    | ok q => simp [parsed, parsed'] at accepts
    | error f =>
      rw [parsed'] at follow'
      have sorts := Frontier.scan_alike (ends'.trans ends.symm) alike .start
      rw [follow, follow'] at sorts
      exact Except.error.inj sorts

end Parser

end

end StyleValue

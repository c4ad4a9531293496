import StyleValue.Proofs.Likeness

/-! What a reader of tokens does not see. It copies places and never asks for them, and of the words that
it refuses it only asks whether they are layout. Other tokens that agree with the first ones in all the
rest have the same outcome, with places and values changed as those of the tokens are. -/
namespace StyleValue

def Span.map (f : Position → Position) (s : Span) : Span := ⟨f s.start, f s.stop⟩

/-- A change of the places and values of tokens. The origin stays, and breaks stay breaks. -/
structure Recast where
  place : Position → Position
  value : Text → Text
  origin : place .origin = .origin
  empty : value [] = []
  layout : ∀ v : Text, ((value v).all fun c => c = '\r' || c = '\n') =
    v.all fun c => c = '\r' || c = '\n'

namespace Recast

def located (r : Recast) (s : Located) : Located := s.map (Span.map r.place)

def token (r : Recast) (t : Token) : Token := ⟨t.kind, r.value t.value, r.located t.span⟩

def phrase (r : Recast) : Phrase → Phrase
  | .expr rank e => .expr rank (e.map r.located)
  | .arguments es => .arguments (Expr.mapAll r.located es)

def outcome (r : Recast) : Except SyntaxError (Program Located) → Except SyntaxError (Program Located)
  | .ok p => .ok (p.map r.located)
  | .error e => .error ⟨e.cause, r.token e.token⟩

variable (r : Recast)

theorem covered_eq (ts : List Token) : covered (ts.map r.token) = r.located (covered ts) := by
  have cover : ∀ a b : Option Token, Span.cover? ((a.map r.token).bind Token.span)
      ((b.map r.token).bind Token.span) =
        r.located (Span.cover? (a.bind Token.span) (b.bind Token.span)) := by
    rintro (_ | ⟨_, _, _ | _⟩) (_ | ⟨_, _, _ | _⟩) <;> rfl
  rw [covered, List.head?_map, List.getLast?_map, cover]
  rfl

/-! ### Readings -/

theorem node {rank : Rank} (tree : Located → Expr Located) {ts us : List Token}
    (words : ts.map r.token = us) (read : Reads (.expr rank (tree (covered us))) us) :
    Reads (.expr rank (tree (r.located (covered ts)))) (ts.map r.token) := by
  rw [← r.covered_eq, words]
  exact read

theorem reads {phrase : Phrase} {ts : List Token} (h : Reads phrase ts)
    (keeps : ∀ t ∈ ts, (r.token t).value = t.value) : Reads (r.phrase phrase) (ts.map r.token) := by
  induction h with
  | @number t value kind digits =>
    exact @Reads.number (r.token t) value kind (keeps t (by simp) ▸ digits)
  | @percent t value kind digits =>
    exact @Reads.percent (r.token t) value kind (keeps t (by simp) ▸ digits)
  | @hex t kind =>
    have read := @Reads.hex (r.token t) kind
    rw [keeps t (by simp)] at read
    exact read
  | @name t kind =>
    have read := @Reads.name (r.token t) kind
    rw [keeps t (by simp)] at read
    exact read
  | @emptyCall t paren close kind opens closes =>
    have read := @Reads.emptyCall (r.token t) (r.token paren) (r.token close) kind opens closes
    rw [keeps t (by simp)] at read
    exact r.node (.call ⟨t.value, r.located t.span⟩ []) rfl read
  | @call t paren close es ts kind opens _ closes ih =>
    have inside := ih fun u member => keeps u (by simp [member])
    have read := @Reads.call (r.token t) (r.token paren) (r.token close) _ _ kind opens inside closes
    rw [keeps t (by simp)] at read
    exact r.node (.call ⟨t.value, r.located t.span⟩ (Expr.mapAll r.located es)) (by simp) read
  | @group paren close e ts opens _ closes ih =>
    have inside := ih fun u member => keeps u (by simp [member])
    have read := @Reads.group (r.token paren) (r.token close) _ _ opens inside closes
    exact r.node (.group (e.map r.located)) (by simp) read
  | primary _ ih => exact (ih keeps).primary
  | operand _ ih => exact (ih keeps).operand
  | argument _ ih => exact (ih keeps).argument
  | @sign t e ts sign _ ih =>
    have read := @Reads.sign (r.token t) _ _ sign (ih fun u member => keeps u (by simp [member]))
    rw [keeps t (by simp)] at read
    exact r.node (.unary t.value (e.map r.located)) rfl read
  | @binary level op left right ts us _ joins _ ihLeft ihRight =>
    have first := ihLeft fun u member => keeps u (by simp [member])
    have second := ihRight fun u member => keeps u (by simp [member])
    have read := @Reads.binary level (r.token op) _ _ _ _ first joins second
    rw [keeps op (by simp)] at read
    exact r.node (.binary op.value (left.map r.located) (right.map r.located)) (by simp) read
  | @arguments comma e es ts us _ separates _ ihFirst ihOthers =>
    have first := ihFirst fun u member => keeps u (by simp [member])
    have others := ihOthers fun u member => keeps u (by simp [member])
    rw [List.map_append]
    exact @Reads.arguments (r.token comma) _ _ _ _ first separates others

theorem stops {rank : Rank} {e : Expr Located} {ts : List Token} (h : Stops rank e ts) :
    Stops rank (e.map r.located) (ts.map r.token) := by
  intro u next
  rw [List.head?_map] at next
  obtain ⟨t, first, rfl⟩ := Option.map_eq_some_iff.mp next
  rw [Expr.lastName?_map]
  exact h t first

theorem readsAll {body : List (Statement Located)} {ts : List Token} (h : ReadsAll body ts)
    (keeps : ∀ t ∈ ts, (r.token t).value = t.value) :
    ReadsAll (body.map (Statement.map r.located)) (ts.map r.token) := by
  induction h with
  | nil => exact .nil
  | cons read stops _ ih =>
    obtain ⟨here, behind⟩ := List.forall_mem_append.mp keeps
    have all := ReadsAll.cons (r.reads read here) (r.stops stops) (ih behind)
    rw [r.covered_eq, ← List.map_append] at all
    exact all

/-! ### Failures -/

theorem alike {t : Token} (keeps : t.kind ≠ .error → (r.token t).value = t.value) :
    t.Alike (r.token t) := ⟨rfl, keeps⟩

theorem scan_eq (stop : Token) (f : Frontier) {ts : List Token}
    (keeps : ∀ t ∈ ts, t.kind ≠ .error → (r.token t).value = t.value) :
    f.scan (r.token stop) (ts.map r.token) =
      (f.scan stop ts).mapError fun e => ⟨e.cause, r.token e.token⟩ := by
  induction ts generalizing f with
  | nil =>
    unfold Frontier.scan
    rw [List.map_nil]
    cases f.final <;> rfl
  | cons t ts ih =>
    obtain ⟨here, behind⟩ := List.forall_mem_cons.mp keeps
    have alike := r.alike here
    rw [List.map_cons, Frontier.scan, Frontier.scan, alike.next?_eq, alike.converts_eq, alike.fault_eq]
    cases f.next? t with
    | none => rfl
    | some g =>
      cases t.converts with
      | true => exact ih g behind
      | false => rfl

/-! ### Programs -/

theorem program_eq {stop : Token} (ends : stop.kind = .endOfInput) {ts : List Token}
    (keeps : ∀ t ∈ ts, t.kind ≠ .error → (r.token t).value = t.value) :
    Parser.program (r.token stop) (ts.map r.token) = r.outcome (Parser.program stop ts) := by
  have follow := Parser.program_follows ends ts
  have ends' : (r.token stop).kind = .endOfInput := ends
  have follow' := Parser.program_follows ends' (ts.map r.token)
  cases parsed : Parser.program stop ts with
  | ok p =>
    rw [parsed] at follow
    obtain ⟨read, note⟩ := follow
    have reread := r.readsAll read fun t member => keeps t member (read.ne_error t member)
    obtain ⟨q, parsed', same⟩ := reread.program_eq (r.token stop)
    rw [parsed'] at follow' ⊢
    have note' : q.note = r.located p.note := by
      rw [follow'.2, note, r.covered_eq]
      cases ts <;> rfl
    cases q
    exact congrArg Except.ok (congrArg₂ Program.mk same note')
  | error e =>
    rw [parsed] at follow
    have failed := r.scan_eq stop .start keeps
    rw [follow] at failed
    cases parsed' : Parser.program (r.token stop) (ts.map r.token) with
    | ok q =>
      obtain ⟨derived, converts⟩ := (Parser.program_accepts_iff ends' _).mp ⟨q, parsed'⟩
      rw [List.map_map] at derived
      have accepted := (Parser.program_accepts_iff ends ts).mpr ⟨derived, fun t member => by
        rw [← (r.alike (keeps t member)).converts_eq]
        exact converts _ (List.mem_map_of_mem member)⟩
      simp [parsed] at accepted
    | error e' =>
      rw [parsed'] at follow'
      exact congrArg Except.error (Except.error.inj (follow'.symm.trans failed))

theorem isLayout_eq (t : Token) : (r.token t).isLayout = t.isLayout := by
  unfold Token.isLayout
  cases kind : t.kind <;> simp [token, kind, r.layout]

theorem withoutLayout_eq (ts : List Token) :
    withoutLayout (ts.map r.token) = (withoutLayout ts).map r.token := by
  have layout : (fun t => !Token.isLayout t) ∘ r.token = fun t => !t.isLayout :=
    funext fun t => congrArg (!·) (r.isLayout_eq t)
  rw [withoutLayout, List.filter_map, layout]
  rfl

theorem endToken_eq (ts : List Token) : endToken (ts.map r.token) = r.token (endToken ts) := by
  unfold endToken
  rw [List.getLast?_map]
  cases ts.getLast? with
  | none => simp [token, located, Span.map, Span.at, r.origin, r.empty]
  | some t => cases span : t.span <;> simp [token, located, Span.map, Span.at, r.empty, span]

theorem ofTokens_eq (ts : List Token) : Significant.ofTokens (ts.map r.token) =
    ⟨(Significant.ofTokens ts).tokens.map r.token, r.token (Significant.ofTokens ts).stop⟩ := by
  have word : (fun t : Token => t.kind != .endOfInput) ∘ r.token = fun t => t.kind != .endOfInput := rfl
  have first : ∀ (us : List Token) (stop : Token),
      (us.map r.token).headD (r.token stop) = r.token (us.headD stop) := by
    intro us stop
    cases us <;> rfl
  unfold Significant.ofTokens
  dsimp only
  rw [r.withoutLayout_eq, List.takeWhile_map, List.dropWhile_map, word, List.isEmpty_map, ← first,
    ← r.endToken_eq]
  split <;> rfl

/-- What is read from changed tokens is what is read from the tokens, changed alike. -/
theorem parseTokens_eq {ts : List Token}
    (keeps : ∀ t ∈ ts, t.kind ≠ .error → (r.token t).value = t.value) :
    parseTokens (ts.map r.token) = r.outcome (parseTokens ts) := by
  unfold parseTokens
  rw [r.ofTokens_eq]
  refine r.program_eq (Significant.kind_stop ts) fun t member => keeps t ?_
  exact List.mem_of_mem_filter ((List.takeWhile_prefix _).subset member)

end Recast

end StyleValue

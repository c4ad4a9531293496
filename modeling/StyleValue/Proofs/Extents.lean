import StyleValue.Proofs.Reparse
import StyleValue.Proofs.Tiling

/-! Where the nodes of a tree are. Each node reaches from its first word to its last one, so its parts lie
inside of it, one behind another. -/
namespace StyleValue

namespace Position

/-- A place that is not behind another, by its offset as well as by its line and column. -/
instance : LE Position where
  le p q := p.offset ≤ q.offset ∧ (p.line < q.line ∨ p.line = q.line ∧ p.column ≤ q.column)

theorem le_refl (p : Position) : p ≤ p := ⟨Int.le_refl _, .inr ⟨rfl, Int.le_refl _⟩⟩

theorem le_trans {p q r : Position} (first : p ≤ q) (second : q ≤ r) : p ≤ r := by
  obtain ⟨offset, place⟩ := first
  obtain ⟨offset', place'⟩ := second
  exact ⟨by omega, by omega⟩

theorem le_after (p : Position) (c : Char) (rest : Text) : p ≤ p.after c rest := by
  unfold after
  split
  · refine ⟨?_, .inl ?_⟩ <;> dsimp only <;> omega
  · refine ⟨?_, .inr ⟨rfl, ?_⟩⟩ <;> dsimp only <;> omega

theorem le_afterText (p : Position) (t : Text) : p ≤ p.afterText t := by
  induction t generalizing p with
  | nil => exact p.le_refl
  | cons c rest ih => exact le_trans (p.le_after c rest) (ih _)

end Position

/-! ### Tokens in order -/

/-- Tokens with spans, of which each ends where the next one begins or in front of that. -/
structure Ordered (ts : List Token) : Prop where
  located : ∀ t ∈ ts, ∃ span, t.span = some span ∧ span.start ≤ span.stop
  apart : ts.Pairwise fun t u => ∀ a ∈ t.span, ∀ b ∈ u.span, a.stop ≤ b.start

theorem Tiles.behind {p : Position} {text : Text} {ts : List Token} (h : Tiles p text ts) :
    ∀ t ∈ ts, ∀ span ∈ t.span, p ≤ span.start := by
  induction h with
  | nil => simp
  | @cons p t rest ts _ located _ _ ih =>
    refine List.forall_mem_cons.mpr ⟨fun span here => ?_, fun u member span here => ?_⟩
    · cases located.symm.trans here
      exact p.le_refl
    · exact Position.le_trans (p.le_afterText t.value) (ih u member span here)

theorem Tiles.ordered {p : Position} {text : Text} {ts : List Token} (h : Tiles p text ts) :
    Ordered ts := by
  induction h with
  | nil => exact ⟨by simp, .nil⟩
  | @cons p t rest ts _ located _ others ih =>
    constructor
    · exact List.forall_mem_cons.mpr ⟨⟨_, located, p.le_afterText t.value⟩, ih.located⟩
    · refine List.pairwise_cons.mpr ⟨fun u member a first b later => ?_, ih.apart⟩
      cases located.symm.trans first
      exact others.behind u member b later

namespace Ordered

variable {ts us vs : List Token}

theorem sublist (h : Ordered ts) (part : us.Sublist ts) : Ordered us :=
  ⟨fun t member => h.located t (part.subset member), h.apart.sublist part⟩

theorem covered_eq (h : Ordered ts) (filled : ts ≠ []) : ∃ first ∈ ts.head?, ∃ last ∈ ts.getLast?,
    ∃ a ∈ first.span, ∃ b ∈ last.span, covered ts = some ⟨a.start, b.stop⟩ := by
  obtain ⟨first, head⟩ := Option.isSome_iff_exists.mp (List.isSome_head?.mpr filled)
  obtain ⟨last, final⟩ := Option.isSome_iff_exists.mp (List.getLast?_isSome.mpr filled)
  obtain ⟨a, start, _⟩ := h.located first (List.mem_of_head? head)
  obtain ⟨b, stop, _⟩ := h.located last (List.mem_of_getLast? final)
  refine ⟨first, head, last, final, a, start, b, stop, ?_⟩
  simp [covered, head, final, start, stop, Span.cover?]

theorem contains (h : Ordered ts) {span : Span} (whole : covered ts = some span) :
    ∀ t ∈ ts, ∀ inner ∈ t.span, span.start ≤ inner.start ∧ inner.stop ≤ span.stop := by
  intro t member inner here
  obtain ⟨first, head, last, final, a, start, b, stop, bounds⟩ := h.covered_eq (List.ne_nil_of_mem member)
  cases whole.symm.trans bounds
  constructor
  · obtain ⟨rest, rfl⟩ := List.head?_eq_some_iff.mp head
    rcases List.mem_cons.mp member with rfl | later
    · cases start.symm.trans here
      exact Position.le_refl _
    · obtain ⟨span, located, order⟩ := h.located first List.mem_cons_self
      cases located.symm.trans start
      exact Position.le_trans order (List.rel_of_pairwise_cons h.apart later a start inner here)
  · obtain ⟨front, rfl⟩ := List.getLast?_eq_some_iff.mp final
    rcases List.mem_append.mp member with earlier | same
    · obtain ⟨span, located, order⟩ :=
        h.located last (List.mem_append_right _ (List.mem_singleton_self _))
      cases located.symm.trans stop
      have before := (List.pairwise_append.mp h.apart).2.2 t earlier last (List.mem_singleton_self _)
      exact Position.le_trans (before inner here b stop) order
    · cases List.mem_singleton.mp same
      cases stop.symm.trans here
      exact Position.le_refl _

theorem covered_subset (h : Ordered ts) (part : us.Sublist ts) (filled : us ≠ []) :
    ∃ outer ∈ covered ts, ∃ inner ∈ covered us, outer.start ≤ inner.start ∧ inner.stop ≤ outer.stop := by
  have whole : ts ≠ [] := by
    rintro rfl
    exact filled (List.sublist_nil.mp part)
  obtain ⟨_, _, _, _, _, _, _, _, outer⟩ := h.covered_eq whole
  obtain ⟨first, head, last, final, a, start, b, stop, inner⟩ := (h.sublist part).covered_eq filled
  refine ⟨_, outer, _, inner, ?_, ?_⟩
  · exact (h.contains outer first (part.subset (List.mem_of_head? head)) a start).1
  · exact (h.contains outer last (part.subset (List.mem_of_getLast? final)) b stop).2

theorem covered_apart (h : Ordered (us ++ vs)) {fore back : List Token} (front : fore.Sublist us)
    (behind : back.Sublist vs) (filled : fore ≠ []) (filled' : back ≠ []) :
    ∃ a ∈ covered fore, ∃ b ∈ covered back, a.stop ≤ b.start := by
  have whole := h.sublist (front.append behind)
  obtain ⟨_, _, last, final, a, _, b, stop, covers⟩ :=
    (whole.sublist (List.sublist_append_left fore back)).covered_eq filled
  obtain ⟨first, head, _, _, c, start, d, _, covers'⟩ :=
    (whole.sublist (List.sublist_append_right fore back)).covered_eq filled'
  refine ⟨_, covers, _, covers', ?_⟩
  exact (List.pairwise_append.mp whole.apart).2.2 last (List.mem_of_getLast? final) first
    (List.mem_of_head? head) b stop c start

end Ordered

/-! ### Nodes and their words -/

/-- Two parts of one node of which the first stands in front of the second. -/
inductive Step.Before : Step → Step → Prop where
  | body {i j : Nat} : i < j → Before (.body i) (.body j)
  | operands : Before .left .right
  | callee {i : Nat} : Before .callee (.arguments i)
  | arguments {i j : Nat} : i < j → Before (.arguments i) (.arguments j)

variable {α : Type}

theorem length_take_flatMap {β γ : Type} {l : List β} {x : β} {i j : Nat} (f : β → List γ)
    (listed : l[i]? = some x) (before : i < j) :
    ((l.take i).flatMap f).length + (f x).length ≤ ((l.take j).flatMap f).length := by
  have one : l.take (i + 1) = l.take i ++ [x] := by rw [List.take_add_one, listed, Option.toList_some]
  obtain ⟨more, whole⟩ := List.take_prefix_take_left (l := l) before
  rw [← whole, one]
  simp only [List.flatMap_append, List.flatMap_singleton, List.length_append]
  omega

namespace Node

theorem lead_before {n m m' : Node α} {s s' : Step} (order : s.Before s') (first : n.part? s = some m)
    (second : n.part? s' = some m') : n.lead s + m.lexemes.length ≤ n.lead s' := by
  cases order with
  | body before =>
    cases n with
    | program p =>
      obtain ⟨s, listed, rfl⟩ := Option.map_eq_some_iff.mp first
      exact length_take_flatMap _ listed before
    | statement => cases first
    | expression e => cases e <;> cases first
  | operands =>
    cases n with
    | expression e =>
      cases e <;> cases first
      simp only [lead, lexemes]
      omega
    | _ => cases first
  | callee =>
    cases n with
    | expression e =>
      cases e <;> cases first
      exact Nat.le_add_right_of_le (by decide : 1 ≤ 2)
    | _ => cases first
  | arguments before =>
    cases n with
    | expression e =>
      cases e with
      | call callee es =>
        obtain ⟨e, listed, rfl⟩ := Option.map_eq_some_iff.mp first
        have bound := length_take_flatMap (fun e : Expr α => e.lexemes ++ [.comma]) listed before
        rw [List.length_append] at bound
        simp only [lead, lexemes]
        omega
      | _ => cases first
    | _ => cases first

theorem expression_kind (e : Expr α) : (expression e).kind ≠ .program := by
  cases e <;> exact nofun

theorem part?_kind {n m : Node α} {step : Step} (found : n.part? step = some m) : m.kind ≠ .program := by
  unfold part? at found
  split at found
  · obtain ⟨_, _, rfl⟩ := Option.map_eq_some_iff.mp found
    exact nofun
  case h_8 =>
    obtain ⟨_, _, rfl⟩ := Option.map_eq_some_iff.mp found
    exact expression_kind _
  all_goals
    cases found
    try exact expression_kind _

namespace ReadFrom

variable {n m : Node Located} {ts : List Token}

theorem note_eq (h : n.ReadFrom ts) (inner : n.kind ≠ .program) : n.note = covered ts := by
  cases h with
  | program => exact absurd rfl inner
  | statement _ note => exact note
  | expression read => exact read.note_eq

theorem ne_nil (h : n.ReadFrom ts) (inner : n.kind ≠ .program) : ts ≠ [] := by
  cases h with
  | program => exact absurd rfl inner
  | statement read | expression read => exact read.ne_nil

theorem part_inside {step : Step} (h : n.ReadFrom ts) (ordered : Ordered ts)
    (part : n.part? step = some m) : ∃ outer ∈ covered ts, ∃ inner ∈ m.note,
      outer.start ≤ inner.start ∧ inner.stop ≤ outer.stop := by
  obtain ⟨before, us, after, rfl, _, inner⟩ := h.part part
  rw [inner.note_eq (part?_kind part)]
  apply ordered.covered_subset
  · exact (List.sublist_append_right before us).trans (List.sublist_append_left _ after)
  · exact inner.ne_nil (part?_kind part)

theorem parts_apart {m' : Node Located} {s s' : Step} (h : n.ReadFrom ts) (ordered : Ordered ts)
    (order : s.Before s') (first : n.part? s = some m) (second : n.part? s' = some m') :
    ∃ a ∈ m.note, ∃ b ∈ m'.note, a.stop ≤ b.start := by
  obtain ⟨before, us, after, split, lead, one⟩ := h.part first
  obtain ⟨before', us', after', split', lead', other⟩ := h.part second
  have bound := lead_before order first second
  -- The second part begins behind `n.lead s'` tokens, and the first has ended by then.
  have front : before ++ us <+: ts.take (n.lead s') := by
    refine List.prefix_take_iff.mpr ⟨⟨after, split.symm⟩, ?_⟩
    rwa [List.length_append, lead, ← one.spells.length_eq]
  have behind : us'.Sublist (ts.drop (n.lead s')) := by
    rw [split', ← lead', List.append_assoc, List.drop_left]
    exact List.sublist_append_left us' after'
  have whole : Ordered (ts.take (n.lead s') ++ ts.drop (n.lead s')) := by
    rwa [List.take_append_drop]
  rw [one.note_eq (part?_kind first), other.note_eq (part?_kind second)]
  apply whole.covered_apart _ behind
  · exact one.ne_nil (part?_kind first)
  · exact other.ne_nil (part?_kind second)
  · exact (List.sublist_append_right before us).trans front.sublist

end ReadFrom

/-- The words that a node takes from those of the tree it belongs to. -/
def words (root : Node α) (path : List Step) (n : Node α) (ws : List Token) : List Token :=
  (ws.drop (root.offset path)).take n.lexemes.length

/-- Only the empty path leads to a program. -/
theorem at?_kind {n m : Node α} {step : Step} {path : List Step}
    (found : n.at? (step :: path) = some m) : m.kind ≠ .program := by
  induction path generalizing n step with
  | nil =>
    obtain ⟨node, part, here⟩ := at?_cons found
    cases here
    exact part?_kind part
  | cons next path ih =>
    obtain ⟨node, _, later⟩ := at?_cons found
    exact ih later

end Node

theorem ReadsAll.first {body : List (Statement Located)} {ts : List Token} (h : ReadsAll body ts) :
    ∀ s ∈ body.head?, ∃ us rest, ts = us ++ rest ∧ us ≠ [] ∧ s.note = covered us := by
  cases h with
  | nil => simp
  | cons read _ _ =>
    intro s first
    cases first
    exact ⟨_, _, rfl, read.ne_nil, rfl⟩

theorem ReadsAll.last {body : List (Statement Located)} {ts : List Token} (h : ReadsAll body ts) :
    ∀ s ∈ body.getLast?, ∃ front us, ts = front ++ us ∧ us ≠ [] ∧ s.note = covered us := by
  induction h with
  | nil => simp
  | @cons e ts us others read _ later ih =>
    cases later with
    | nil =>
      intro s last
      cases last
      exact ⟨[], ts, List.append_nil ts, read.ne_nil, rfl⟩
    | cons =>
      intro s last
      rw [List.getLast?_cons_cons] at last
      obtain ⟨front, vs, whole, filled, note⟩ := ih s last
      exact ⟨ts ++ front, vs, by rw [whole, List.append_assoc], filled, note⟩

theorem ReadsAll.nil_iff {body : List (Statement Located)} {ts : List Token} (h : ReadsAll body ts) :
    body = [] ↔ ts = [] := by
  cases h with
  | nil => exact iff_of_true rfl rfl
  | cons read => exact iff_of_false (by simp) (by simp [read.ne_nil])

/-- Where the nodes of a program are, as its words and the end of the input tell it. -/
structure Program.Placed (p : Program Located) (ws : List Token) (finish : Position) : Prop where
  located : ∀ {path n}, (Node.program p).at? path = some n → ∃ span, n.note = some span
  words : p.body ≠ [] → ∀ {path n}, (Node.program p).at? path = some n →
    List.Forall₂ Lexeme.Spells n.lexemes ((Node.program p).words path n ws) ∧
      ∃ first ∈ ((Node.program p).words path n ws).head?,
        ∃ last ∈ ((Node.program p).words path n ws).getLast?,
          ∃ a ∈ first.span, ∃ b ∈ last.span, n.note = some ⟨a.start, b.stop⟩
  inside : ∀ {path n step m}, (Node.program p).at? path = some n → n.part? step = some m →
    ∃ outer ∈ n.note, ∃ inner ∈ m.note, outer.start ≤ inner.start ∧ inner.stop ≤ outer.stop
  siblings : ∀ {path n s s' m m'}, (Node.program p).at? path = some n → s.Before s' →
    n.part? s = some m → n.part? s' = some m' → ∃ a ∈ m.note, ∃ b ∈ m'.note, a.stop ≤ b.start
  whole : ∀ s ∈ p.body.head?, ∀ s' ∈ p.body.getLast?, ∃ a ∈ s.note, ∃ b ∈ s'.note,
    p.note = some ⟨a.start, b.stop⟩
  empty : p.body = [] → p.note = some (.at finish)

section

variable {p : Program Located} {ws : List Token}

theorem Node.words_eq {n m : Node Located} {path : List Step} {before us after : List Token}
    (read : m.ReadFrom us) (lead : before.length = n.offset path) :
    n.words path m (before ++ us ++ after) = us := by
  rw [words, ← lead, List.append_assoc, List.drop_left, read.spells.length_eq, List.take_left]

theorem ReadsAll.node (h : ReadsAll p.body ws) (filled : ws ≠ []) (note : p.note = covered ws)
    {path : List Step} {n : Node Located} (found : (Node.program p).at? path = some n) :
    ∃ us, us.Sublist ws ∧ us ≠ [] ∧ n.ReadFrom us ∧ (Node.program p).words path n ws = us ∧
      n.note = covered us := by
  have root : (Node.program p).ReadFrom ws := .program h
  cases path with
  | nil =>
    cases found
    have taken := @Node.words_eq (.program p) _ [] [] _ [] root rfl
    rw [List.nil_append, List.append_nil] at taken
    exact ⟨ws, List.Sublist.refl ws, filled, root, taken, note⟩
  | cons step path =>
    have inner := Node.at?_kind found
    obtain ⟨before, us, after, rfl, lead, read⟩ := root.descendant found
    refine ⟨us, ?_, read.ne_nil inner, read, Node.words_eq read lead, read.note_eq inner⟩
    exact (List.sublist_append_right before us).trans (List.sublist_append_left _ after)

theorem ReadsAll.ends (h : ReadsAll p.body ws) (ordered : Ordered ws) :
    ∀ s ∈ p.body.head?, ∀ s' ∈ p.body.getLast?, ∃ a ∈ s.note, ∃ b ∈ s'.note,
      covered ws = some ⟨a.start, b.stop⟩ := by
  intro s first s' last
  obtain ⟨us, rest, split, some, starts⟩ := h.first s first
  obtain ⟨front, vs, split', some', stops⟩ := h.last s' last
  have heads : ws.head? = us.head? := by rw [split, List.head?_append_of_ne_nil _ some]
  have lasts : ws.getLast? = vs.getLast? := by rw [split', List.getLast?_append_of_ne_nil _ some']
  have fore : us.Sublist ws := split ▸ List.sublist_append_left us rest
  have back : vs.Sublist ws := split' ▸ List.sublist_append_right front vs
  obtain ⟨t, head, _, _, a, start, b, _, covers⟩ := (ordered.sublist fore).covered_eq some
  obtain ⟨_, _, u, final, c, _, d, stop, covers'⟩ := (ordered.sublist back).covered_eq some'
  refine ⟨_, starts.trans covers, _, stops.trans covers', ?_⟩
  rw [covered, heads, lasts, head, final, Option.bind_some, Option.bind_some, start, stop]
  rfl

theorem Program.placed_of_empty {finish : Position} (empty : p.body = [])
    (note : p.note = some (.at finish)) : p.Placed ws finish := by
  -- Without statements the path to the program itself is the only one.
  have childless (step : Step) : (Node.program p).part? step = none := by
    cases step <;> simp [Node.part?, empty]
  have only {path : List Step} {n : Node Located} (found : (Node.program p).at? path = some n) :
      n = .program p := by
    cases path with
    | nil =>
      cases found
      rfl
    | cons step path =>
      obtain ⟨_, part, _⟩ := Node.at?_cons found
      cases (childless step).symm.trans part
  constructor
  case located =>
    intro path n found
    cases only found
    exact ⟨_, note⟩
  case words => exact fun filled => absurd empty filled
  case inside =>
    intro path n step m found part
    cases only found
    cases (childless step).symm.trans part
  case siblings =>
    intro path n s s' m m' found _ first
    cases only found
    cases (childless s).symm.trans first
  case whole => simp [empty]
  case empty => exact fun _ => note

theorem ReadsAll.placed (h : ReadsAll p.body ws) (ordered : Ordered ws) {finish : Position}
    (note : p.note = if ws = [] then some (.at finish) else covered ws) : p.Placed ws finish := by
  by_cases filled : ws = []
  · rw [if_pos filled] at note
    exact Program.placed_of_empty (h.nil_iff.mpr filled) note
  · rw [if_neg filled] at note
    constructor
    case located =>
      intro path n found
      obtain ⟨us, part, filled, _, _, note⟩ := h.node filled note found
      obtain ⟨_, _, _, _, _, _, _, _, covers⟩ := (ordered.sublist part).covered_eq filled
      exact ⟨_, note.trans covers⟩
    case words =>
      intro _ path n found
      obtain ⟨us, part, filled, read, taken, note⟩ := h.node filled note found
      rw [taken, note]
      exact ⟨read.spells, (ordered.sublist part).covered_eq filled⟩
    case inside =>
      intro path n step m found part
      obtain ⟨us, within, _, read, _, note⟩ := h.node filled note found
      rw [note]
      exact read.part_inside (ordered.sublist within) part
    case siblings =>
      intro path n s s' m m' found order first second
      obtain ⟨us, within, _, read, _, _⟩ := h.node filled note found
      exact read.parts_apart (ordered.sublist within) order first second
    case whole =>
      rw [note]
      exact h.ends ordered
    case empty =>
      intro none
      exact absurd (h.nil_iff.mp none) filled

end

/-- Where there is nothing but layout, the end of the input is behind the whole text. -/
theorem stop_of_layout {o : LexOptions} {source : Text} (empty : withoutLayout (tokenize o source) = []) :
    (Significant.ofTokens (tokenize o source)).stop.span = some (.at (o.text source).endPosition) := by
  have tiles : Tiles .origin (o.text source) (tokenize o source) := tokens_tiles _ _
  have behind : (Significant.ofTokens (tokenize o source)).stop = endToken (tokenize o source) := by
    unfold Significant.ofTokens
    rw [empty]
    rfl
  rw [behind, endToken]
  cases last : (tokenize o source).getLast? with
  | none =>
    have nothing := tiles.values
    rw [List.getLast?_eq_none_iff.mp last] at nothing
    rw [← nothing]
    rfl
  | some t =>
    obtain ⟨span, located, stops⟩ := Option.map_eq_some_iff.mp (tiles.stops t last)
    dsimp only
    rw [located, Option.map_some, stops]
    rfl

/-- Every node of a program has a span: from its first word to its last one and never over layout at
its ends, around those of its parts, which stand apart and in order. -/
theorem parse_placed {o : LexOptions} {source : Text} {p : Program Located}
    (parsed : parse o source = .ok p) :
    p.Placed (withoutLayout (tokenize o source)) (o.text source).endPosition := by
  obtain ⟨read, note⟩ := parse_reads parsed
  have tiles : Tiles .origin (o.text source) (tokenize o source) := tokens_tiles _ _
  refine read.placed (tiles.ordered.sublist List.filter_sublist) ?_
  rw [note]
  split
  · exact stop_of_layout ‹_›
  · rfl

set_option maxRecDepth 3000 in
/-- The blanks inside of the brackets belong to the call, those around it do not. -/
theorem parse_placed_call :
    let span : Int → Int → Located := fun i j => some ⟨⟨1, i + 1, i⟩, ⟨1, j + 1, j⟩⟩
    let x : Expr Located := .unary ['-'] (.identifier ⟨['x'], span 5 6⟩) (span 4 6)
    let p : Program Located := ⟨[⟨.call ⟨['f'], span 1 2⟩ [x] (span 1 8), span 1 8⟩], span 1 8⟩
    let source : Text := [' ', 'f', '(', ' ', '-', 'x', ' ', ')', '\n']
    parse .standard source = .ok p ∧
      p.Placed (withoutLayout (tokenize .standard source)) ⟨2, 1, 9⟩ := by
  intro span x p source
  have parsed : parse .standard source = .ok p := by cbv
  exact ⟨parsed, parse_placed parsed⟩

end StyleValue

import StyleValue.Expr.Outline
import StyleValue.Proofs.Lines
import StyleValue.Proofs.Quotations
import StyleValue.Proofs.Records
import StyleValue.Proofs.Relocation

/-! What is written of a tree tells the tree: its JSON form whatever the tree holds, its outline line by
line, and the text of its outline if the tree was read from a text. -/
namespace StyleValue

variable {α : Type}

def Statement.bare (s : Statement α) : Statement Unit := s.map fun _ => ()

namespace Node

/-- The node without its notes. -/
def bare : Node α → Node Unit
  | program p => .program p.bare
  | statement s => .statement s.bare
  | expression e => .expression e.bare

end Node

/-! ### JSON -/

open Json (Same)

theorem Name.text_of_same {m n : Name α} (same : m.toJson.Same n.toJson) : m.text = n.text :=
  (same.field "name" rfl rfl).text_eq

namespace Node

theorem toJson_record (n : Node α) : ∃ fields, n.toJson = n.kind.record fields := by
  cases n with
  | program | statement => exact ⟨_, rfl⟩
  | expression e => cases e <;> exact ⟨_, rfl⟩

theorem kind_of_same {a b : Node α} (same : a.toJson.Same b.toJson) : a.kind = b.kind := by
  obtain ⟨fs, left⟩ := a.toJson_record
  obtain ⟨gs, right⟩ := b.toJson_record
  rw [left, right] at same
  exact NodeKind.name_eq_iff.mp (same.field "type" rfl rfl).text_eq

end Node

namespace Expr

mutual
theorem bare_of_same : ∀ a b : Expr α, a.toJson.Same b.toJson → a.bare = b.bare := by
  intro a b same
  have kinds : a.kind = b.kind := @Node.kind_of_same _ (.expression a) (.expression b) same
  cases a <;> cases b <;> try cases kinds
  case identifier.identifier m n =>
    have names : m.text = n.text := Name.text_of_same same
    rw [bare_identifier, bare_identifier, names]
  case number.number m _ n _ =>
    have values : m = n := (same.field "value" rfl rfl).number_eq
    rw [bare, bare, map, map, values]
  case hex.hex m _ n _ =>
    have values : m = n := (same.field "value" rfl rfl).text_eq
    rw [bare, bare, map, map, values]
  case percent.percent m _ n _ =>
    have values : m = n := (same.field "value" rfl rfl).number_eq
    rw [bare, bare, map, map, values]
  case binary.binary o l r _ o' l' r' _ =>
    have operators : o = o' := (same.field "operator" rfl rfl).text_eq
    have lefts := bare_of_same l l' (same.field "left" rfl rfl)
    have rights := bare_of_same r r' (same.field "right" rfl rfl)
    rw [bare_binary, bare_binary, operators, lefts, rights]
  case unary.unary o e _ o' e' _ =>
    have operators : o = o' := (same.field "operator" rfl rfl).text_eq
    have arguments := bare_of_same e e' (same.field "argument" rfl rfl)
    rw [bare_unary, bare_unary, operators, arguments]
  case call.call f es _ g es' _ =>
    have callees : f.text = g.text := Name.text_of_same (same.field "callee" rfl rfl)
    have arguments := bareAll_of_same es es' (same.field "arguments" rfl rfl).items
    rw [bare_call, bare_call, callees, arguments]
  case group.group e _ e' _ =>
    have inner := bare_of_same e e' (same.field "expression" rfl rfl)
    rw [bare_group, bare_group, inner]

theorem bareAll_of_same : ∀ as bs : List (Expr α), List.Forall₂ Same (toJsonAll as) (toJsonAll bs) →
    mapAll (fun _ => ()) as = mapAll (fun _ => ()) bs
  | [], [], _ => rfl
  | a :: as, b :: bs, .cons first others => by
    rw [mapAll, mapAll, bareAll_of_same as bs others]
    exact congrArg (· :: _) (bare_of_same a b first)
end

mutual
theorem toJson_map {β : Type} (f : α → β) : ∀ e : Expr α, (e.map f).toJson = e.toJson
  | identifier _ | number .. | hex .. | percent .. => rfl
  | binary operator left right _ => by
    rw [map, toJson, toJson, toJson_map f left, toJson_map f right]
  | unary operator argument _ => by rw [map, toJson, toJson, toJson_map f argument]
  | call callee arguments _ => by
    rw [map, toJson, toJson, toJsonAll_map f arguments]
    rfl
  | group expression _ => by rw [map, toJson, toJson, toJson_map f expression]

theorem toJsonAll_map {β : Type} (f : α → β) : ∀ es : List (Expr α),
    toJsonAll (mapAll f es) = toJsonAll es
  | [] => rfl
  | e :: rest => by rw [mapAll, toJsonAll, toJsonAll, toJson_map f e, toJsonAll_map f rest]
end

end Expr

theorem Statement.bare_of_same {s s' : Statement α} (same : s.toJson.Same s'.toJson) :
    s.bare = s'.bare := by
  have inner := Expr.bare_of_same _ _ (same.field "expression" rfl rfl)
  rw [bare, bare, map, map]
  exact congrArg (Statement.mk · ()) inner

theorem Program.bare_of_same {p q : Program α} (same : p.toJson.Same q.toJson) : p.bare = q.bare := by
  have bodies := (same.field "body" rfl rfl).items
  rw [List.forall₂_map_left_iff, List.forall₂_map_right_iff] at bodies
  have statements : p.body.map Statement.bare = q.body.map Statement.bare := by
    rw [← List.forall₂_eq_eq_eq, List.forall₂_map_left_iff, List.forall₂_map_right_iff]
    exact bodies.imp fun _ _ => Statement.bare_of_same
  exact congrArg (Program.mk · ()) statements

namespace Node

theorem bare_of_same {a b : Node α} (same : a.toJson.Same b.toJson) : a.bare = b.bare := by
  have kinds := kind_of_same same
  cases a <;> cases b <;> try cases kinds
  case program.program => exact congrArg Node.program (Program.bare_of_same same)
  case statement.statement => exact congrArg Node.statement (Statement.bare_of_same same)
  case expression.expression => exact congrArg Node.expression (Expr.bare_of_same _ _ same)
  case program.expression _ e | statement.expression _ e | expression.program e _ |
      expression.statement e _ =>
    cases e <;> cases kinds

theorem toJson_bare (n : Node α) : n.bare.toJson = n.toJson := by
  have expression (e : Expr α) : e.bare.toJson = e.toJson := Expr.toJson_map _ e
  have statement (s : Statement α) : s.bare.toJson = s.toJson := by
    rw [Statement.toJson, Statement.toJson, ← expression]
    rfl
  cases n with
  | program p =>
    have body : (p.body.map Statement.bare).map Statement.toJson = p.body.map Statement.toJson := by
      rw [List.map_map]
      exact List.map_congr_left fun s _ => statement s
    exact congrArg (fun items => NodeKind.program.record [("body", .list items)]) body
  | statement s => exact statement s
  | expression e => exact expression e

theorem same_iff {a b : Node α} : a.toJson.Same b.toJson ↔ a.bare = b.bare := by
  constructor
  · exact bare_of_same
  · intro bare
    have forms : a.toJson = b.toJson := by rw [← toJson_bare a, bare, toJson_bare]
    exact forms ▸ Same.refl a.toJson

theorem toJson_eq_iff {a b : Node α} : a.toJson = b.toJson ↔ a.bare = b.bare := by
  constructor
  · intro forms
    exact bare_of_same (forms ▸ Same.refl a.toJson)
  · intro bare
    rw [← toJson_bare a, bare, toJson_bare]

end Node

/-! ### Outlines -/

theorem NodeKind.name_unspaced (k : NodeKind) : ' ' ∉ k.name := by
  cases k <;> decide

theorem NodeKind.name_ne_nil (k : NodeKind) : k.name ≠ [] := by
  cases k <;> decide

/-- The depth of a line of an outline. -/
def lineDepth (line : Text) : Nat := (line.takeWhile (· == ' ')).length / 2

theorem outlineLine_spaces (depth : Nat) (kind : NodeKind) (detail : Option Text) :
    (outlineLine depth kind detail).takeWhile (· == ' ') = List.replicate (2 * depth) ' ' := by
  obtain ⟨c, name, written⟩ := List.exists_cons_of_ne_nil kind.name_ne_nil
  have other : c ≠ ' ' := by
    rintro rfl
    exact kind.name_unspaced (written ▸ List.mem_cons_self)
  unfold outlineLine
  rw [List.append_assoc, List.takeWhile_append_of_pos (by simp), written, List.cons_append,
    List.takeWhile_cons_of_neg (by simpa using other), List.append_nil]

theorem lineDepth_outlineLine (depth : Nat) (kind : NodeKind) (detail : Option Text) :
    lineDepth (outlineLine depth kind detail) = depth := by
  rw [lineDepth, outlineLine_spaces, List.length_replicate]
  omega

theorem outlineLine_inj {d d' : Nat} {k k' : NodeKind} {x x' : Option Text}
    (same : outlineLine d k x = outlineLine d' k' x') : d = d' ∧ k = k' ∧ x = x' := by
  have depths : d = d' := by rw [← lineDepth_outlineLine d k x, same, lineDepth_outlineLine]
  subst depths
  unfold outlineLine at same
  rw [List.append_assoc, List.append_assoc] at same
  have details := List.append_cancel_left same
  refine ⟨rfl, ?_⟩
  -- The name of the kind holds no space, so it ends where the detail begins.
  cases x with
  | none =>
    cases x' with
    | none => exact ⟨NodeKind.name_eq_iff.mp (List.append_cancel_right details), rfl⟩
    | some t =>
      have space : ' ' ∈ k.name ++ [] := details ▸ List.mem_append_right _ List.mem_cons_self
      exact absurd (List.append_nil k.name ▸ space) k.name_unspaced
  | some t =>
    cases x' with
    | none =>
      have space : ' ' ∈ k'.name ++ [] := details ▸ List.mem_append_right _ List.mem_cons_self
      exact absurd (List.append_nil k'.name ▸ space) k'.name_unspaced
    | some u =>
      obtain ⟨names, texts⟩ := Text.append_cons_inj k.name_unspaced k'.name_unspaced details
      exact ⟨NodeKind.name_eq_iff.mp names, congrArg some texts⟩

/-- What may stand behind the lines of a part at the given depth: nothing, or a line no deeper. -/
def Shallow (depth : Nat) (lines : List Text) : Prop := ∀ line ∈ lines.head?, lineDepth line ≤ depth

theorem shallow_nil (depth : Nat) : Shallow depth [] := by simp [Shallow]

theorem Shallow.deeper {depth : Nat} {lines : List Text} (shallow : Shallow depth lines) :
    Shallow (depth + 1) lines :=
  fun line first => Nat.le_succ_of_le (shallow line first)

theorem shallow_cons {depth d : Nat} (up : d ≤ depth) (kind : NodeKind) (detail : Option Text)
    (lines : List Text) : Shallow depth (outlineLine d kind detail :: lines) := by
  intro line first
  cases first
  rw [lineDepth_outlineLine]
  exact up

namespace Expr

/-- What the line of a node shows behind its kind. -/
def detail : Expr α → Option Text
  | identifier name => some name.text
  | number value _ => some (Text.ofInt value)
  | hex value _ => some value
  | percent value _ => some (Text.ofInt value ++ ['%'])
  | binary operator _ _ _ => some operator
  | unary operator _ _ => some operator
  | call callee _ _ => some callee.text
  | group _ _ => none

theorem outline_cons (depth : Nat) (e : Expr α) :
    ∃ parts, e.outline depth = outlineLine depth e.kind e.detail :: parts := by
  cases e <;> exact ⟨_, rfl⟩

theorem outline_shallow (depth : Nat) (e : Expr α) (lines : List Text) :
    Shallow depth (e.outline depth ++ lines) := by
  obtain ⟨parts, written⟩ := e.outline_cons depth
  rw [written]
  exact shallow_cons (Nat.le_refl depth) _ _ _

theorem outline_ne_shallow {depth : Nat} {lines later : List Text} (shallow : Shallow depth lines)
    (e : Expr α) : e.outline (depth + 1) ++ later ≠ lines := by
  rintro rfl
  obtain ⟨parts, written⟩ := e.outline_cons (depth + 1)
  rw [written] at shallow
  have up := shallow _ rfl
  rw [lineDepth_outlineLine] at up
  omega

theorem outlineAll_shallow {depth : Nat} {lines : List Text} (shallow : Shallow depth lines)
    (es : List (Expr α)) : Shallow (depth + 1) (outlineAll (depth + 1) es ++ lines) := by
  cases es with
  | nil => exact shallow.deeper
  | cons e rest =>
    rw [outlineAll, List.append_assoc]
    exact e.outline_shallow _ _

mutual
theorem outline_append_inj : ∀ (a b : Expr α) {depth : Nat} {r s : List Text}, Shallow depth r →
    Shallow depth s → a.outline depth ++ r = b.outline depth ++ s → a.bare = b.bare ∧ r = s := by
  intro a b depth r s shallow shallow' same
  -- The first lines agree, so both nodes have one kind and detail, and their parts remain.
  obtain ⟨kinds, details⟩ : a.kind = b.kind ∧ a.detail = b.detail := by
    obtain ⟨_, left⟩ := a.outline_cons depth
    obtain ⟨_, right⟩ := b.outline_cons depth
    rw [left, right] at same
    exact (outlineLine_inj (List.cons.inj same).1).2
  have behind := congrArg List.tail same
  cases a <;> cases b <;> try cases kinds
  case identifier.identifier m n =>
    have names : m.text = n.text := Option.some.inj details
    exact ⟨by rw [bare_identifier, bare_identifier, names], behind⟩
  case number.number m _ n _ =>
    have values : m = n := Numeral.ofInt_injective (Option.some.inj details)
    exact ⟨by rw [bare, bare, map, map, values], behind⟩
  case hex.hex m _ n _ =>
    have values : m = n := Option.some.inj details
    exact ⟨by rw [bare, bare, map, map, values], behind⟩
  case percent.percent m _ n _ =>
    have values : m = n :=
      Numeral.ofInt_injective (List.append_cancel_right (Option.some.inj details))
    exact ⟨by rw [bare, bare, map, map, values], behind⟩
  case binary.binary o l e _ o' l' e' _ =>
    have operators : o = o' := Option.some.inj details
    have lines : l.outline (depth + 1) ++ (e.outline (depth + 1) ++ r) =
        l'.outline (depth + 1) ++ (e'.outline (depth + 1) ++ s) := by
      rw [← List.append_assoc, ← List.append_assoc]
      exact behind
    obtain ⟨lefts, rest⟩ := outline_append_inj l l' (e.outline_shallow _ _) (e'.outline_shallow _ _) lines
    obtain ⟨rights, rest⟩ := outline_append_inj e e' shallow.deeper shallow'.deeper rest
    exact ⟨by rw [bare_binary, bare_binary, operators, lefts, rights], rest⟩
  case unary.unary o e _ o' e' _ =>
    have operators : o = o' := Option.some.inj details
    obtain ⟨arguments, rest⟩ := outline_append_inj e e' shallow.deeper shallow'.deeper behind
    exact ⟨by rw [bare_unary, bare_unary, operators, arguments], rest⟩
  case call.call f es _ g es' _ =>
    have callees : f.text = g.text := Option.some.inj details
    obtain ⟨arguments, rest⟩ := outlineAll_append_inj es es' shallow shallow' behind
    exact ⟨by rw [bare_call, bare_call, callees, arguments], rest⟩
  case group.group e _ e' _ =>
    obtain ⟨inner, rest⟩ := outline_append_inj e e' shallow.deeper shallow'.deeper behind
    exact ⟨by rw [bare_group, bare_group, inner], rest⟩

theorem outlineAll_append_inj : ∀ (as bs : List (Expr α)) {depth : Nat} {r s : List Text},
    Shallow depth r → Shallow depth s →
    outlineAll (depth + 1) as ++ r = outlineAll (depth + 1) bs ++ s →
      mapAll (fun _ => ()) as = mapAll (fun _ => ()) bs ∧ r = s
  | [], [], _, _, _, _, _, same => ⟨rfl, same⟩
  | [], b :: bs, _, _, _, shallow, _, same => by
    rw [outlineAll, outlineAll, List.append_assoc] at same
    exact absurd same.symm (b.outline_ne_shallow shallow)
  | a :: as, [], _, _, _, _, shallow', same => by
    rw [outlineAll, outlineAll, List.append_assoc] at same
    exact absurd same (a.outline_ne_shallow shallow')
  | a :: as, b :: bs, _, _, _, shallow, shallow', same => by
    rw [outlineAll, outlineAll, List.append_assoc, List.append_assoc] at same
    obtain ⟨firsts, rest⟩ := outline_append_inj a b (outlineAll_shallow shallow as)
      (outlineAll_shallow shallow' bs) same
    obtain ⟨others, rest⟩ := outlineAll_append_inj as bs shallow shallow' rest
    rw [mapAll, mapAll, others]
    exact ⟨congrArg (· :: _) firsts, rest⟩
end

end Expr

/-! Statements stand at depth one, and nothing but statements stands behind a statement. -/

theorem Statement.outlines_inj {ss us : List (Statement α)}
    (same : ss.flatMap outline = us.flatMap outline) : ss.map bare = us.map bare := by
  induction ss generalizing us with
  | nil =>
    cases us with
    | nil => rfl
    | cons => cases same
  | cons s ss ih =>
    cases us with
    | nil => cases same
    | cons u us =>
      have shallow (ss : List (Statement α)) : Shallow 2 (ss.flatMap outline) := by
        cases ss with
        | nil => exact shallow_nil 2
        | cons => exact shallow_cons (by decide) _ _ _
      obtain ⟨expressions, rest⟩ := Expr.outline_append_inj s.expression u.expression (shallow ss)
        (shallow us) (List.cons.inj same).2
      rw [List.map_cons, List.map_cons, ih rest]
      exact congrArg (Statement.mk · () :: _) expressions

theorem Program.outline_inj {p q : Program α} (same : p.outline = q.outline) : p.bare = q.bare :=
  congrArg (Program.mk · ()) (Statement.outlines_inj (List.cons.inj same).2)

mutual
theorem Expr.outline_map {β : Type} (f : α → β) (depth : Nat) : ∀ e : Expr α,
    (e.map f).outline depth = e.outline depth
  | .identifier _ | .number .. | .hex .. | .percent .. => rfl
  | .binary _ left right _ => by
    rw [map, outline, outline, outline_map f _ left, outline_map f _ right]
  | .unary _ argument _ => by rw [map, outline, outline, outline_map f _ argument]
  | .call _ arguments _ => by
    rw [map, outline, outline, outlineAll_map f _ arguments]
    rfl
  | .group expression _ => by rw [map, outline, outline, outline_map f _ expression]

theorem Expr.outlineAll_map {β : Type} (f : α → β) (depth : Nat) : ∀ es : List (Expr α),
    outlineAll depth (mapAll f es) = outlineAll depth es
  | [] => rfl
  | e :: rest => by
    rw [mapAll, outlineAll, outlineAll, outline_map f _ e, outlineAll_map f _ rest]
end

theorem Program.outline_bare (p : Program α) : p.bare.outline = p.outline := by
  have statement (s : Statement α) : s.bare.outline = s.outline :=
    congrArg (outlineLine 1 .statement none :: ·) (Expr.outline_map _ 2 s.expression)
  have body : (p.body.map Statement.bare).flatMap Statement.outline =
      p.body.flatMap Statement.outline := by
    rw [List.flatMap_map]
    simp only [statement]
  exact congrArg (outlineLine 0 .program none :: ·) body

/-! ### The text of an outline -/

def Lexeme.text? : Lexeme → Option Text
  | hex text | name text | callee text | sign text | operator text => some text
  | number _ | percent _ | opening | comma | closing => none

theorem Lexeme.text_of_spells {w : Lexeme} {t : Token} (spells : w.Spells t) :
    ∀ text ∈ w.text?, t.value = text := by
  intro text named
  cases w <;> cases named <;> exact spells.2

theorem Lexeme.texts_of_spells {P : Text → Prop} {ws : List Lexeme} {ts : List Token}
    (spelled : List.Forall₂ Lexeme.Spells ws ts) (values : ∀ t ∈ ts, P t.value) :
    ∀ w ∈ ws, ∀ text ∈ w.text?, P text := by
  induction spelled with
  | nil => simp
  | cons spells _ ih =>
    obtain ⟨first, others⟩ := List.forall_mem_cons.mp values
    refine List.forall_mem_cons.mpr ⟨fun text named => ?_, ih others⟩
    rw [← text_of_spells spells text named]
    exact first

theorem outlineLine_oneLine (depth : Nat) (kind : NodeKind) {detail : Option Text}
    (plain : ∀ text ∈ detail, '\n' ∉ text) : '\n' ∉ outlineLine depth kind detail := by
  have spaces : '\n' ∉ List.replicate (2 * depth) ' ' := fun member =>
    absurd (List.eq_of_mem_replicate member) (by decide)
  cases detail with
  | none => simp [outlineLine, spaces, NodeKind.name_oneLine]
  | some text => simp [outlineLine, spaces, NodeKind.name_oneLine, plain text rfl]

/-- The words of a tree are on one line each. -/
def OneLine (ws : List Lexeme) : Prop := ∀ w ∈ ws, ∀ text ∈ w.text?, '\n' ∉ text

namespace OneLine

theorem left {ws us : List Lexeme} (h : OneLine (ws ++ us)) : OneLine ws :=
  fun w member => h w (List.mem_append_left us member)

theorem right {ws us : List Lexeme} (h : OneLine (ws ++ us)) : OneLine us :=
  fun w member => h w (List.mem_append_right ws member)

theorem head {w : Lexeme} {ws : List Lexeme} (h : OneLine (w :: ws)) : ∀ text ∈ w.text?, '\n' ∉ text :=
  h w List.mem_cons_self

theorem tail {w : Lexeme} {ws : List Lexeme} (h : OneLine (w :: ws)) : OneLine ws :=
  fun u member => h u (List.mem_cons_of_mem w member)

end OneLine

mutual
theorem Expr.outline_oneLine : ∀ (e : Expr α) (depth : Nat), OneLine e.lexemes →
    ∀ line ∈ e.outline depth, '\n' ∉ line
  | .identifier _, _, words | .hex _ _, _, words =>
    List.forall_mem_singleton.mpr (outlineLine_oneLine _ _ words.head)
  | .number _ _, _, _ | .percent _ _, _, _ =>
    List.forall_mem_singleton.mpr (outlineLine_oneLine _ _ (by simp [Numeral.ofInt_oneLine]))
  | .binary _ l r _, depth, words =>
    List.forall_mem_cons.mpr ⟨outlineLine_oneLine _ _ words.right.head,
      List.forall_mem_append.mpr ⟨l.outline_oneLine _ words.left, r.outline_oneLine _ words.right.tail⟩⟩
  | .unary _ e _, depth, words =>
    List.forall_mem_cons.mpr ⟨outlineLine_oneLine _ _ words.head, e.outline_oneLine _ words.tail⟩
  | .call _ es _, depth, words =>
    List.forall_mem_cons.mpr ⟨outlineLine_oneLine _ _ words.head,
      outlineAll_oneLine es _ words.tail.tail.left⟩
  | .group e _, depth, words =>
    List.forall_mem_cons.mpr ⟨outlineLine_oneLine _ _ (by simp), e.outline_oneLine _ words.tail.left⟩

theorem Expr.outlineAll_oneLine : ∀ (es : List (Expr α)) (depth : Nat), OneLine (lexemesAll es) →
    ∀ line ∈ outlineAll depth es, '\n' ∉ line
  | [], _, _ => by simp [outlineAll]
  | [e], _, words => by
    simpa [outlineAll] using e.outline_oneLine _ words.left
  | e :: f :: rest, _, words =>
    List.forall_mem_append.mpr ⟨e.outline_oneLine _ words.left,
      outlineAll_oneLine (f :: rest) _ words.right.tail⟩
end

theorem Program.outline_oneLine {p : Program α} (words : OneLine p.lexemes) :
    ∀ line ∈ p.outline, '\n' ∉ line := by
  refine List.forall_mem_cons.mpr ⟨outlineLine_oneLine _ _ (by simp), fun line member => ?_⟩
  obtain ⟨s, listed, inside⟩ := List.mem_flatMap.mp member
  have plain : OneLine s.expression.lexemes := fun w here =>
    words w (List.mem_flatMap.mpr ⟨s, listed, here⟩)
  rcases List.mem_cons.mp inside with rfl | inside
  · exact outlineLine_oneLine _ _ (by simp)
  · exact s.expression.outline_oneLine _ plain line inside

theorem parse_outline_oneLine {o : LexOptions} {source : Text} {p : Program Located}
    (parsed : parse o source = .ok p) : ∀ line ∈ p.outline, '\n' ∉ line := by
  have read := (parse_reads parsed).1
  refine Program.outline_oneLine (Lexeme.texts_of_spells read.spells fun t member => ?_)
  exact tokenize_oneLine o source t (List.mem_of_mem_filter member) (read.ne_error t member)

/-- The JSON form of a node tells the node but for its notes, also where the order of fields does not
count. Of programs that were read from texts, both the outline and the text of the JSON form tell them. -/
theorem outputs_faithful :
    (∀ a b : Node Located, (a.toJson = b.toJson ↔ a.bare = b.bare) ∧
      (a.toJson.Same b.toJson ↔ a.bare = b.bare)) ∧
    ∀ (o o' : LexOptions) (source source' : Text) (p q : Program Located),
      parse o source = .ok p → parse o' source' = .ok q →
        (p.outlineText = q.outlineText ↔ p.bare = q.bare) ∧
        (p.toJson.render = q.toJson.render ↔ p.bare = q.bare) := by
  refine ⟨fun a b => ⟨Node.toJson_eq_iff, Node.same_iff⟩, ?_⟩
  intro o o' source source' p q parsed parsed'
  constructor
  · calc p.outlineText = q.outlineText
      _ ↔ p.outline = q.outline :=
        Text.ofLines_inj (parse_outline_oneLine parsed) (parse_outline_oneLine parsed')
      _ ↔ p.bare = q.bare := ?_
    constructor
    · exact Program.outline_inj
    · intro bare
      rw [← p.outline_bare, bare, q.outline_bare]
  · rw [Json.render_injective.eq_iff]
    have nodes := @Node.toJson_eq_iff _ (.program p) (.program q)
    simpa [Node.toJson, Node.bare] using nodes

set_option maxRecDepth 2000 in
/-- White space in front of a name moves the program, which is written as before. -/
theorem outputs_faithful_moved :
    let span : Int → Int → Located := fun i j => some ⟨⟨1, i + 1, i⟩, ⟨1, j + 1, j⟩⟩
    let p : Program Located := ⟨[⟨.identifier ⟨['x'], span 0 1⟩, span 0 1⟩], span 0 1⟩
    let q : Program Located := ⟨[⟨.identifier ⟨['x'], span 1 2⟩, span 1 2⟩], span 1 2⟩
    parse ⟨false, false⟩ ['x'] = .ok p ∧ parse ⟨true, false⟩ [' ', 'x'] = .ok q ∧ p ≠ q ∧
      p.outlineText = q.outlineText ∧ p.toJson.render = q.toJson.render := by
  intro span p q
  have here : parse ⟨false, false⟩ ['x'] = .ok p := by cbv
  have moved : parse ⟨true, false⟩ [' ', 'x'] = .ok q := by cbv
  obtain ⟨outlines, forms⟩ := outputs_faithful.2 _ _ _ _ _ _ here moved
  exact ⟨here, moved, by decide, outlines.mpr rfl, forms.mpr rfl⟩

end StyleValue

import StyleValue.Editor
import StyleValue.Proofs.Standing

/-! What an editor does with a diagnostic. It finds the two places of the diagnostic among the rows of
its document and selects what lies between them: the words of the token that the error names. -/
namespace StyleValue

open Text

/-! ### Places in a document -/

/-- How many characters of a document stand in front of a place, if the place is one of the document. -/
def Place.offset? (p : Place) (document : Text) : Option Nat := do
  let row ← document.rows[p.line.toNat]?
  guard (0 ≤ p.line ∧ 0 ≤ p.character ∧ p.character ≤ row.line.length)
  return ((document.rows.take p.line.toNat).flatMap Row.text).length + p.character.toNat

/-- A place in front of, between or behind the characters of a line. -/
def Place.Inside (p : Place) (document : Text) : Prop :=
  0 ≤ p.line ∧ 0 ≤ p.character ∧
    ∃ line, document.lines[p.line.toNat]? = some line ∧ p.character ≤ line.length

/-- The part of a document between the places of a diagnostic. -/
def Diagnostic.selected? (d : Diagnostic) (document : Text) : Option Text := do
  let i ← d.start.offset? document
  let j ← d.stop.offset? document
  guard (i ≤ j)
  return (document.take j).drop i

theorem Place.of_endPosition {front back : Text} (apart : BreaksApart front back) :
    (Place.ofPosition front.endPosition).offset? (front ++ back) = some front.length ∧
      (Place.ofPosition front.endPosition).Inside (front ++ back) := by
  obtain ⟨above, last, first, ending, below, fronts, _, whole⟩ := rows_append apart
  have place : Place.ofPosition front.endPosition = ⟨above.length, last.length⟩ := by
    rw [endPosition_eq fronts, Place.ofPosition]
    simp
  -- The rows above and the open one are all of the front, so their lengths give its offset.
  have length : (above.flatMap Row.text).length + last.length = front.length := by
    have joined := congrArg List.length (flatMap_rows front)
    rw [fronts, List.flatMap_append, List.length_append] at joined
    simpa [Row.text] using joined
  rw [place]
  constructor
  · unfold Place.offset?
    rw [whole, ← length]
    simp [guard]
  · refine ⟨Int.natCast_nonneg _, Int.natCast_nonneg _, last ++ first, ?_, ?_⟩
    · rw [← map_line_rows, whole]
      simp
    · rw [List.length_append]
      dsimp only
      omega

structure Diagnostic.Marks (d : Diagnostic) (document : Text) (t : Token) : Prop where
  start : d.start.Inside document
  stop : d.stop.Inside document
  ordered : d.start.line < d.stop.line ∨
    d.start.line = d.stop.line ∧ d.start.character ≤ d.stop.character
  selected : d.selected? document = some t.value
  ended : t.kind = .endOfInput → t.value = []

theorem Token.StandsIn.ordered {t : Token} {text front back : Text} (h : t.StandsIn text front back) :
    front.endPosition.line < (front ++ t.value).endPosition.line ∨
      front.endPosition.line = (front ++ t.value).endPosition.line ∧
        front.endPosition.column ≤ (front ++ t.value).endPosition.column := by
  obtain ⟨above, last, tail, ending, below, fronts, _, stop⟩ := h.rows
  rw [endPosition_eq fronts]
  rcases stop with stop | ⟨below, _⟩
  · rw [stop, List.length_append]
    right
    dsimp only
    omega
  · exact .inl below

theorem Token.StandsIn.diagnostic_marks {e : SyntaxError} {document front back : Text}
    (stands : e.token.StandsIn document front back)
    (ended : e.token.kind = .endOfInput → e.token.value = []) :
    (e.report document).diagnostic.Marks document e.token := by
  have span := stands.span_report document
  obtain ⟨start, startInside⟩ := Place.of_endPosition stands.before
  obtain ⟨stop, stopInside⟩ := Place.of_endPosition stands.behind
  rw [List.append_assoc] at stop stopInside
  rw [← stands.split] at start startInside stop stopInside
  have start' : (e.report document).diagnostic.start = .ofPosition front.endPosition :=
    congrArg (fun s : Span => Place.ofPosition s.start) span
  have stop' : (e.report document).diagnostic.stop =
      .ofPosition (front ++ e.token.value).endPosition :=
    congrArg (fun s : Span => Place.ofPosition s.stop) span
  have ordered := stands.ordered
  refine ⟨start' ▸ startInside, stop' ▸ stopInside, ?_, ?_, ended⟩
  · rw [start', stop']
    unfold Place.ofPosition
    dsimp only
    omega
  · have bound : front.length ≤ (front ++ e.token.value).length := by simp
    have cut : (document.take (front ++ e.token.value).length).drop front.length = e.token.value := by
      rw [stands.split, ← List.append_assoc, List.take_left' rfl, List.drop_left' rfl]
    unfold Diagnostic.selected?
    rw [start', stop', start, stop]
    simp only [Option.bind_eq_bind, Option.bind_some, guard, if_pos bound]
    exact congrArg some cut

/-! ### Handlers -/

/-- The program around the handlers. It takes in every edit before the handler of that edit is called,
and hands out the texts of documents. -/
structure Workspace (σ : Type) where
  receive : σ → Edit → σ
  text : σ → Text → Text

namespace Workspace

variable {σ : Type} {w : Workspace σ}

def Current (w : Workspace σ) : Prop := ∀ s e, w.text (w.receive s e) e.uri = e.text

def handle (w : Workspace σ) (s : σ) (uri : Text) : Notification := ⟨uri, diagnose (w.text s uri)⟩

def serve (w : Workspace σ) (s : σ) : List Edit → List Notification
  | [] => []
  | e :: rest => w.handle (w.receive s e) e.uri :: w.serve (w.receive s e) rest

theorem handle_eq (current : w.Current) (s : σ) (e : Edit) :
    w.handle (w.receive s e) e.uri = e.notification := by
  rw [handle, current]
  rfl

theorem serve_eq (current : w.Current) (s : σ) (edits : List Edit) :
    w.serve s edits = notifications edits := by
  induction edits generalizing s with
  | nil => rfl
  | cons e rest ih =>
    rw [serve, handle_eq current, ih]
    rfl

end Workspace

/-- The right answer to an edit. It depends on the text of the edit alone. -/
structure Notification.Answers (n : Notification) (e : Edit) : Prop where
  uri : n.uri = e.uri
  own : n.diagnostics = diagnose e.text
  clean : n.diagnostics = [] ↔ ∃ p, parse .standard e.text = .ok p
  marked : ∀ fault, parse .standard e.text = .error fault →
    ∃ d, n.diagnostics = [d] ∧ d.Marks e.text fault.token

theorem Edit.notification_answers (e : Edit) : e.notification.Answers e := by
  refine ⟨rfl, rfl, ?_, fun fault failed => ?_⟩
  · change diagnose e.text = [] ↔ _
    unfold diagnose
    cases parse .standard e.text <;> simp
  · obtain ⟨⟨front, back, stands⟩, empty⟩ := parse_error_token failed
    refine ⟨(fault.report e.text).diagnostic, ?_, stands.diagnostic_marks empty.mpr⟩
    change diagnose e.text = _
    rw [diagnose, failed]

/-- Whatever an editor did before, every edit is answered once, for its document and for its text. -/
theorem serve_answers {σ : Type} {w : Workspace σ} (current : w.Current) (s : σ) (edits : List Edit) :
    w.serve s edits = notifications edits ∧
      List.Forall₂ (fun e n => Notification.Answers n e) edits (w.serve s edits) := by
  have same := w.serve_eq current s edits
  refine ⟨same, ?_⟩
  rw [same, notifications, List.forall₂_map_right_iff, List.forall₂_same]
  exact fun e _ => e.notification_answers

/-- A document with a fault, then another one, then the first one without the fault. -/
theorem serve_answers_two :
    let w : Workspace (Text → Text) :=
      ⟨fun texts e uri => if uri = e.uri then e.text else texts uri, fun texts uri => texts uri⟩
    let edits : List Edit := [⟨['a'], ['7', '\r', '\x01', '\n', '-']⟩, ⟨['b'], []⟩, ⟨['a'], ['7']⟩]
    w.Current ∧ ∃ d : Diagnostic,
      w.serve (fun _ => []) edits = [⟨['a'], [d]⟩, ⟨['b'], []⟩, ⟨['a'], []⟩] ∧
        d.selected? ['7', '\r', '\x01', '\n', '-'] = some ['\r', '\x01', '\n'] := by
  intro w edits
  have current : w.Current := fun texts e => if_pos rfl
  obtain ⟨same, answers⟩ := serve_answers current (fun _ => []) edits
  have failed : parse .standard ['7', '\r', '\x01', '\n', '-'] = .error ⟨.expression,
      ⟨.error, ['\r', '\x01', '\n'], some ⟨⟨1, 2, 1⟩, ⟨3, 1, 4⟩⟩⟩⟩ := by cbv
  have empty : parse .standard [] = .ok ⟨[], some (.at .origin)⟩ := by cbv
  have number : parse .standard ['7'] = .ok ⟨[⟨.number 7 (some ⟨⟨1, 1, 0⟩, ⟨1, 2, 1⟩⟩),
      some ⟨⟨1, 1, 0⟩, ⟨1, 2, 1⟩⟩⟩], some ⟨⟨1, 1, 0⟩, ⟨1, 2, 1⟩⟩⟩ := by cbv
  rw [same] at answers ⊢
  obtain ⟨first, others⟩ := List.forall₂_cons.mp answers
  obtain ⟨second, third⟩ := List.forall₂_cons.mp others
  obtain ⟨d, marked, marks⟩ := first.marked _ failed
  refine ⟨current, d, ?_, marks.selected⟩
  have cleared := second.clean.mpr ⟨_, empty⟩
  have repaired := (List.forall₂_cons.mp third).1.clean.mpr ⟨_, number⟩
  exact congrArg₂ List.cons (congrArg _ marked)
    (congrArg₂ List.cons (congrArg _ cleared) (congrArg₂ List.cons (congrArg _ repaired) rfl))

end StyleValue

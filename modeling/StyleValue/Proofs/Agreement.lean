import StyleValue.Editor
import StyleValue.Proofs.Encoding
import StyleValue.Proofs.Endings
import StyleValue.Proofs.Excerpts
import StyleValue.Proofs.LineBreaks

/-! The command and the editor on the same text. The command reads it from a file, in which every break
becomes a line feed, and the editor hands it over as it is. Both accept it, or both show the same fault
at the same place. -/
namespace StyleValue

open FileSystem

variable {name text : Text} {path : Path} {standardInput : List UInt8} {fs : FileSystem}

/-! ### A file as the only argument -/

theorem Arguments.read_plain (plain : name.head? ≠ some '-') :
    Arguments.read [name] = .ok { Arguments.initial with input := some name } := by
  have word : Word.ofText name = .ok (.plain name) := by
    unfold Word.ofText
    split
    · rfl
    · rfl
    · exact absurd rfl plain
    · rfl
  have words : Word.ofTexts [name] = .ok [.plain name] := by
    unfold Word.ofTexts
    rw [if_neg (by rintro rfl; exact plain rfl), word]
    rfl
  unfold Arguments.read
  rw [words]
  rfl

/-- Without a configuration file nothing but the input differs from what is usual. -/
def Settings.ofFile (path : Path) : Settings := ⟨.file path, none, .standard, .program .tree, false⟩

def Config.beside (path : Path) : Path := path.sibling fileName

theorem Config.path_input (plain : name.head? ≠ some '-') :
    Config.path { Arguments.initial with input := some name } = beside (Path.ofText name) :=
  if_neg (by rintro rfl; exact plain rfl)

theorem Config.fileName_fits : '\x00' ∉ fileName ∧ isTooLong maxNameBytes fileName = false := by
  decide

theorem Config.load_beside {bytes : List UInt8} (read : fs.read path = .ok bytes)
    (alone : ∀ bytes, fs.read (beside path) ≠ .ok bytes) :
    load fs (beside path) =
      if isTooLong maxPathBytes (beside path).text then
        .error (.aborted (.file (beside path) .nameTooLong))
      else .ok [] := by
  obtain ⟨plain, short⟩ := fileName_fits
  cases long : isTooLong maxPathBytes (beside path).text with
  | true =>
    have tooLong : fs.read (beside path) = .error .nameTooLong :=
      read_tooLong (zero_not_mem_sibling read plain) long
    unfold load
    rw [tooLong]
    rfl
  | false =>
    obtain ⟨l, located⟩ := locate_sibling read plain short long
    unfold load
    split
    · exact absurd ‹_› (read_located located)
    · rfl
    · exact absurd ‹_› (alone _)

theorem Settings.ofArguments_input (plain : name.head? ≠ some '-')
    (file : (Path.ofText name).text ≠ ['-']) {bytes : List UInt8}
    (read : fs.read (.ofText name) = .ok bytes)
    (alone : ∀ bytes, fs.read (Config.beside (.ofText name)) ≠ .ok bytes) :
    ofArguments fs { Arguments.initial with input := some name } =
      if isTooLong maxPathBytes (Config.beside (.ofText name)).text then
        .error (.aborted (.file (Config.beside (.ofText name)) .nameTooLong))
      else .ok (ofFile (.ofText name)) := by
  have input : inputOf { Arguments.initial with input := some name } = .ok (.file (.ofText name)) :=
    congrArg Except.ok (if_neg file)
  unfold ofArguments
  rw [input, Config.path_input plain, Config.load_beside read alone]
  split <;> rfl

/-! ### A run -/

theorem Input.read_encoded (holds : fs.read path = .ok (Utf8.encode text)) :
    (Input.file path).read standardInput fs = .ok (some text.unifyBreaks) := by
  unfold Input.read
  dsimp only
  rw [holds]
  dsimp only [readText]
  rw [Utf8.decode_encode]
  rfl

theorem Settings.process_ofFile (path : Path) (source : Text) :
    ((ofFile path).process (some source)).result =
      match parse .standard source with
      | .ok p => .ok p.outlineText
      | .error e => .error (.program e) := by
  change (parsed (tokenize .standard source)).map (shown .tree) = _
  rw [parsed_eq]
  unfold parse
  cases parseTokens (tokenize .standard source) <;> rfl

theorem Settings.run_ofFile (holds : fs.read path = .ok (Utf8.encode text)) :
    (ofFile path).run standardInput fs =
      match parse .standard text.unifyBreaks with
      | .ok p => ⟨.exit 0, p.outlineText, [], fs⟩
      | .error e => ⟨.exit 1, [], (e.report text.unifyBreaks).render path.text ++ "\n", fs⟩ := by
  have read : (ofFile path).input.read standardInput fs = .ok (some text.unifyBreaks) :=
    Input.read_encoded holds
  have quiet := trace_process (s := ofFile path) rfl (some text.unifyBreaks)
  unfold run
  rw [read]
  dsimp only
  rw [quiet, process_ofFile]
  cases parse .standard text.unifyBreaks with
  | ok p => rfl
  | error e =>
    have named : (ofFile path).input.name = path.text := rfl
    dsimp only [fail, Option.getD_some]
    rw [named, List.nil_append]

/-! ### What is printed of an error -/

/-- Six lines, the second with the place of the error and the last with what was being read there. -/
structure Printed (errors name : Text) (line column : Nat) (construct : Text) : Prop where
  counted : 1 ≤ line ∧ 1 ≤ column
  construct_oneLine : '\n' ∉ construct
  lines : ∃ message rule row carets : Text, (∀ l ∈ [message, rule, row, carets], '\n' ∉ l) ∧
    errors = ['\n'].intercalate
      [message,
        Text.repeated ' ' ((Text.ofInt line).length + 1) ++ "--> " ++ name ++ ":" ++ Text.ofInt line ++
          ":" ++ Text.ofInt column,
        rule, row, carets,
        Text.repeated ' ' ((Text.ofInt line).length + 1) ++ "= while parsing " ++ construct] ++ "\n"

/-- The name may have any characters. Still the six lines tell the place and the construct. -/
theorem Printed.unique {errors name construct construct' : Text} {line line' column column' : Nat}
    (h : Printed errors name line column construct) (h' : Printed errors name line' column' construct') :
    line' = line ∧ column' = column ∧ construct' = construct := by
  obtain ⟨message, rule, row, carets, plain, lines⟩ := h.lines
  obtain ⟨message', rule', row', carets', plain', lines'⟩ := h'.lines
  simp only [List.forall_mem_cons] at plain plain'
  have same := lines'.symm.trans lines
  have arrow : "--> ".toList = '-' :: "-> ".toList := by decide
  have colon : ":".toList = [':'] := by decide
  have dash := Report.not_mem_repeated (c := ' ') (d := '-') (by decide)
  have colons (n : Nat) : ':' ∉ Text.ofInt n := Numeral.not_mem_ofInt rfl (by decide) n
  have feeds (n : Nat) : '\n' ∉ Text.ofInt n := Numeral.not_mem_ofInt rfl (by decide) n
  simp only [List.intercalate_cons_cons, List.intercalate_singleton, List.append_assoc,
    List.cons_append, List.nil_append, arrow, colon] at same
  -- Both texts are cut where they must be: at a feed behind the message, then at the dash behind the
  -- margin, and behind the name at colons and feeds, which no number has.
  obtain ⟨_, same⟩ := Text.append_cons_inj plain'.1 plain.1 same
  obtain ⟨_, same⟩ := Text.append_cons_inj (dash _) (dash _) same
  have same := (List.cons.inj (List.append_cancel_left (List.append_cancel_left same))).2
  obtain ⟨lines, same⟩ := Text.append_cons_inj (colons _) (colons _) same
  obtain ⟨columns, same⟩ := Text.append_cons_inj (feeds _) (feeds _) same
  obtain ⟨_, same⟩ := Text.append_cons_inj plain'.2.1 plain.2.1 same
  obtain ⟨_, same⟩ := Text.append_cons_inj plain'.2.2.1 plain.2.2.1 same
  obtain ⟨_, same⟩ := Text.append_cons_inj plain'.2.2.2.1 plain.2.2.2.1 same
  obtain rfl := Int.natCast_inj.mp (Numeral.ofInt_injective lines)
  have same := List.append_cancel_left (List.append_cancel_left same)
  exact ⟨rfl, Int.natCast_inj.mp (Numeral.ofInt_injective columns), List.append_cancel_right same⟩

theorem printed_of_parse {merge : Bool} {source : Text} {e : SyntaxError}
    (failed : parse ⟨merge, false⟩ source = .error e) (name : Text) : ∃ line column : Nat,
    (e.report source).span.start.line = line ∧ (e.report source).span.start.column = column ∧
      Printed ((e.report source).render name ++ "\n") name line column e.construct := by
  obtain ⟨line, column, row, found, points⟩ := parse_error_shown failed
  have marks := points source found [] List.not_mem_nil
  obtain ⟨startLine, startColumn⟩ := marks.start
  have plain := Report.shown_oneLine (r := e.report source) (parse_message_oneLine failed)
    e.construct_oneLine (List.not_mem_nil : '\n' ∉ ([] : Text))
  have counted := And.intro marks.inside.1 marks.columns.1
  refine ⟨line, column, startLine, startColumn, counted, e.construct_oneLine, ?_⟩
  rw [Report.render_eq_intercalate, Report.shown, startLine, startColumn]
  rw [Report.shown, startLine, startColumn] at plain
  refine ⟨_, _, _, _, ?_, rfl⟩
  simp only [List.forall_mem_cons] at plain ⊢
  tauto

/-! ### Both on one text -/

/-- A run for a text and the diagnostics of this text. There is at most one diagnostic. It begins where
the printed error is, in lines and characters that count from zero, and ends with the same construct. -/
structure Outcome.Agrees (o : Outcome) (name : Text) (diagnostics : List Diagnostic) : Prop where
  accepts : o.ending = .exit 0 ↔ diagnostics = []
  rejects : o.ending ≠ .exit 0 → o.ending = .exit 1 ∧ ∃ d, diagnostics = [d]
  prints : o.ending ≠ .exit 0 → ∃ line column construct, Printed o.errors name line column construct
  meets : ∀ d ∈ diagnostics, ∀ line column construct, Printed o.errors name line column construct →
    d.start = ⟨line - 1, column - 1⟩ ∧ (" (while parsing " ++ construct ++ ")" : Text) <:+ d.message

namespace Outcome

variable {o : Outcome}

theorem agrees_of_accepted (accepted : o.ending = .exit 0) : o.Agrees name [] :=
  ⟨by simp [accepted], absurd accepted, absurd accepted, by simp⟩

theorem agrees_of_rejected {d : Diagnostic} {line column : Nat} {construct : Text}
    (rejected : o.ending = .exit 1) (printed : Printed o.errors name line column construct)
    (start : d.start = ⟨line - 1, column - 1⟩)
    (message : (" (while parsing " ++ construct ++ ")" : Text) <:+ d.message) : o.Agrees name [d] := by
  refine ⟨by simp [rejected], fun _ => ⟨rejected, d, rfl⟩, fun _ => ⟨_, _, _, printed⟩, ?_⟩
  intro d' only line' column' construct' printed'
  rw [List.mem_singleton] at only
  obtain ⟨rfl, rfl, rfl⟩ := printed.unique printed'
  rw [only]
  exact ⟨start, message⟩

end Outcome

/-- A fault of a text with its breaks unified, as it is printed, is the diagnostic of the text as it
is. -/
theorem Settings.run_agrees (holds : fs.read path = .ok (Utf8.encode text)) :
    ((ofFile path).run standardInput fs).Agrees path.text (diagnose text) := by
  have same := outcome_unifyBreaks true text
  rw [run_ofFile holds]
  unfold diagnose
  rw [LexOptions.standard]
  cases read : parse ⟨true, false⟩ text with
  | ok p =>
    cases unified : parse ⟨true, false⟩ text.unifyBreaks with
    | ok q => exact Outcome.agrees_of_accepted rfl
    | error f =>
      rw [read, unified] at same
      cases same
  | error e =>
    cases unified : parse ⟨true, false⟩ text.unifyBreaks with
    | ok q =>
      rw [read, unified] at same
      cases same
    | error f =>
      rw [read, unified] at same
      obtain ⟨cause, token⟩ := SyntaxError.mk.inj (Except.error.inj same)
      have meets := SyntaxError.report_unified text cause token
      have starts := Position.cell_eq.mp (congrArg Span.start meets.place)
      obtain ⟨line, column, startLine, startColumn, printed⟩ := printed_of_parse unified path.text
      have place : (e.report text).diagnostic.start = ⟨line - 1, column - 1⟩ := by
        rw [← startLine, ← startColumn, starts.1, starts.2]
        rfl
      have construct : f.construct = e.construct := meets.construct
      refine Outcome.agrees_of_rejected rfl printed place ?_
      rw [construct]
      refine ⟨e.message, ?_⟩
      rw [← List.append_assoc, ← List.append_assoc]
      rfl

/-- The command on a file that has no configuration file beside it and the editor on the text of this
file accept alike, and of what they do not accept they tell the same place and construct. Only where the
name beside the file is too long to be looked for, the command stops instead. -/
theorem runCommand_agrees (plain : name.head? ≠ some '-') (file : (Path.ofText name).text ≠ ['-'])
    (holds : fs.read (.ofText name) = .ok (Utf8.encode text))
    (alone : ∀ bytes, fs.read (Config.beside (.ofText name)) ≠ .ok bytes) (uri : Text)
    (standardInput : List UInt8) :
    let o := runCommand [name] standardInput fs
    let path := Path.ofText name
    if isTooLong maxPathBytes (Config.beside path).text then
      o.ending = .aborted (.file (Config.beside path) .nameTooLong)
    else o.Agrees path.text (Edit.notification ⟨uri, text⟩).diagnostics := by
  intro o path
  have accepted := Arguments.read_plain plain
  have settings := Settings.ofArguments_input plain file holds alone
  split
  · rw [if_pos ‹_›] at settings
    change (runCommand [name] standardInput fs).ending = _
    rw [runCommand_stopped accepted settings]
  · rw [if_neg ‹_›] at settings
    change (runCommand [name] standardInput fs).Agrees _ _
    rw [runCommand_settled accepted settings]
    exact Settings.run_agrees holds

/-- A bracket behind two breaks, which the command reads as two line feeds. -/
theorem runCommand_agrees_break :
    let text : Text := ['7', '\r', '\r', '\n', ' ', ')']
    let fs : FileSystem := ⟨[([['x']], .file (Utf8.encode text))]⟩
    let o := runCommand [['x']] [] fs
    fs.read (.ofText ['x']) = .ok (Utf8.encode text) ∧
      fs.read (Config.beside (.ofText ['x'])) = .error .notFound ∧ o.Agrees ['x'] (diagnose text) ∧
      o.ending = .exit 1 ∧ (diagnose text).map Diagnostic.start = [⟨2, 1⟩] := by
  intro text fs o
  have holds : fs.read (.ofText ['x']) = .ok (Utf8.encode text) := rfl
  have missing : fs.read (Config.beside (.ofText ['x'])) = .error .notFound := rfl
  have agrees : o.Agrees ['x'] (diagnose text) := by
    refine @runCommand_agrees ['x'] text fs (by decide) (by decide) holds (fun bytes found => ?_) [] []
    rw [missing] at found
    cases found
  exact ⟨holds, missing, agrees, by decide +kernel, by decide +kernel⟩

/-- A file that can be read, but the name beside it is too long: the command stops without an answer,
though no configuration file is anywhere and the editor accepts the text. -/
theorem runCommand_beside_unanswered :
    let name : Text := (List.replicate 817 ['d', '/', '.', '.', '/']).flatten ++ ['x']
    let fs : FileSystem := ⟨[([['d']], .directory), ([['x']], .file (Utf8.encode ['7']))]⟩
    let o := runCommand [name] [] fs
    name.head? ≠ some '-' ∧ (Path.ofText name).text ≠ ['-'] ∧
      fs.read (.ofText name) = .ok (Utf8.encode ['7']) ∧
      (∀ entry ∈ fs.entries, entry.1.getLast? ≠ some Config.fileName) ∧ diagnose ['7'] = [] ∧
      o.ending = .aborted (.file (Config.beside (.ofText name)) .nameTooLong) := by
  intro name fs o
  have read : (fs.read (.ofText name)).toOption = some (Utf8.encode ['7']) := by decide +kernel
  refine ⟨by decide, by decide +kernel, ?_, by decide, by decide +kernel, by decide +kernel⟩
  cases outcome : fs.read (.ofText name) with
  | error fault =>
    rw [outcome] at read
    cases read
  | ok bytes =>
    rw [outcome] at read
    exact congrArg Except.ok (Option.some.inj read)

end StyleValue

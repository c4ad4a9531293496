import StyleValue.Proofs.Lines
import StyleValue.Proofs.Quotations
import StyleValue.Proofs.Standing

/-! What a report shows. Its six lines hold the line of the source in which the token begins, and the
carets stand below that part of the token which lies in this line. -/
namespace StyleValue

open Text

theorem Text.lines_oneLine (t : Text) : ∀ line ∈ t.lines, '\n' ∉ line :=
  Text.not_mem_splitOn '\n' t.unifyBreaks

namespace Report

def shown (r : Report) (name : Text) : List Text :=
  let line := Text.ofInt r.span.start.line
  let margin := Text.repeated ' ' (line.length + 1)
  [ "error: " ++ r.message,
    margin ++ "--> " ++ name ++ ":" ++ line ++ ":" ++ Text.ofInt r.span.start.column,
    margin ++ "|",
    line ++ " | " ++ r.sourceLine r.span.start.line,
    margin ++ "| " ++ Text.repeated ' ' (r.span.start.column - 1) ++ Text.repeated '^' r.underlined,
    margin ++ "= while parsing " ++ r.construct ]

theorem render_eq_intercalate (r : Report) (name : Text) :
    r.render name = ['\n'].intercalate (r.shown name) := by
  have feed : "\n".toList = ['\n'] := by decide
  have bar : "|\n".toList = "|".toList ++ ['\n'] := by decide
  unfold render shown
  rw [feed, bar]
  dsimp only
  simp only [List.intercalate_cons_cons, List.intercalate_singleton, List.append_assoc]

theorem sourceLine_oneLine (r : Report) (line : Int) : '\n' ∉ r.sourceLine line := by
  unfold sourceLine
  split
  · exact List.not_mem_nil
  · cases found : r.source.lines[(line - 1).toNat]? with
    | none => exact List.not_mem_nil
    | some text => exact lines_oneLine r.source text (List.mem_of_getElem? found)

theorem not_mem_repeated {c d : Char} (other : d ≠ c) (n : Int) : d ∉ Text.repeated c n :=
  fun member => other (List.eq_of_mem_replicate member)

theorem shown_oneLine {r : Report} (message : '\n' ∉ r.message) (construct : '\n' ∉ r.construct)
    {name : Text} (plain : '\n' ∉ name) : ∀ piece ∈ r.shown name, '\n' ∉ piece := by
  have spaces := not_mem_repeated (c := ' ') (d := '\n') (by decide)
  have carets := not_mem_repeated (c := '^') (d := '\n') (by decide)
  simp [shown, message, construct, plain, Numeral.ofInt_oneLine, spaces, carets, sourceLine_oneLine]

theorem splitOn_render {r : Report} (message : '\n' ∉ r.message) (construct : '\n' ∉ r.construct)
    {name : Text} (plain : '\n' ∉ name) : Text.splitOn '\n' (r.render name) = r.shown name := by
  rw [render_eq_intercalate, splitOn_eq]
  exact List.splitOn_intercalate '\n' (shown_oneLine message construct plain) (by simp [shown])

/-- What stands in front of a source line in a report. -/
def gutter (line : Nat) : Text := Text.ofInt line ++ " | "

/-- What stands in front of the carets. -/
def blankGutter (line : Nat) : Text := List.replicate ((Text.ofInt line).length + 1) ' ' ++ "| "

theorem length_blankGutter (line : Nat) : (blankGutter line).length = (gutter line).length := by
  simp [blankGutter, gutter]

/-- A report points out its token, which begins at a column of a line of its source: the line is shown
as it reads, and the carets mark that part of the token which lies in it. A token without such a part
gets one caret. -/
structure PointsOut (r : Report) (name : Text) (line column : Nat) (row : Text) : Prop where
  start : r.span.start.line = line ∧ r.span.start.column = column
  inside : 1 ≤ line ∧ line ≤ r.source.lines.length
  reads : r.source.lines[line - 1]? = some row
  columns : 1 ≤ column ∧ column ≤ row.length + 1
  aligned : (blankGutter line).length = (gutter line).length
  excerpt : ∃ message place rule construct : Text, Text.splitOn '\n' (r.render name) =
    [message, place, rule, gutter line ++ row,
      blankGutter line ++ List.replicate (column - 1) ' ' ++
        List.replicate (max 1 (firstLine r.token.value).length) '^', construct]
  marked : (row.drop (column - 1)).take (firstLine r.token.value).length = firstLine r.token.value
  unmarked : firstLine r.token.value = [] → r.token.kind = .endOfInput ∨
    ∃ c rest, r.token.value = c :: rest ∧ (c = '\r' ∨ c = '\n')

theorem PointsOut.place_eq {r : Report} {name row : Text} {line column line' column' : Nat}
    {offset : Int} (h : r.PointsOut name line column row)
    (start : r.span.start = ⟨line', column', offset⟩) : line' = line ∧ column' = column := by
  obtain ⟨lines, columns⟩ := h.start
  rw [start] at lines columns
  exact ⟨Int.ofNat.inj lines, Int.ofNat.inj columns⟩

theorem sourceLine_of_row {r : Report} {line : Nat} {source : Text} (counted : 1 ≤ line)
    (row : r.source.lines[line - 1]? = some source) : r.sourceLine line = source := by
  have index : ((line : Int) - 1).toNat = line - 1 := by omega
  rw [sourceLine, if_neg (by omega), index, row]
  rfl

theorem underlined_eq {r : Report} {line column offset width : Nat}
    (start : r.span.start = ⟨line, column, offset⟩)
    (stop : r.span.stop.line = line ∧ r.span.stop.column = column + width ∨
      line < r.span.stop.line ∧ (r.sourceLine line).length + 1 = column + width) :
    r.underlined = (max 1 width : Nat) := by
  unfold underlined
  dsimp only
  rw [start]
  dsimp only
  rcases stop with ⟨same, ends⟩ | ⟨below, ends⟩
  · rw [if_pos same, ends]
    omega
  · rw [if_neg (by omega)]
    omega

theorem splitOn_render_eq {r : Report} (message : '\n' ∉ r.message) (construct : '\n' ∉ r.construct)
    {line column offset carets : Nat} (start : r.span.start = ⟨line, column, offset⟩)
    (underlined : r.underlined = carets) {source : Text} (row : r.sourceLine line = source)
    {name : Text} (plain : '\n' ∉ name) :
    ∃ message place rule construct : Text, Text.splitOn '\n' (r.render name) =
      [message, place, rule, gutter line ++ source,
        blankGutter line ++ List.replicate (column - 1) ' ' ++ List.replicate carets '^',
        construct] := by
  have spaces : ((column : Int) - 1).toNat = column - 1 := by omega
  rw [splitOn_render message construct plain]
  unfold shown
  dsimp only
  rw [start]
  dsimp only
  rw [row, underlined, Text.repeated, Text.repeated, Text.repeated, spaces]
  exact ⟨_, _, _, _, rfl⟩

end Report

theorem Token.StandsIn.row {t : Token} {text front back : Text} (h : t.StandsIn text front back) :
    ∃ (line column : Nat) (row : Text), 1 ≤ line ∧ 1 ≤ column ∧ column ≤ row.length + 1 ∧
      text.lines[line - 1]? = some row ∧
      (row.drop (column - 1)).take (firstLine t.value).length = firstLine t.value ∧
      front.endPosition = ⟨line, column, front.length⟩ ∧
      ((front ++ t.value).endPosition.line = line ∧
          (front ++ t.value).endPosition.column = column + (firstLine t.value).length ∨
        line < (front ++ t.value).endPosition.line ∧
          row.length + 1 = column + (firstLine t.value).length) := by
  obtain ⟨above, last, tail, ending, below, fronts, whole, stop⟩ := h.rows
  refine ⟨above.length + 1, last.length + 1, last ++ firstLine t.value ++ tail, by omega, by omega,
    ?_, ?_, by simp, endPosition_eq fronts, ?_⟩
  · simp only [List.length_append]
    omega
  · rw [← map_line_rows, whole]
    simp
  -- A token that ends in a later line reaches to the end of its first one.
  · rcases stop with stop | ⟨below, rfl⟩
    · left
      rw [stop]
      simp only [List.length_append]
      omega
    · right
      simp only [List.length_append, List.length_nil]
      omega

/-- An error whose token stands in a text points it out wherever the source that it is shown in has the
same line as the text. -/
theorem Token.StandsIn.pointsOut {e : SyntaxError} {text front back : Text}
    (h : e.token.StandsIn text front back) (message : '\n' ∉ e.message)
    (ended : e.token.value = [] → e.token.kind = .endOfInput) :
    ∃ (line column : Nat) (row : Text), text.lines[line - 1]? = some row ∧
      ∀ source : Text, source.lines[line - 1]? = some row → ∀ name, '\n' ∉ name →
        (e.report source).PointsOut name line column row := by
  obtain ⟨line, column, row, counted, counted', columns, found, marked, start, stop⟩ := h.row
  refine ⟨line, column, row, found, fun source same name plain => ?_⟩
  have span := h.span_report source
  rw [start] at span
  have starts := congrArg Span.start span
  have sourceLine := Report.sourceLine_of_row (r := e.report source) counted same
  have underlined : (e.report source).underlined = (max 1 (firstLine e.token.value).length : Nat) := by
    refine Report.underlined_eq starts ?_
    rw [span, sourceLine]
    exact stop
  obtain ⟨bound, _⟩ := List.getElem?_eq_some_iff.mp same
  exact {
    start := by rw [starts]; exact ⟨rfl, rfl⟩
    inside := ⟨counted, Nat.le_of_pred_lt bound⟩
    reads := same
    columns := ⟨counted', columns⟩
    aligned := Report.length_blankGutter line
    excerpt := Report.splitOn_render_eq message e.construct_oneLine starts underlined sourceLine plain
    marked := marked
    unmarked := fun nothing => (firstLine_eq_nil nothing).imp_left ended }

theorem parse_error_shown {o : LexOptions} {source : Text} {e : SyntaxError}
    (failed : parse o source = .error e) :
    ∃ (line column : Nat) (row : Text), (o.text source).lines[line - 1]? = some row ∧
      ∀ shown : Text, shown.lines[line - 1]? = some row → ∀ name, '\n' ∉ name →
        (e.report shown).PointsOut name line column row := by
  obtain ⟨⟨front, back, stands⟩, empty⟩ := parse_error_token failed
  exact stands.pointsOut (parse_message_oneLine failed) empty.mp

/-- An error of a text that is read as it stands points out its token. -/
theorem parse_error_pointsOut {merge : Bool} {source : Text} {e : SyntaxError}
    (failed : parse ⟨merge, false⟩ source = .error e) {name : Text} (plain : '\n' ∉ name) :
    ∃ (line column : Nat) (row : Text), (e.report source).PointsOut name line column row := by
  obtain ⟨line, column, row, found, points⟩ := parse_error_shown failed
  exact ⟨line, column, row, points source found name plain⟩

/-- A fault that goes on over a line break is marked in its first line. -/
theorem parse_error_pointsOut_fault :
    let source : Text := ['7', '+', '\n', ' ', '\x01', '\x02', '\r', '\n', '7']
    let e : SyntaxError := ⟨.operand ['+'] .binary,
      ⟨.error, ['\x01', '\x02', '\r', '\n'], some ⟨⟨2, 2, 4⟩, ⟨3, 1, 8⟩⟩⟩⟩
    parse ⟨true, false⟩ source = .error e ∧ '\n' ∉ Report.defaultName ∧
      (e.report source).PointsOut Report.defaultName 2 2 [' ', '\x01', '\x02'] := by
  intro source e
  have failed : parse ⟨true, false⟩ source = .error e := by cbv
  have plain : '\n' ∉ Report.defaultName := by decide
  obtain ⟨line, column, row, points⟩ := parse_error_pointsOut failed plain
  have start : (e.report source).span.start = ⟨(2 : Nat), (2 : Nat), 4⟩ := rfl
  obtain ⟨rfl, rfl⟩ := points.place_eq start
  obtain rfl : [' ', '\x01', '\x02'] = row := Option.some.inj (points.reads ▸ by decide)
  exact ⟨failed, plain, points⟩

/-- An error of a text that is brought into its canonical form points out its token in that form, and in
the text itself if the line reads the same there. -/
theorem parse_canonical_error_pointsOut {merge : Bool} {source : Text} {e : SyntaxError}
    (failed : parse ⟨merge, true⟩ source = .error e) {name : Text} (plain : '\n' ∉ name) :
    ∃ (line column : Nat) (row : Text), (e.report source.canonical).PointsOut name line column row ∧
      (source.lines[line - 1]? = some row → (e.report source).PointsOut name line column row) := by
  obtain ⟨line, column, row, found, points⟩ := parse_error_shown failed
  exact ⟨line, column, row, points _ found name plain, fun same => points source same name plain⟩

/-- Two characters that become one do no harm in a line above the error. -/
theorem parse_canonical_error_pointsOut_below :
    let source : Text := ['e', '\u0301', '\n', ')']
    let e : SyntaxError := ⟨.expression, ⟨.rightParen, [')'], some ⟨⟨2, 1, 2⟩, ⟨2, 2, 3⟩⟩⟩⟩
    parse ⟨true, true⟩ source = .error e ∧ '\n' ∉ Report.defaultName ∧
      (e.report source).PointsOut Report.defaultName 2 1 [')'] := by
  intro source e
  have composed : source.canonical = ['é', '\n', ')'] := by decide +kernel
  have read : parse ⟨true, true⟩ source = parse ⟨true, false⟩ source.canonical := rfl
  have failed : parse ⟨true, true⟩ source = .error e := by
    rw [read, composed]
    cbv
  have plain : '\n' ∉ Report.defaultName := by decide
  obtain ⟨line, column, row, points, again⟩ := parse_canonical_error_pointsOut failed plain
  rw [composed] at points
  have start : (e.report ['é', '\n', ')']).span.start = ⟨(2 : Nat), (1 : Nat), 2⟩ := rfl
  obtain ⟨rfl, rfl⟩ := points.place_eq start
  obtain rfl : [')'] = row := Option.some.inj (points.reads ▸ by decide)
  exact ⟨failed, plain, again (by decide)⟩

/-- Two characters that become one move the caret off the bracket that it should mark: it stands below
the blank. -/
theorem parse_canonical_error_misplaced :
    let source : Text := ['e', '\u0301', ' ', ')']
    let e : SyntaxError := ⟨.expression, ⟨.rightParen, [')'], some ⟨⟨1, 3, 2⟩, ⟨1, 4, 3⟩⟩⟩⟩
    let r := e.report source
    parse ⟨true, true⟩ source = .error e ∧ r.token.kind ≠ .endOfInput ∧
      firstLine r.token.value = [')'] ∧
      Text.splitOn '\n' (r.render Report.defaultName) =
        ["error: expected expression, found RPAREN ')'".toList, "  --> input.val:1:3".toList, "  |".toList,
          "1 | ".toList ++ source, "  |   ^".toList, "  = while parsing Expression".toList] ∧
      (source.drop 2).take 1 ≠ firstLine r.token.value := by
  intro source e r
  have composed : source.canonical = ['é', ' ', ')'] := by decide +kernel
  have read : parse ⟨true, true⟩ source = parse ⟨true, false⟩ source.canonical := rfl
  refine ⟨?_, by decide, by decide, by decide, by decide⟩
  rw [read, composed]
  cbv

end StyleValue

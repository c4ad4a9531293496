import StyleValue.Proofs.Outcomes

/-! How the command ends. Some of the faults that it meets it reports with an exit code. The others stop
it in the middle of its work: what is no UTF-8, an output file that cannot be opened, names and numbers
that are too long. -/
namespace StyleValue

variable {a : Arguments} {s : Settings} {standardInput : List UInt8} {fs : FileSystem} {reason : Abort}

/-! ### Sources that cannot be read -/

inductive Input.Fails (standardInput : List UInt8) (fs : FileSystem) : Input → Failure → Prop where
  | standardInput {fault : Utf8.Fault} : Utf8.decode standardInput = .error fault →
      Fails standardInput fs .standardInput (.aborted (.undecodable fault))
  | bytes {path : Path} {bytes : List UInt8} {fault : Utf8.Fault} : fs.read path = .ok bytes →
      Utf8.decode bytes = .error fault →
      Fails standardInput fs (.file path) (.aborted (.undecodable fault))
  | name {path : Path} : fs.read path = .error .nullCharacter →
      Fails standardInput fs (.file path) (.aborted (.file path .nullCharacter))
  | file {path : Path} {fault : FileFault} : fs.read path = .error fault → fault ≠ .nullCharacter →
      Fails standardInput fs (.file path) (.file path fault)

theorem map_readText_error {bytes : List UInt8} {failure : Failure} :
    some <$> readText bytes = .error failure ↔
      ∃ fault, Utf8.decode bytes = .error fault ∧ .aborted (.undecodable fault) = failure := by
  unfold readText
  cases Utf8.decode bytes <;> simp [Functor.map, Except.map]

theorem map_readText_ok {bytes : List UInt8} : some <$> readText bytes ≠ .ok none := by
  unfold readText
  cases Utf8.decode bytes <;> simp [Functor.map, Except.map]

theorem Input.read_error_iff {input : Input} {failure : Failure} :
    input.read standardInput fs = .error failure ↔ input.Fails standardInput fs failure := by
  constructor
  · intro failed
    cases input with
    | expression t => cases failed
    | blank => cases failed
    | standardInput =>
      obtain ⟨fault, decoded, rfl⟩ := map_readText_error.mp failed
      exact .standardInput decoded
    | file path =>
      unfold Input.read at failed
      dsimp only at failed
      split at failed
      · obtain ⟨fault, decoded, rfl⟩ := map_readText_error.mp failed
        exact .bytes ‹_› decoded
      · cases failed
        exact .name ‹_›
      · cases failed
        exact .file ‹_› ‹_›
  · intro fails
    cases fails with
    | standardInput decoded => exact map_readText_error.mpr ⟨_, decoded, rfl⟩
    | bytes read decoded =>
      unfold Input.read
      dsimp only
      rw [read]
      exact map_readText_error.mpr ⟨_, decoded, rfl⟩
    | name read =>
      unfold Input.read
      dsimp only
      rw [read]
    | @file path fault read other =>
      unfold Input.read
      dsimp only
      rw [read]
      cases fault <;> first | rfl | exact absurd rfl other

theorem Input.read_none_iff {input : Input} :
    input.read standardInput fs = .ok none ↔ input = .blank := by
  cases input with
  | expression t => simp [Input.read]
  | blank => simp [Input.read]
  | standardInput => simp [Input.read, map_readText_ok]
  | file path =>
    unfold Input.read
    dsimp only
    split <;> simp [map_readText_ok]

theorem Settings.parsed_eq (ts : List Token) : parsed ts =
    match parseTokens ts with
    | .ok p => .ok p
    | .error e => .error (.program e) := by
  unfold parsed
  cases parseTokens ts <;> rfl

/-- Reading has put nothing out for two reasons only: a syntax error, and a blank in place of a text to
normalize. -/
theorem Settings.process_error_iff {source : Option Text} {failure : Failure} :
    (s.process source).result = .error failure ↔
      (∃ format e, s.view = .program format ∧ parseTokens (s.tokens source).result = .error e ∧
        .program e = failure) ∨
      source = none ∧ s.view = .characters ∧ s.lexer.normalize = true ∧
        .aborted .blankNormalized = failure := by
  unfold process
  cases s.view with
  | characters =>
    unfold characters
    cases source with
    | some t => simp [Except.map]
    | none => cases s.lexer.normalize <;> simp [Except.map]
  | tokens => simp
  | program format =>
    dsimp only
    rw [parsed_eq]
    cases parseTokens (s.tokens source).result <;> simp [Except.map]

/-! ### Settings -/

/-- Faults of a configuration file that are not reported. -/
inductive Config.Stops (fs : FileSystem) (path : Path) : Abort → Prop where
  | name : fs.read path = .error .nameTooLong → Stops fs path (.file path .nameTooLong)
  | bytes {bytes : List UInt8} {fault : Utf8.Fault} : fs.read path = .ok bytes →
      Utf8.decode bytes = .error fault → Stops fs path (.undecodable fault)
  | integer {bytes : List UInt8} {t : Text} {digits : Nat} : fs.read path = .ok bytes →
      Utf8.decode bytes = .ok t → Toml.read t = .error (.integerTooLong digits) →
      Stops fs path (.integerTooLong digits)
  | format {table : Toml.Table} {v : Toml.Value} : load fs path = .ok table →
      value? table "output" "format" = some v → v.writable = false → Stops fs path .integerUnwritable

theorem Config.load_aborted {path : Path} (stopped : load fs path = .error (.aborted reason)) :
    Stops fs path reason := by
  unfold load at stopped
  split at stopped
  · cases stopped
    exact .name ‹_›
  · cases stopped
  · split at stopped
    · cases stopped
      exact .bytes ‹_› ‹_›
    · split at stopped
      · cases stopped
      · cases stopped
      · cases stopped
        exact .integer ‹_› ‹_› ‹_›

theorem Config.format_aborted_iff {table : Toml.Table} :
    format table = .error (.aborted reason) ↔
      reason = .integerUnwritable ∧
        ∃ v, value? table "output" "format" = some v ∧ v.writable = false := by
  unfold format
  cases value? table "output" "format" with
  | none => simp
  | some v =>
    dsimp only
    cases writable : v.writable with
    | false =>
      rw [if_pos (by decide)]
      constructor
      · intro same
        cases same
        exact ⟨rfl, v, rfl, writable⟩
      · rintro ⟨rfl, _⟩
        rfl
    | true =>
      rw [if_neg (by decide)]
      cases OutputFormat.ofText? v.shown <;> simp [writable]

theorem Config.stops_iff {path : Path} : Stops fs path reason ↔
    load fs path = .error (.aborted reason) ∨
      ∃ table, load fs path = .ok table ∧ format table = .error (.aborted reason) := by
  constructor
  · intro stops
    cases stops with
    | format loaded value unwritable =>
      exact .inr ⟨_, loaded, format_aborted_iff.mpr ⟨rfl, _, value, unwritable⟩⟩
    | name read => simp [load, read]
    | bytes read decoded => simp [load, read, decoded]
    | integer read decoded table => simp [load, read, decoded, table]
  · rintro (stopped | ⟨table, loaded, stopped⟩)
    · exact load_aborted stopped
    · obtain ⟨rfl, v, value, unwritable⟩ := format_aborted_iff.mp stopped
      exact .format loaded value unwritable

theorem Settings.ofArguments_aborted_iff : ofArguments fs a = .error (.aborted reason) ↔
    (∃ input, inputOf a = .ok input) ∧ Config.Stops fs (Config.path a) reason := by
  have reported : inputOf a ≠ .error (.aborted reason) := by
    unfold inputOf
    split <;> simp
  rw [Config.stops_iff]
  unfold ofArguments
  cases input : inputOf a with
  | error e => simpa [bind, Except.bind, input] using reported
  | ok _ =>
    cases Config.load fs (Config.path a) with
    | error _ => simp [bind, Except.bind]
    | ok table =>
      simp only [bind, Except.bind]
      cases format : Config.format table <;> simp [pure, Except.pure, format]

/-! ### Runs -/

inductive Settings.Stops (s : Settings) (standardInput : List UInt8) (fs : FileSystem) :
    Abort → Prop where
  | input {reason : Abort} : s.input.Fails standardInput fs (.aborted reason) →
      Stops s standardInput fs reason
  | blank : s.input = .blank → s.view = .characters → s.lexer.normalize = true →
      Stops s standardInput fs .blankNormalized
  | output {text : Text} {path : Path} {fault : FileFault} : s.Yields standardInput fs text →
      s.output = some path → fs.write path (Utf8.encode text) = .error fault →
      Stops s standardInput fs (.file path fault)

theorem Settings.fail_aborted_iff {source log : Text} {failure : Failure} :
    (s.fail source log fs failure).ending = .aborted reason ↔ failure = .aborted reason := by
  cases failure <;> simp [fail]

theorem Settings.run_aborted_iff :
    (s.run standardInput fs).ending = .aborted reason ↔ s.Stops standardInput fs reason := by
  constructor
  · intro stopped
    have ends := s.run_ends standardInput fs
    generalize s.run standardInput fs = o at ends stopped
    cases ends with
    | unread read =>
      obtain rfl := fail_aborted_iff.mp stopped
      exact .input (Input.read_error_iff.mp read)
    | failed read processed =>
      obtain rfl := fail_aborted_iff.mp stopped
      rcases process_error_iff.mp processed with ⟨_, _, _, _, program⟩ | ⟨rfl, view, normalize, same⟩
      · cases program
      · cases same
        exact .blank (Input.read_none_iff.mp read) view normalize
    | shown _ _ _ => cases stopped
    | written _ _ _ _ => cases stopped
    | unwritten read processed output write =>
      cases stopped
      exact .output ⟨_, read, processed⟩ output write
  · intro stops
    unfold run
    cases stops with
    | input fails => rw [Input.read_error_iff.mpr fails]; rfl
    | blank blank view normalize =>
      rw [Input.read_none_iff.mpr blank]
      dsimp only
      rw [process_error_iff.mpr (.inr ⟨rfl, view, normalize, rfl⟩)]
      rfl
    | output yields output write =>
      obtain ⟨source, read, processed⟩ := yields
      rw [read]
      dsimp only
      rw [processed, output]
      dsimp only [deliver]
      rw [write]

theorem Settings.run_reports {path : Path} {fault : FileFault}
    (fails : s.input.Fails standardInput fs (.file path fault)) :
    (s.run standardInput fs).ending = .exit 2 ∧
      (s.run standardInput fs).errors = errorLine (fault.text path) := by
  unfold run
  rw [Input.read_error_iff.mpr fails]
  exact ⟨rfl, rfl⟩

theorem Settings.run_exits : (∃ reason, (s.run standardInput fs).ending = .aborted reason) ∨
    (s.run standardInput fs).ending = .exit 0 ∨ (s.run standardInput fs).ending = .exit 1 ∨
    (s.run standardInput fs).ending = .exit 2 ∧
      ∃ path fault, s.input.Fails standardInput fs (.file path fault) := by
  have ends := s.run_ends standardInput fs
  generalize s.run standardInput fs = o at ends ⊢
  cases ends with
  | @unread failure read =>
    cases failure with
    | file path fault => exact .inr (.inr (.inr ⟨rfl, path, fault, Input.read_error_iff.mp read⟩))
    | program e => exact .inr (.inr (.inl rfl))
    | aborted reason => exact .inl ⟨reason, rfl⟩
  | failed _ processed =>
    rcases process_error_iff.mp processed with ⟨_, _, _, _, rfl⟩ | ⟨_, _, _, rfl⟩
    · exact .inr (.inr (.inl rfl))
    · exact .inl ⟨_, rfl⟩
  | shown _ _ _ => exact .inr (.inl rfl)
  | written _ _ _ _ => exact .inr (.inl rfl)
  | unwritten _ _ _ _ => exact .inl ⟨_, rfl⟩

/-! ### The command -/

/-- Faults that stop the command without a report. -/
inductive Arguments.Stops (a : Arguments) (standardInput : List UInt8) (fs : FileSystem) :
    Abort → Prop where
  | config {input : Input} {reason : Abort} : Settings.inputOf a = .ok input →
      Config.Stops fs (Config.path a) reason → Stops a standardInput fs reason
  | run {s : Settings} {reason : Abort} : Settings.ofArguments fs a = .ok s →
      s.Stops standardInput fs reason → Stops a standardInput fs reason

/-- Faults that the command reports, each with what it says of it. -/
inductive Arguments.Reports (a : Arguments) (standardInput : List UInt8) (fs : FileSystem) :
    Text → Prop where
  | settings {e : SettingsError} : Settings.ofArguments fs a = .error e →
      (∀ reason, e ≠ .aborted reason) → Reports a standardInput fs e.message
  | input {s : Settings} {path : Path} {fault : FileFault} : Settings.ofArguments fs a = .ok s →
      s.input.Fails standardInput fs (.file path fault) → Reports a standardInput fs (fault.text path)

section

variable {arguments : List Text}

theorem runCommand_settled (accepted : Arguments.read arguments = .ok a)
    (settled : Settings.ofArguments fs a = .ok s) :
    runCommand arguments standardInput fs = s.run standardInput fs := by
  unfold runCommand
  rw [accepted]
  dsimp only
  rw [settled]

theorem runCommand_stopped (accepted : Arguments.read arguments = .ok a)
    (stopped : Settings.ofArguments fs a = .error (.aborted reason)) :
    runCommand arguments standardInput fs = ⟨.aborted reason, [], [], fs⟩ := by
  unfold runCommand
  rw [accepted]
  dsimp only
  rw [stopped]

theorem runCommand_unsettled (accepted : Arguments.read arguments = .ok a) {e : SettingsError}
    (unsettled : Settings.ofArguments fs a = .error e) (own : ∀ reason, e ≠ .aborted reason) :
    runCommand arguments standardInput fs = ⟨.exit 2, [], errorLine e.message, fs⟩ := by
  unfold runCommand
  rw [accepted]
  dsimp only
  rw [unsettled]
  cases e with
  | aborted reason => exact absurd rfl (own reason)
  | _ => rfl

theorem runCommand_aborted_iff (accepted : Arguments.read arguments = .ok a) :
    (runCommand arguments standardInput fs).ending = .aborted reason ↔
      a.Stops standardInput fs reason := by
  constructor
  · intro stopped
    cases settled : Settings.ofArguments fs a with
    | ok s =>
      rw [runCommand_settled accepted settled] at stopped
      exact .run settled (Settings.run_aborted_iff.mp stopped)
    | error e =>
      cases e with
      | aborted reason' =>
        rw [runCommand_stopped accepted settled] at stopped
        cases stopped
        obtain ⟨⟨_, input⟩, stops⟩ := Settings.ofArguments_aborted_iff.mp settled
        exact .config input stops
      | _ =>
        rw [runCommand_unsettled accepted settled nofun] at stopped
        cases stopped
  · intro stops
    cases stops with
    | config input stops =>
      rw [runCommand_stopped accepted (Settings.ofArguments_aborted_iff.mpr ⟨⟨_, input⟩, stops⟩)]
    | run settled stops =>
      rw [runCommand_settled accepted settled]
      exact Settings.run_aborted_iff.mpr stops

theorem runCommand_reports (accepted : Arguments.read arguments = .ok a) {message : Text}
    (reports : a.Reports standardInput fs message) :
    (runCommand arguments standardInput fs).ending = .exit 2 ∧
      (runCommand arguments standardInput fs).errors = errorLine message := by
  cases reports with
  | settings unsettled own =>
    rw [runCommand_unsettled accepted unsettled own]
    exact ⟨rfl, rfl⟩
  | input settled fails =>
    rw [runCommand_settled accepted settled]
    exact Settings.run_reports fails

theorem runCommand_exits (accepted : Arguments.read arguments = .ok a) :
    (∃ reason, (runCommand arguments standardInput fs).ending = .aborted reason) ∨
      (runCommand arguments standardInput fs).ending = .exit 0 ∨
      (runCommand arguments standardInput fs).ending = .exit 1 ∨
      (runCommand arguments standardInput fs).ending = .exit 2 ∧
        ∃ message, a.Reports standardInput fs message := by
  cases settled : Settings.ofArguments fs a with
  | ok s =>
    rw [runCommand_settled accepted settled]
    refine Settings.run_exits.imp_right (Or.imp_right (Or.imp_right (And.imp_right ?_)))
    rintro ⟨path, fault, fails⟩
    exact ⟨_, .input settled fails⟩
  | error e =>
    cases e with
    | aborted reason =>
      rw [runCommand_stopped accepted settled]
      exact .inl ⟨reason, rfl⟩
    | _ =>
      rw [runCommand_unsettled accepted settled nofun]
      exact .inr (.inr (.inr ⟨rfl, _, .settings settled nofun⟩))

/-- A command whose arguments are accepted ends with an exit code unless one of the faults stops it that
it does not report. What it does report has the exit code 2. -/
theorem runCommand_answers (accepted : Arguments.read arguments = .ok a) (standardInput : List UInt8)
    (fs : FileSystem) :
    let o := runCommand arguments standardInput fs
    ((∃ code, code ≤ 2 ∧ o.ending = .exit code) ↔ ¬∃ reason, a.Stops standardInput fs reason) ∧
      (∀ reason, o.ending = .aborted reason ↔ a.Stops standardInput fs reason) ∧
      (o.ending = .exit 2 ↔ ∃ message, a.Reports standardInput fs message) ∧
      ∀ message, a.Reports standardInput fs message → o.errors = errorLine message := by
  intro o
  have exits := @runCommand_exits a standardInput fs arguments accepted
  refine ⟨⟨?_, ?_⟩, fun _ => runCommand_aborted_iff accepted, ⟨fun two => ?_, ?_⟩,
    fun _ reports => (runCommand_reports accepted reports).2⟩
  · rintro ⟨code, _, exit⟩ ⟨reason, stops⟩
    have stopped := (runCommand_aborted_iff accepted).mpr stops
    rw [exit] at stopped
    cases stopped
  · intro never
    rcases exits with ⟨reason, stopped⟩ | zero | one | ⟨two, _⟩
    · exact absurd ⟨reason, (runCommand_aborted_iff accepted).mp stopped⟩ never
    · exact ⟨0, by decide, zero⟩
    · exact ⟨1, by decide, one⟩
    · exact ⟨2, by decide, two⟩
  · rcases exits with ⟨reason, stopped⟩ | zero | one | ⟨_, reports⟩
    · rw [stopped] at two
      cases two
    · rw [zero] at two
      cases two
    · rw [one] at two
      cases two
    · exact reports
  · rintro ⟨message, reports⟩
    exact (runCommand_reports accepted reports).1

end

/-- A file that is not there is reported. -/
theorem runCommand_answers_missing :
    let a : Arguments := { Arguments.initial with input := some ['x'] }
    let o := runCommand [['x']] [] .empty
    Arguments.read [['x']] = .ok a ∧ a.Reports [] .empty (FileFault.notFound.text ⟨[], [['x']]⟩) ∧
      o.ending = .exit 2 ∧ o.errors = "error: [Errno 2] No such file or directory: 'x'\n".toList := by
  intro a o
  have accepted : Arguments.read [['x']] = .ok a := rfl
  have settled : Settings.ofArguments .empty a =
      .ok ⟨.file ⟨[], [['x']]⟩, none, .standard, .program .tree, false⟩ := rfl
  have reports : a.Reports [] .empty (FileFault.notFound.text ⟨[], [['x']]⟩) :=
    .input settled (.file rfl (by decide))
  obtain ⟨_, _, two, message⟩ := runCommand_answers accepted [] .empty
  exact ⟨accepted, reports, two.mpr ⟨_, reports⟩, (message _ reports).trans (by decide)⟩

/-- An output file in a directory that is not there stops the command without an exit code and without a
word. -/
theorem runCommand_output_unreported :
    let arguments : List Text :=
      ["--expr".toList, ['7'], ['-', 'o'], ['n', 'o', '/', 'o', '.', 't', 'x', 't']]
    let o := runCommand arguments [] .empty
    let a : Arguments := { Arguments.initial with
      expr := some (.text ['7']), output := some ['n', 'o', '/', 'o', '.', 't', 'x', 't'] }
    Arguments.read arguments = .ok a ∧ (∀ code, o.ending ≠ .exit code) ∧
      o.ending = .aborted (.file ⟨[], [['n', 'o'], ['o', '.', 't', 'x', 't']]⟩ .notFound) ∧
      o.errors = [] := by
  intro arguments o a
  have accepted : Arguments.read arguments = .ok a := rfl
  have stopped : o.ending =
      .aborted (.file ⟨[], [['n', 'o'], ['o', '.', 't', 'x', 't']]⟩ .notFound) := by decide +kernel
  have silent : o.errors = [] := by decide +kernel
  refine ⟨accepted, fun code exit => ?_, stopped, silent⟩
  rw [stopped] at exit
  cases exit

end StyleValue

import StyleValue.Command.Run
import StyleValue.Proofs.Files

/-! What a run of the command leaves behind. A text is put out at the very end, after all that can fail
but the opening of the output file, so a run that fails has put out nothing. -/
namespace StyleValue

/-! ### Logs -/

namespace Settings

theorem tokenizer_quiet {s : Settings} (quiet : s.debug = false) : s.tokenizer.log = none := by
  simp [tokenizer, quiet]

end Settings

theorem Tokenizer.entry_quiet {t : Tokenizer} (quiet : t.log = none) (text : Log → Text) :
    t.entry text = [] := by
  rw [entry, quiet]

namespace Settings

/-- Only a debugging run keeps a log. -/
theorem trace_process {s : Settings} (quiet : s.debug = false) (source : Option Text) :
    (s.process source).trace = [] := by
  have silent := Tokenizer.entry_quiet (tokenizer_quiet quiet)
  unfold process
  cases s.view with
  | characters =>
    unfold characters
    cases source with
    | none => cases s.lexer.normalize <;> simp [blankEntry, Tokenizer.characterResultEntry, silent]
    | some t =>
      simp [Tokenizer.characters, Tokenizer.sourceEntry, Tokenizer.characterResultEntry, silent]
  | tokens =>
    cases source <;> simp [tokens, Tokenizer.tokenize, Tokenizer.tokenizeReader,
      Tokenizer.sourceEntry, Tokenizer.tokenResultEntry, silent]
  | program format =>
    cases source <;> simp [tokens, Tokenizer.tokenize, Tokenizer.tokenizeReader,
      Tokenizer.sourceEntry, Tokenizer.tokenResultEntry, silent]

/-- The text that a run has to put out. -/
def Yields (s : Settings) (standardInput : List UInt8) (fs : FileSystem) (text : Text) : Prop :=
  ∃ source, s.input.read standardInput fs = .ok source ∧ (s.process source).result = .ok text

end Settings

/-! ### Runs -/

namespace Settings

variable {s : Settings} {standardInput : List UInt8} {fs : FileSystem} {a : Arguments}

/-- All that a run can come to: the source cannot be read, there is nothing to put out, or a text is put
out as far as the output file allows. -/
inductive Ends (s : Settings) (standardInput : List UInt8) (fs : FileSystem) : Outcome → Prop where
  | unread {failure : Failure} : s.input.read standardInput fs = .error failure →
      Ends s standardInput fs (s.fail [] [] fs failure)
  | failed {source : Option Text} {failure : Failure} :
      s.input.read standardInput fs = .ok source → (s.process source).result = .error failure →
      Ends s standardInput fs (s.fail (source.getD []) (s.process source).trace fs failure)
  | shown {source : Option Text} {text : Text} : s.input.read standardInput fs = .ok source →
      (s.process source).result = .ok text → s.output = none →
      Ends s standardInput fs ⟨.exit 0, text, (s.process source).trace, fs⟩
  | written {source : Option Text} {text : Text} {path : Path} {fs' : FileSystem} :
      s.input.read standardInput fs = .ok source → (s.process source).result = .ok text →
      s.output = some path → fs.write path (Utf8.encode text) = .ok fs' →
      Ends s standardInput fs ⟨.exit 0, [], (s.process source).trace, fs'⟩
  | unwritten {source : Option Text} {text : Text} {path : Path} {fault : FileFault} :
      s.input.read standardInput fs = .ok source → (s.process source).result = .ok text →
      s.output = some path → fs.write path (Utf8.encode text) = .error fault →
      Ends s standardInput fs ⟨.aborted (.file path fault), [], (s.process source).trace, fs⟩

theorem run_ends (s : Settings) (standardInput : List UInt8) (fs : FileSystem) :
    s.Ends standardInput fs (s.run standardInput fs) := by
  unfold run
  cases read : s.input.read standardInput fs with
  | error failure => exact .unread read
  | ok source =>
    dsimp only
    cases processed : (s.process source).result with
    | error failure => exact .failed read processed
    | ok text =>
      unfold deliver
      dsimp only
      cases output : s.output with
      | none => exact .shown read processed output
      | some path =>
        dsimp only
        cases write : fs.write path (Utf8.encode text) with
        | error fault => exact .unwritten read processed output write
        | ok fs' => exact .written read processed output write

theorem ofArguments_eq (settled : ofArguments fs a = .ok s) :
    inputOf a = .ok s.input ∧ s.output = outputOf a ∧ s.debug = a.debug := by
  unfold ofArguments at settled
  cases input : inputOf a with
  | error e => simp [input, bind, Except.bind] at settled
  | ok _ =>
    cases config : Config.load fs (Config.path a) with
    | error e => simp [input, config, bind, Except.bind] at settled
    | ok table =>
      cases format : Config.format table with
      | error e => simp [input, config, format, bind, Except.bind] at settled
      | ok _ =>
        simp only [input, config, format, bind, Except.bind, pure, Except.pure] at settled
        cases settled
        exact ⟨rfl, rfl, rfl⟩

theorem outputOf_eq_none (unnamed : outputOf a = none) : a.output = none ∨ a.output = some [] := by
  unfold outputOf at unnamed
  split at unnamed
  · exact .inl ‹_›
  · exact .inr ‹_›
  · cases unnamed

theorem outputOf_eq_some {path : Path} (named : outputOf a = some path) :
    ∃ name, a.output = some name ∧ name ≠ [] ∧ path = .ofText name := by
  unfold outputOf at named
  split at named
  · cases named
  · cases named
  · rename_i name filled given
    cases named
    exact ⟨name, given, filled, rfl⟩

end Settings

/-! ### Nothing and one place -/

namespace Outcome

structure Untouched (o : Outcome) (fs : FileSystem) : Prop where
  output : o.output = []
  files : o.files = fs

/-- A text is put out in one place: the output file that the arguments name or, without a name,
standard output. -/
inductive Delivers (a : Arguments) (fs : FileSystem) (text : Text) (o : Outcome) : Prop where
  | standardOutput : a.output = none ∨ a.output = some [] → o.output = text → o.files = fs →
      Delivers a fs text o
  | file {name : Text} {l : Location} : a.output = some name → name ≠ [] → o.output = [] →
      fs.locate (.ofText name) = .ok l → o.files.read (.ofText name) = .ok (Utf8.encode text) →
      (∀ l', l' ≠ l → o.files.entry? l' = fs.entry? l') → Delivers a fs text o

/-- How a run leaves the files that it found, and the two standard streams. -/
def Leaves (o : Outcome) (arguments : List Text) (standardInput : List UInt8) (fs : FileSystem) :
    Prop :=
  match o.ending with
  | .exit 0 => ∃ a s text, Arguments.read arguments = .ok a ∧ Settings.ofArguments fs a = .ok s ∧
      s.Yields standardInput fs text ∧ o.Delivers a fs text ∧ (a.debug = false → o.errors = [])
  | .exit _ | .aborted _ => o.Untouched fs
  | .refused _ => True

end Outcome

theorem Settings.fail_leaves (s : Settings) (source log : Text) (fs : FileSystem) (failure : Failure)
    (arguments : List Text) (standardInput : List UInt8) :
    (s.fail source log fs failure).Leaves arguments standardInput fs := by
  cases failure <;> exact ⟨rfl, rfl⟩

theorem Settings.run_leaves {s : Settings} {fs : FileSystem} {arguments : List Text} {a : Arguments}
    (accepted : Arguments.read arguments = .ok a) (settled : Settings.ofArguments fs a = .ok s)
    (standardInput : List UInt8) :
    (s.run standardInput fs).Leaves arguments standardInput fs := by
  obtain ⟨_, named, debugs⟩ := Settings.ofArguments_eq settled
  have quiet (source : Option Text) (off : a.debug = false) : (s.process source).trace = [] :=
    Settings.trace_process (debugs.trans off) source
  have ends := s.run_ends standardInput fs
  generalize s.run standardInput fs = o at ends ⊢
  cases ends with
  | unread _ => apply Settings.fail_leaves
  | failed _ _ => apply Settings.fail_leaves
  | unwritten _ _ _ _ => exact ⟨rfl, rfl⟩
  | @shown source text read processed output =>
    have place := Settings.outputOf_eq_none (named.symm.trans output)
    exact ⟨a, s, text, accepted, settled, ⟨source, read, processed⟩,
      .standardOutput place rfl rfl, quiet source⟩
  | @written source text path fs' read processed output write =>
    obtain ⟨name, given, filled, rfl⟩ := Settings.outputOf_eq_some (named.symm.trans output)
    obtain ⟨l, located, _, rfl⟩ := FileSystem.write_put write
    have others (l' : Location) (other : l' ≠ l) :=
      FileSystem.entry?_put_ne fs (.file (Utf8.encode text)) other
    exact ⟨a, s, text, accepted, settled, ⟨source, read, processed⟩,
      .file given filled rfl located (FileSystem.read_write write) others, quiet source⟩

/-- A run that fails has put out nothing and changed no file, whatever it was asked for. A run that
succeeds has put out all of its text, and in one place. -/
theorem runCommand_leaves (arguments : List Text) (standardInput : List UInt8) (fs : FileSystem) :
    (runCommand arguments standardInput fs).Leaves arguments standardInput fs := by
  unfold runCommand
  cases accepted : Arguments.read arguments with
  | error refusal => cases refusal <;> exact trivial
  | ok a =>
    dsimp only
    cases settled : Settings.ofArguments fs a with
    | error e => cases e <;> exact ⟨rfl, rfl⟩
    | ok s => exact Settings.run_leaves accepted settled standardInput

end StyleValue

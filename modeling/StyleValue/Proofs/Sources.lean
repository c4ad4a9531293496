import StyleValue.Proofs.Endings
import StyleValue.Proofs.Lines

/-! Where the command takes its source from. Parts of a path that mean nothing are dropped before a dash
is looked for, so standard input has more spellings than one. -/
namespace StyleValue

/-! ### Spellings of standard input -/

/-- A dash, with nothing around it but parts that mean nothing in a path. -/
structure SpellsDash (t : Text) : Prop where
  relative : t.head? ≠ some '/'
  dash : ∃ before after : List Text, (∀ part ∈ before ++ after, part = [] ∨ part = ['.']) ∧
    t = Text.joined ['/'] (before ++ ['-'] :: after)

theorem Text.joined_eq (separator : Text) (pieces : List Text) :
    Text.joined separator pieces = separator.intercalate pieces := by
  fun_induction Text.joined separator pieces with
  | case1 => rfl
  | case2 piece => simp [List.intercalate]
  | case3 piece pieces filled ih =>
    cases pieces with
    | nil => exact absurd rfl filled
    | cons next pieces => rw [ih, List.intercalate_cons_cons]

theorem Text.splitOn_eq_iff {separator : Char} {t : Text} {pieces : List Text} (filled : pieces ≠ [])
    (plain : ∀ piece ∈ pieces, separator ∉ piece) :
    Text.splitOn separator t = pieces ↔ t = Text.joined [separator] pieces := by
  rw [Text.splitOn_eq, Text.joined_eq]
  constructor
  · rintro rfl
    exact (List.intercalate_splitOn separator).symm
  · rintro rfl
    exact List.splitOn_intercalate separator plain filled

namespace Path

theorem rootOf_eq_nil_iff {t : Text} : rootOf t = [] ↔ t.head? ≠ some '/' := by
  cases t with
  | nil => simp [rootOf]
  | cons c rest =>
    by_cases slash : c = '/'
    · subst slash
      simp only [rootOf, List.head?_cons, ne_eq, not_true_eq_false, iff_false]
      split
      · simp_all
      · decide
      · decide
    · simp [rootOf, slash]

theorem head?_rootOf {t : Text} (rooted : rootOf t ≠ []) : (rootOf t).head? = some '/' := by
  unfold rootOf at rooted ⊢
  split
  · simp_all
  · rfl
  · rfl

theorem text_eq_dash_iff {path : Path} (slash : path.root ≠ [] → path.root.head? = some '/') :
    path.text = ['-'] ↔ path.root = [] ∧ path.parts = [['-']] := by
  obtain ⟨root, parts⟩ := path
  constructor
  · intro same
    unfold text at same
    cases root with
    | cons c root =>
      rw [if_neg (by simp)] at same
      cases slash (List.cons_ne_nil c root)
      exact absurd (List.cons.inj same).1 (by decide)
    | nil =>
      cases parts with
      | nil => exact absurd same (by decide)
      | cons part parts =>
        rw [if_neg (by simp)] at same
        cases parts with
        | nil => exact ⟨rfl, by simpa [Text.joined] using same⟩
        | cons other parts =>
          -- Two parts have a slash between them.
          have inside : '/' ∈ Text.joined "/" (part :: other :: parts) := by simp [Text.joined]
          rw [List.nil_append] at same
          rw [same] at inside
          exact absurd inside (by decide)
  · rintro ⟨rfl, rfl⟩
    rfl

theorem parts_eq_dash_iff {t : Text} : (ofText t).parts = [['-']] ↔
    ∃ before after : List Text, (∀ part ∈ before ++ after, part = [] ∨ part = ['.']) ∧
      t = Text.joined ['/'] (before ++ ['-'] :: after) := by
  have idle : ∀ part : Text, ¬(part != [] && part != ['.']) = true ↔ part = [] ∨ part = ['.'] := by
    intro part
    by_cases empty : part = [] <;> simp [empty]
  change List.filter _ _ = _ ↔ _
  rw [List.filter_eq_cons_iff]
  simp only [List.filter_eq_nil_iff, idle, List.forall_mem_append]
  constructor
  · rintro ⟨before, after, split, front, _, back⟩
    have plain := Text.not_mem_splitOn '/' t
    rw [split] at plain
    exact ⟨before, after, ⟨front, back⟩, (Text.splitOn_eq_iff (by simp) plain).mp split⟩
  · rintro ⟨before, after, ⟨front, back⟩, rfl⟩
    have plain : ∀ part ∈ before ++ ['-'] :: after, '/' ∉ part := by
      have idlePlain : ∀ part : Text, part = [] ∨ part = ['.'] → '/' ∉ part := by
        rintro part (rfl | rfl) <;> decide
      rw [List.forall_mem_append, List.forall_mem_cons]
      exact ⟨fun part member => idlePlain part (front part member), by decide,
        fun part member => idlePlain part (back part member)⟩
    exact ⟨before, after, (Text.splitOn_eq_iff (by simp) plain).mpr rfl, front, by decide, back⟩

theorem text_ofText_eq_dash_iff {t : Text} : (ofText t).text = ['-'] ↔ SpellsDash t := by
  have slash : (ofText t).root ≠ [] → (ofText t).root.head? = some '/' := head?_rootOf
  rw [text_eq_dash_iff slash, parts_eq_dash_iff]
  constructor
  · rintro ⟨root, parts⟩
    exact ⟨rootOf_eq_nil_iff.mp root, parts⟩
  · rintro ⟨relative, parts⟩
    exact ⟨rootOf_eq_nil_iff.mpr relative, parts⟩

end Path

theorem Input.ofText_dash {t : Text} (dash : SpellsDash t) : ofText t = .standardInput :=
  if_pos (Path.text_ofText_eq_dash_iff.mpr dash)

theorem Input.ofText_file {t : Text} (file : ¬SpellsDash t) : ofText t = .file (.ofText t) :=
  if_neg (mt Path.text_ofText_eq_dash_iff.mp file)

/-! ### What a run depends on -/

section

variable {s : Settings} {a : Arguments} {fs : FileSystem} {arguments : List Text} {name : Text}

/-- Standard input is read: two that are no text stop the run with different faults. -/
theorem Settings.run_reads (input : s.input = .standardInput) :
    ∃ one other, s.run one fs ≠ s.run other fs := by
  have stops : ∀ {bytes : List UInt8} {fault : Utf8.Fault}, Utf8.decode bytes = .error fault →
      (s.run bytes fs).ending = .aborted (.undecodable fault) := by
    intro bytes fault undecodable
    apply run_aborted_iff.mpr
    refine .input ?_
    rw [input]
    exact .standardInput undecodable
  have one : Utf8.decode [0xFF] = .error ⟨0, 1, 0xFF, .invalidStart⟩ := rfl
  have other : Utf8.decode [0xFE] = .error ⟨0, 1, 0xFE, .invalidStart⟩ := rfl
  refine ⟨[0xFF], [0xFE], fun same => ?_⟩
  have endings := congrArg Outcome.ending same
  rw [stops one, stops other] at endings
  exact absurd endings (by decide)

theorem Settings.run_ignores {path : Path} (input : s.input = .file path) (one other : List UInt8) :
    s.run one fs = s.run other fs := by
  unfold run
  rw [input]
  rfl

theorem Settings.input_of_settled (settled : ofArguments fs a = .ok s) (given : a.input = some name)
    (single : a.expr = none) : s.input = .ofText name := by
  have chosen := (ofArguments_eq settled).1
  unfold inputOf at chosen
  rw [given, single] at chosen
  exact (Except.ok.inj chosen).symm

theorem runCommand_ignores {e : SettingsError} (accepted : Arguments.read arguments = .ok a)
    (unsettled : Settings.ofArguments fs a = .error e) (one other : List UInt8) :
    runCommand arguments one fs = runCommand arguments other fs := by
  unfold runCommand
  rw [accepted]
  dsimp only
  rw [unsettled]
  cases e <;> rfl

/-- Where nothing is wrong with the configuration, standard input is read and named just where the name
of the input is spelled as a dash. Any other name is that of a file. -/
theorem runCommand_source (accepted : Arguments.read arguments = .ok a) (given : a.input = some name)
    (single : a.expr = none) (fs : FileSystem) :
    let o := fun standardInput => runCommand arguments standardInput fs
    let path := Path.ofText name
    (∀ e, Settings.ofArguments fs a = .error e → ∀ one other, o one = o other) ∧
      ∀ s, Settings.ofArguments fs a = .ok s →
        (∀ bytes, o bytes = s.run bytes fs) ∧
        ((∃ one other, o one ≠ o other) ∧ s.input.name = "<stdin>" ↔ SpellsDash name) ∧
        (SpellsDash name → ∀ bytes, s.input.read bytes fs = some <$> readText bytes) ∧
        (¬SpellsDash name → s.input.name = path.text ∧ (∀ one other, o one = o other) ∧
          (∀ content, fs.read path = .ok content →
            ∀ bytes, s.input.read bytes fs = some <$> readText content) ∧
          ∀ fault, fs.read path = .error fault → fault ≠ .nullCharacter → ∀ bytes,
            (o bytes).ending = .exit 2 ∧ (o bytes).errors = errorLine (fault.text path)) := by
  intro o path
  refine ⟨fun e unsettled => runCommand_ignores accepted unsettled, fun s settled => ?_⟩
  have runs : ∀ bytes, o bytes = s.run bytes fs := fun bytes => runCommand_settled accepted settled
  have input := Settings.input_of_settled settled given single
  refine ⟨runs, ?_⟩
  by_cases dash : SpellsDash name
  · rw [Input.ofText_dash dash] at input
    obtain ⟨one, other, differ⟩ := @Settings.run_reads s fs input
    refine ⟨iff_of_true ⟨⟨one, other, ?_⟩, ?_⟩ dash, fun _ bytes => ?_, absurd dash⟩
    · rw [runs, runs]
      exact differ
    · rw [input]
      rfl
    · rw [input]
      rfl
  · rw [Input.ofText_file dash] at input
    have same : ∀ one other, o one = o other := by
      intro one other
      rw [runs, runs]
      exact Settings.run_ignores input one other
    refine ⟨iff_of_false ?_ dash, (absurd · dash), fun _ => ⟨?_, same, ?_, ?_⟩⟩
    · rintro ⟨⟨one, other, differ⟩, _⟩
      exact differ (same one other)
    · rw [input]
      rfl
    · intro content holds bytes
      rw [input]
      unfold Input.read
      dsimp only
      rw [holds]
    · intro fault fails other bytes
      rw [runs]
      apply Settings.run_reports
      rw [input]
      exact .file fails other

/-- A file that has been named is read, whatever stands on standard input. -/
theorem runCommand_source_file :
    let a : Arguments := { Arguments.initial with input := some ['x'] }
    let fs : FileSystem := ⟨[([['x']], .file (Utf8.encode ['8']))]⟩
    let s : Settings := ⟨.file ⟨[], [['x']]⟩, none, .standard, .program .tree, false⟩
    Arguments.read [['x']] = .ok a ∧ Settings.ofArguments fs a = .ok s ∧ ¬SpellsDash ['x'] ∧
      (∀ one other, runCommand [['x']] one fs = runCommand [['x']] other fs) ∧
      ∀ bytes, s.input.read bytes fs = some <$> readText (Utf8.encode ['8']) := by
  intro a fs s
  have accepted : Arguments.read [['x']] = .ok a := rfl
  have settled : Settings.ofArguments fs a = .ok s := rfl
  have file : ¬SpellsDash ['x'] := by
    intro dash
    have same := Path.text_ofText_eq_dash_iff.mpr dash
    exact absurd same (by decide)
  obtain ⟨_, _, _, named⟩ := (runCommand_source accepted rfl rfl fs).2 s settled
  obtain ⟨_, same, read, _⟩ := named file
  exact ⟨accepted, settled, file, same, read _ rfl⟩

/-- A file whose name is a dash cannot be named by a point in front of it: the text that is shown is the
one on standard input. -/
theorem runCommand_dash_misread :
    let name : Text := ['.', '/', '-']
    let fs : FileSystem := ⟨[([['-']], .file (Utf8.encode ['8']))]⟩
    let o := runCommand [name] (Utf8.encode ['7']) fs
    Arguments.read [name] = .ok { Arguments.initial with input := some name } ∧ name ≠ ['-'] ∧
      fs.read (.ofText name) = .ok (Utf8.encode ['8']) ∧ o.ending = .exit 0 ∧
      o.output = "Program\n  ExpressionStatement\n    NumericLiteral 7\n".toList ∧
      "error: expected expression, found RPAREN ')'\n  --> <stdin>:1:1\n".toList <+:
        (runCommand [name] (Utf8.encode [')']) fs).errors := by
  intro name fs o
  exact ⟨rfl, by decide, rfl, by decide +kernel, by decide +kernel, by decide +kernel⟩

end

end StyleValue

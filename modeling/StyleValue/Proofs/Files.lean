import StyleValue.Command.FileSystem

/-! Writing a file. It changes what is at one location and nothing else, and the path that leads there
still leads there, so what was written is read again. -/
namespace StyleValue.FileSystem

variable {fs fs' : FileSystem} {path : Path} {l l' : Location} {bytes : List UInt8}

theorem find?_put (fs : FileSystem) (l l' : Location) (e : Entry) :
    ((fs.put l e).entries.find? (·.1 = l')).map (·.2) =
      if l' = l then some e else (fs.entries.find? (·.1 = l')).map (·.2) := by
  unfold put
  split
  · rename_i present
    have names : ((fun x : Location × Entry => decide (x.1 = l')) ∘
        fun x : Location × Entry => if x.1 = l then (l, e) else x) = fun x => decide (x.1 = l') := by
      funext x
      by_cases here : x.1 = l
      · simp [here]
      · simp [here]
    rw [List.find?_map, names]
    by_cases same : l' = l
    · subst same
      obtain ⟨x, found⟩ := Option.isSome_iff_exists.mp present
      have here := List.find?_some found
      simp_all
    · rw [if_neg same, Option.map_map]
      cases found : fs.entries.find? (·.1 = l') with
      | none => rfl
      | some x =>
        have here := List.find?_some found
        simp_all
  · rename_i absent
    rw [List.find?_append]
    by_cases same : l' = l
    · subst same
      rw [Option.not_isSome_iff_eq_none.mp absent]
      simp
    · simp [same, Ne.symm same]

theorem entry?_put (fs : FileSystem) (l l' : Location) (e : Entry) : entry? (fs.put l e) l' =
    if l'.isFixed then some .directory else if l' = l then some e else fs.entry? l' := by
  unfold entry?
  rw [find?_put]
  split <;> rfl

theorem entry?_put_ne (fs : FileSystem) (e : Entry) (other : l' ≠ l) :
    entry? (fs.put l e) l' = fs.entry? l' := by
  rw [entry?_put, if_neg other]
  unfold entry?
  split <;> rfl

theorem entry?_put_self (e : Entry) (plain : fs.entry? l ≠ some .directory) :
    entry? (fs.put l e) l = some e := by
  have free : l.isFixed = false := by
    rw [← Bool.not_eq_true]
    intro fixed
    exact plain (if_pos fixed)
  rw [entry?_put, free]
  simp

/-- A way through directories does not lead through a file. -/
theorem enter_put (plain : fs.entry? l ≠ some .directory) (e : Entry) {names : List Text}
    {start last : Location} (entered : fs.enter start names = .ok last) :
    (fs.put l e).enter start names = .ok last := by
  induction names generalizing start with
  | nil => exact entered
  | cons name names ih =>
    unfold enter at entered ⊢
    cases located : locateIn start name with
    | error fault =>
      rw [located] at entered
      cases entered
    | ok next =>
      rw [located] at entered
      simp only [bind, Except.bind] at entered ⊢
      cases found : fs.entry? next with
      | none =>
        rw [found] at entered
        cases entered
      | some entry =>
        rw [found] at entered
        cases entry with
        | file _ => cases entered
        | directory =>
          have other : next ≠ l := by
            rintro rfl
            exact plain found
          rw [entry?_put_ne fs e other, found]
          exact ih entered

/-- Where the way of a path starts. -/
def startOf (path : Path) : Location := if path.root = [] then [] else Location.root

theorem locate_iff : fs.locate path = .ok l ↔
    path.text.contains '\x00' = false ∧ isTooLong maxPathBytes path.text = false ∧
      (path.parts = [] ∧ startOf path = l ∨ ∃ name above, path.parts.getLast? = some name ∧
        fs.enter (startOf path) path.parts.dropLast = .ok above ∧ locateIn above name = .ok l) := by
  unfold locate
  rw [← startOf]
  cases path.text.contains '\x00' with
  | true => simp [throw, throwThe, MonadExceptOf.throw, bind, Except.bind]
  | false =>
    cases isTooLong maxPathBytes path.text with
    | true => simp [throw, throwThe, MonadExceptOf.throw, bind, Except.bind]
    | false =>
      cases last : path.parts.getLast? with
      | none => simp [pure, Except.pure, List.getLast?_eq_none_iff.mp last]
      | some name =>
        have filled : path.parts ≠ [] := List.ne_nil_of_mem (List.mem_of_getLast? last)
        cases entered : fs.enter (startOf path) path.parts.dropLast with
        | error fault => simp [bind, Except.bind, filled, entered]
        | ok above => simp [bind, Except.bind, filled, entered]

theorem locate_put (plain : fs.entry? l ≠ some .directory) (e : Entry)
    (located : fs.locate path = .ok l') : (fs.put l e).locate path = .ok l' := by
  rw [locate_iff] at located ⊢
  refine located.imp_right (And.imp_right (Or.imp_right ?_))
  rintro ⟨name, above, last, entered, next⟩
  exact ⟨name, above, last, enter_put plain e entered, next⟩

/-- What a successful write does. -/
theorem write_put (written : fs.write path bytes = .ok fs') : ∃ l, fs.locate path = .ok l ∧
    fs.entry? l ≠ some .directory ∧ fs' = fs.put l (.file bytes) := by
  unfold write at written
  cases located : fs.locate path with
  | error fault =>
    rw [located] at written
    cases written
  | ok l =>
    rw [located] at written
    simp only [bind, Except.bind] at written
    refine ⟨l, rfl, ?_⟩
    split at written
    · cases written
    · rename_i plain
      cases written
      exact ⟨plain, rfl⟩

theorem read_write (written : fs.write path bytes = .ok fs') : fs'.read path = .ok bytes := by
  obtain ⟨l, located, plain, rfl⟩ := write_put written
  unfold read
  rw [locate_put plain _ located]
  simp only [bind, Except.bind, entry?_put_self _ plain]
  rfl

/-! ### Paths that are too long -/

theorem read_tooLong (plain : '\x00' ∉ path.text) (long : isTooLong maxPathBytes path.text = true) :
    fs.read path = .error .nameTooLong := by
  unfold read locate
  rw [long, List.contains_eq_mem, decide_eq_false plain]
  rfl

theorem read_located (located : fs.locate path = .ok l) : fs.read path ≠ .error .nameTooLong := by
  unfold read
  rw [located]
  simp only [bind, Except.bind]
  split <;> nofun

theorem read_locate (read : fs.read path = .ok bytes) :
    ∃ l, fs.locate path = .ok l ∧ fs.entry? l = some (.file bytes) := by
  unfold FileSystem.read at read
  cases located : fs.locate path with
  | error fault =>
    rw [located] at read
    cases read
  | ok l =>
    rw [located] at read
    simp only [bind, Except.bind] at read
    refine ⟨l, rfl, ?_⟩
    split at read
    · cases read
    · cases read
    · cases read
      assumption

/-- What holds a file that can be read is a directory. -/
theorem read_enter (read : fs.read path = .ok bytes) : '\x00' ∉ path.text ∧ path.parts ≠ [] ∧
    ∃ above, fs.enter (startOf path) path.parts.dropLast = .ok above := by
  obtain ⟨l, located, file⟩ := read_locate read
  obtain ⟨plain, _, start | ⟨name, above, last, entered, _⟩⟩ := locate_iff.mp located
  · obtain ⟨_, rfl⟩ := start
    have fixed : (startOf path).isFixed = true := by
      unfold startOf
      split <;> rfl
    unfold entry? at file
    rw [if_pos fixed] at file
    cases file
  · exact ⟨by simpa using plain, List.ne_nil_of_mem (List.mem_of_getLast? last), above, entered⟩

end StyleValue.FileSystem

/-! ### Siblings -/

namespace StyleValue

theorem Text.mem_joined {c : Char} {separator : Text} {pieces : List Text}
    (member : c ∈ joined separator pieces) : c ∈ separator ∨ ∃ piece ∈ pieces, c ∈ piece := by
  fun_induction joined separator pieces with
  | case1 => cases member
  | case2 piece => exact .inr ⟨piece, by simp, member⟩
  | case3 piece pieces _ ih =>
    simp only [List.mem_append] at member
    rcases member with (here | between) | behind
    · exact .inr ⟨piece, by simp, here⟩
    · exact .inl between
    · refine (ih behind).imp_right ?_
      rintro ⟨piece', later, inside⟩
      exact ⟨piece', List.mem_cons_of_mem _ later, inside⟩

theorem Text.mem_joined_of_mem {c : Char} (separator : Text) {pieces : List Text} {piece : Text}
    (member : piece ∈ pieces) (inside : c ∈ piece) : c ∈ joined separator pieces := by
  fun_induction joined separator pieces with
  | case1 => cases member
  | case2 only =>
    rw [List.mem_singleton] at member
    exact member ▸ inside
  | case3 first pieces _ ih =>
    rcases List.mem_cons.mp member with rfl | later
    · simp [inside]
    · simp [ih later]

/-- A path to what stands beside the end of another one. -/
def Path.sibling (path : Path) (name : Text) : Path := path.parent.child name

theorem Path.mem_text_sibling {path : Path} {c : Char} {name : Text} (filled : path.parts ≠ [])
    (member : c ∈ (path.sibling name).text) : c ∈ path.text ∨ c = '/' ∨ c ∈ name := by
  unfold text sibling child parent at member
  rw [if_neg (by simp)] at member
  dsimp only at member
  have text : path.text = path.root ++ Text.joined "/" path.parts := if_neg fun none => filled none.2
  rw [text, List.mem_append]
  rcases List.mem_append.mp member with root | member
  · exact .inl (.inl root)
  · rcases Text.mem_joined member with slash | ⟨piece, part, inside⟩
    · exact .inr (.inl (by simpa using slash))
    · rcases List.mem_append.mp part with part | last
      · exact .inl (.inr (Text.mem_joined_of_mem _ (List.dropLast_subset _ part) inside))
      · rw [List.mem_singleton] at last
        exact .inr (.inr (last ▸ inside))

namespace FileSystem

variable {fs : FileSystem} {path : Path} {bytes : List UInt8} {name : Text}

theorem zero_not_mem_sibling (read : fs.read path = .ok bytes) (plain : '\x00' ∉ name) :
    '\x00' ∉ (path.sibling name).text := by
  obtain ⟨clean, filled, _⟩ := read_enter read
  intro member
  rcases Path.mem_text_sibling filled member with inside | slash | inside
  · exact clean inside
  · exact absurd slash (by decide)
  · exact plain inside

/-- Beside a file that can be read every place can be reached, as far as the path to it is not too
long. -/
theorem locate_sibling (read : fs.read path = .ok bytes) (plain : '\x00' ∉ name)
    (short : isTooLong maxNameBytes name = false)
    (fits : isTooLong maxPathBytes (path.sibling name).text = false) :
    ∃ l, fs.locate (path.sibling name) = .ok l := by
  obtain ⟨_, _, above, entered⟩ := read_enter read
  have clean := zero_not_mem_sibling read plain
  have parts : (path.sibling name).parts = path.parts.dropLast ++ [name] := rfl
  refine ⟨above.step name, locate_iff.mpr ⟨by simpa using clean, fits, .inr ⟨name, above, ?_, ?_, ?_⟩⟩⟩
  · rw [parts, List.getLast?_concat]
  · rw [parts, List.dropLast_concat]
    exact entered
  · rw [locateIn, short]
    rfl

end FileSystem

end StyleValue

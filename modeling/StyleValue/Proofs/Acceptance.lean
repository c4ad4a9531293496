import StyleValue.Proofs.Spelling
import StyleValue.Proofs.Viability

/-! What the parser accepts, against the grammar. A program is read from exactly the derivable token
lists whose literals convert, and a frontier passes over exactly the lists that can be completed to a
derivable one. -/
namespace StyleValue

open Grammar

theorem ReadsAll.derives {body : List (Statement Located)} {ts : List Token}
    (h : ReadsAll body ts) : Sentence (ts.map Token.kind) := by
  induction h with
  | nil => exact .stop
  | cons read _ _ ih =>
    rw [List.map_append]
    exact .more (.ref read.derives) ih

theorem run_of_sentence {ts : List Token} (derived : Sentence (ts.map Token.kind))
    (converts : ∀ t ∈ ts, t.converts = true) :
    ∃ g, Frontier.start.run ts = some g ∧ g.final = true := by
  obtain ⟨parts, readable, rfl⟩ := expressions_of_sentence derived converts
  exact Frontier.run_expressions parts readable rfl

theorem Parser.program_accepts {stop : Token} (ends : stop.kind = .endOfInput) {ts : List Token}
    {g : Frontier} (passed : Frontier.start.run ts = some g) (ended : g.final = true)
    (converts : ∀ t ∈ ts, t.converts = true) : ∃ p, program stop ts = .ok p := by
  have follow := program_follows ends ts
  cases outcome : program stop ts with
  | ok p => exact ⟨p, rfl⟩
  | error e =>
    rw [outcome] at follow
    simp [Frontier.scan_of_run passed ended converts] at follow

theorem Parser.program_accepts_iff {stop : Token} (ends : stop.kind = .endOfInput)
    (ts : List Token) : (∃ p, program stop ts = .ok p) ↔
      Sentence (ts.map Token.kind) ∧ ∀ t ∈ ts, t.converts = true := by
  constructor
  · rintro ⟨p, parsed⟩
    have follow := program_follows ends ts
    rw [parsed] at follow
    exact ⟨follow.1.derives, follow.1.converts⟩
  · rintro ⟨derived, converts⟩
    obtain ⟨g, passed, ended⟩ := run_of_sentence derived converts
    exact program_accepts ends passed ended converts

/-- The parser accepts the tokens that count if and only if they are derivable and their literals
convert. The program spells them in order, at the ranks that `Reads` gives to operators, and takes the
longest way wherever there are several: no later statement begins with a sign, and no bare name has a
bracket behind it. -/
theorem parseTokens_conforms (ts : List Token) :
    ((∃ p, parseTokens ts = .ok p) ↔
      Sentence ((Significant.ofTokens ts).tokens.map Token.kind) ∧
        ∀ t ∈ (Significant.ofTokens ts).tokens, t.converts = true) ∧
    ∀ p, parseTokens ts = .ok p →
      List.Forall₂ Lexeme.Spells p.lexemes (Significant.ofTokens ts).tokens ∧
      (∃ parts : List (List Token), parts.flatten = (Significant.ofTokens ts).tokens ∧
        List.Forall₂ (fun s part => Reads (.expr (.chain .sum) s.expression) part) p.body parts ∧
        ∀ part ∈ parts.tail, ∀ t ∈ part.head?, t.kind.isSign = false) ∧
      ∀ (i : Nat) (text : Text) (t : Token), p.lexemes[i]? = some (.name text) →
        (Significant.ofTokens ts).tokens[i + 1]? = some t → t.kind ≠ .leftParen := by
  refine ⟨Parser.program_accepts_iff (Significant.kind_stop ts) _, fun p parsed => ?_⟩
  have follow := Parser.program_follows (Significant.kind_stop ts) (Significant.ofTokens ts).tokens
  unfold parseTokens at parsed
  rw [parsed] at follow
  have read := follow.1
  exact ⟨read.spells, read.parts, fun i text t named next =>
    Lexeme.paren_of_apart read.spells read.apart named next⟩

/-- A name, layout and a bracket are a call, and what comes behind the end of the input is not read. -/
theorem parseTokens_conforms_call :
    let ts : List Token := [⟨.identifier, ['f'], none⟩, ⟨.whitespace, [' '], none⟩,
      ⟨.leftParen, ['('], none⟩, ⟨.number, ['7'], none⟩, ⟨.rightParen, [')'], none⟩,
      ⟨.endOfInput, [], none⟩, ⟨.comma, [','], none⟩]
    let p : Program Located := ⟨[⟨.call ⟨['f'], none⟩ [.number 7 none] none, none⟩], none⟩
    parseTokens ts = .ok p ∧ List.Forall₂ Lexeme.Spells p.lexemes (Significant.ofTokens ts).tokens :=
  ⟨by cbv, ((parseTokens_conforms _).2 _ (by cbv)).1⟩

/-- A token of a given kind whose digits, if it needs any, are a numeral. -/
def Token.sample (kind : TokenKind) : Token := ⟨kind, ['0', '0'], none⟩

theorem sample_converts (kind : TokenKind) : (Token.sample kind).converts = true := by
  have zero : (Numeral.read? ['0']).isSome = true := by decide
  have zeros : (Numeral.read? ['0', '0']).isSome = true := by decide
  cases kind <;> simp [Token.converts, Token.digits?, Token.sample, zero, zeros]

theorem samples_convert (kinds : List TokenKind) :
    ∀ t ∈ kinds.map Token.sample, t.converts = true := by
  intro t member
  obtain ⟨kind, _, rfl⟩ := List.mem_map.mp member
  exact sample_converts kind

theorem samples_kinds (kinds : List TokenKind) : (kinds.map Token.sample).map Token.kind = kinds := by
  rw [List.map_map]
  exact List.map_id kinds

theorem sentence_of_run {ts : List Token} {f : Frontier} (passed : Frontier.start.run ts = some f)
    (ended : f.final = true) : Sentence (ts.map Token.kind) := by
  have kinds := samples_kinds (ts.map Token.kind)
  obtain ⟨g, passed', below⟩ := Frontier.run_below kinds.symm Frontier.start_below_start passed
  have ended' := Frontier.start_below_iff.mp ((Frontier.start_below_iff.mpr ended).trans below)
  have stop : (Token.sample .endOfInput).kind = .endOfInput := rfl
  have accepted := (Parser.program_accepts_iff stop _).mp
    (Parser.program_accepts stop passed' ended' (samples_convert _))
  exact kinds ▸ accepted.1

/-- A list of tokens can be completed to a program if and only if a frontier passes over it. -/
theorem viable_iff_run (ts : List Token) :
    Viable (ts.map Token.kind) ↔ ∃ f, Frontier.start.run ts = some f := by
  constructor
  · rintro ⟨more, derived⟩
    have kinds := samples_kinds (ts.map Token.kind ++ more)
    obtain ⟨g, passed, _⟩ := run_of_sentence (kinds.symm ▸ derived) (samples_convert _)
    rw [List.map_append, Frontier.run_append] at passed
    obtain ⟨f, first, _⟩ := Option.bind_eq_some_iff.mp passed
    obtain ⟨f', passed', _⟩ := Frontier.run_below (samples_kinds (ts.map Token.kind))
      Frontier.start_below_start first
    exact ⟨f', passed'⟩
  · rintro ⟨f, passed⟩
    obtain ⟨more, g, later, ended⟩ := f.exists_completion
    have derived := sentence_of_run ((Frontier.run_trans passed).trans later) ended
    exact ⟨more.map Token.kind, by rwa [← List.map_append]⟩

end StyleValue

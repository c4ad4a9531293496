import StyleValue.Proofs.Readers
import StyleValue.Token.Trace

/-! The ways into the lexer: a text, characters that were classified before, and a reader that has given
some of its characters already. What a token is and where it stands does not depend on the way. -/
namespace StyleValue

variable {merge : Bool}

/-! ### Readers that are read to their end -/

theorem Lexer.run_unread {mark : Character} (ends : mark.charClass = .endOfInput) (after : List Character)
    {cs : List Character} (unended : ∀ c ∈ cs, c.charClass ≠ .endOfInput) (l : Lexer) :
    (l.run (cs ++ mark :: after)).2 = after := by
  induction cs generalizing l with
  | nil => simp [run, ends]
  | cons c rest ih =>
    obtain ⟨here, behind⟩ := List.forall_mem_cons.mp unended
    simp only [List.cons_append, run, here, if_false, ih behind]

/-- A reader without an end among its characters is read to its mark, and the mark is part of no token. -/
theorem Reader.tokens_segmented {r : Reader} (open' : r.ended = false)
    (ends : r.mark.charClass = .endOfInput) (unended : ∀ c ∈ r.upcoming, c.charClass ≠ .endOfInput) :
    Segmented merge r.upcoming (r.tokens merge).1 ∧ (r.tokens merge).2 = r.exhausted := by
  have coming : r.remaining = r.upcoming ++ [r.mark] := by simp [remaining, open']
  refine ⟨?_, ?_⟩
  · rw [tokens_eq, coming]
    exact Lexer.start_segmented ends [] _ unended merge
  · have unread := Lexer.run_unread ends [] unended (.start merge .initial)
    rw [← coming] at unread
    unfold tokens
    split
    · rfl
    · simp_all

namespace Reader

variable (r : Reader)

theorem peek_exhausted {distance : Int} (ahead : 0 ≤ distance) : r.exhausted.peek distance = .ok none := by
  rw [peek, if_neg (by omega)]
  rfl

theorem next?_exhausted : r.exhausted.next? = none := rfl

end Reader

/-- Characters of a text, given without their mark, have the tokens of the text: the mark that is put behind
them can stand elsewhere, but no token shows it. -/
theorem tokenizeCharacters_ofText (o : LexOptions) (text : Text) :
    tokenizeCharacters o text.characters = ((Reader.ofText text).tokens o.mergeOperators).1 := by
  have given := @Reader.tokens_segmented o.mergeOperators (.ofCharacters text.characters) rfl rfl
    charactersFrom_unended
  have whole := @Reader.tokens_segmented o.mergeOperators (.ofText text) rfl rfl charactersFrom_unended
  exact given.1.unique whole.1

/-! ### Places in the whole text -/

/-- A token that a text has between two of its offsets, with the span from where a reader of the whole text
gives the first of them to where it gives the other. -/
structure Token.CutFrom (t : Token) (source : Text) (i j : Nat) (span : Span) : Prop where
  located : t.span = some span
  starts : span.start.offset = i
  stops : span.stop.offset = j
  value : t.value = (source.take j).drop i
  first : (Reader.ofText source).remaining[i]?.map Character.position = some span.start
  behind : (Reader.ofText source).remaining[j]?.map Character.position = some span.stop

theorem remaining_place {source back : Text} {k : Nat} {p : Position}
    (stream : (streamFrom .origin source).drop k = streamFrom p back) :
    (Reader.ofText source).remaining[k]?.map Character.position = some p := by
  have head := streamFrom_head p back
  rwa [← stream, List.head?_drop] at head

theorem Tiles.cutFrom {p : Position} {text : Text} {ts : List Token} (h : Tiles p text ts) (before : Text)
    (offset : p.offset = before.length)
    (stream : (streamFrom .origin (before ++ text)).drop before.length = streamFrom p text) :
    ∀ t ∈ ts, ∃ i j span, t.CutFrom (before ++ text) i j span := by
  -- The whole text stays in sight: what it gives behind `before` is what is given from here.
  induction h generalizing before with
  | nil => simp
  | @cons p t rest ts _ span apart _ ih =>
    have length : (before ++ t.value).length = before.length + t.value.length := List.length_append
    have offset' : (p.afterText t.value).offset = (before ++ t.value).length := by
      rw [offset_afterText, offset, length]
      push_cast
      rfl
    have stream' : (streamFrom .origin (before ++ (t.value ++ rest))).drop (before ++ t.value).length =
        streamFrom (p.afterText t.value) rest := by
      rw [length, ← List.drop_drop, stream, streamFrom_append apart,
        List.drop_left' (length_charactersFrom p t.value)]
    refine List.forall_mem_cons.mpr ⟨?_, ?_⟩
    · refine ⟨_, _, _, span, offset, offset', ?_, remaining_place stream, remaining_place stream'⟩
      rw [← List.append_assoc, List.take_left' rfl, List.drop_left' rfl]
    · rw [← List.append_assoc] at stream' ⊢
      exact ih (before ++ t.value) offset' stream'

/-! ### The ways agree -/

theorem Reader.resume {source : Text} {n : Nat} (fits : n ≤ source.length) :
    ∃ r tokens, (Reader.ofText source).take? n = some (source.characters.take n, r) ∧
      r.tokens merge = (tokens, r.exhausted) ∧
      tokens.map Token.bare = (tokenize ⟨merge, false⟩ (source.drop n)).map Token.bare ∧
      ∀ t ∈ tokens, ∃ i j span, t.CutFrom source i j span := by
  obtain ⟨q, stream, characters, offset⟩ := streamFrom_drop .origin source fits
  let r : Reader := ⟨charactersFrom q (source.drop n), .endMark source.endPosition, false⟩
  have taken : (Reader.ofText source).take? n = some (source.characters.take n, r) := by
    have bound : n ≤ (Reader.ofText source).upcoming.length := fits.trans_eq (length_characters source).symm
    rw [take?_upcoming _ bound]
    exact congrArg (fun upcoming => some (_, { r with upcoming })) characters
  obtain ⟨segmented, read⟩ := @tokens_segmented merge r rfl rfl charactersFrom_unended
  refine ⟨r, _, taken, Prod.ext rfl read, ?_, ?_⟩
  · have bares : (Text.characters (source.drop n)).map Character.bare =
        r.upcoming.map Character.bare := by
      rw [Text.characters, charactersFrom_bare, charactersFrom_bare]
    obtain ⟨us, again, words⟩ := segmented.relocate _ bares
    rw [(tokenize_plain merge _).unique again, words]
  · have tiles := segmented.tiles rfl
    have front : (source.take n).length = n := List.length_take_of_le fits
    have cut := tiles.cutFrom (source.take n)
    rw [List.take_append_drop, front] at cut
    refine cut ?_ stream
    rw [offset]
    simp [Position.origin]

/-- Characters that were taken from a text have its tokens. A reader that has given some of its characters
has the tokens of what is left, each in its place in the whole text, and gives nothing afterwards. -/
theorem Tokenizer.entrances_agree (t : Tokenizer) (source : Text) :
    (t.tokenizeCharacters (t.characters source).result).result = (t.tokenize source).result ∧
    ∀ n ≤ source.length, ∃ given r tokens r',
      (Reader.ofText source).take? n = some (given, r) ∧
      (t.tokenizeReader r).result = (tokens, r') ∧
      tokens.map Token.bare =
        (StyleValue.tokenize ⟨t.options.mergeOperators, false⟩ (source.drop n)).map Token.bare ∧
      (∀ u ∈ tokens, ∃ i j span, u.CutFrom source i j span) ∧
      r'.ended = true ∧ (∀ distance, 0 ≤ distance → r'.peek distance = .ok none) ∧ r'.next? = none := by
  refine ⟨tokenizeCharacters_ofText _ _, fun n fits => ?_⟩
  obtain ⟨r, tokens, taken, read, words, cut⟩ := @Reader.resume t.options.mergeOperators source n fits
  exact ⟨_, r, tokens, r.exhausted, taken, read, words, cut, rfl, fun _ => r.peek_exhausted,
    r.next?_exhausted⟩

/-- A reader that is entered inside a pair of breaks: the line feed is a token of its own. -/
theorem Tokenizer.entrances_agree_pair :
    let source : Text := ['\r', '\n', '7']
    let t : Tokenizer := ⟨.standard, none⟩
    let tokens : List Token := [⟨.error, ['\n'], some ⟨⟨1, 2, 1⟩, ⟨2, 1, 2⟩⟩⟩,
      ⟨.number, ['7'], some ⟨⟨2, 1, 2⟩, ⟨2, 2, 3⟩⟩⟩]
    1 ≤ source.length ∧ ∃ given r r', (Reader.ofText source).take? 1 = some (given, r) ∧
      (t.tokenizeReader r).result = (tokens, r') ∧
      (∀ u ∈ tokens, ∃ i j span, u.CutFrom source i j span) ∧ r'.next? = none := by
  intro source t tokens
  have fits : 1 ≤ source.length := by decide
  obtain ⟨given, r, ts, r', taken, read, _, cut, _, _, nothing⟩ := (t.entrances_agree source).2 1 fits
  have entered : (Reader.ofText source).take? 1 = some (source.characters.take 1,
      ⟨source.characters.drop 1, .endMark ⟨2, 2, 3⟩, false⟩) := by decide +kernel
  cases entered.symm.trans taken
  obtain rfl : tokens = ts := by
    have same := congrArg Prod.fst read
    exact Eq.trans (by decide +kernel) same
  exact ⟨fits, _, _, r', taken, read, cut, nothing⟩

end StyleValue

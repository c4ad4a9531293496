import StyleValue.Proofs.Lines
import StyleValue.Proofs.Quotations
import StyleValue.Proofs.Quoting
import StyleValue.Token

/-! Dumps of tokens and characters. Whatever the values hold, each of them takes one line, and the lines
tell what was dumped. Nothing depends on which characters have a visible form. -/
namespace StyleValue

variable (plain : Char → Bool)

/-- The line of a token, where `plain` tells which characters of its value show as they are. -/
def Token.lineBy (t : Token) : Text :=
  ([[' ', ' '], t.kind.name, [' '], Quoted.write plain t.value] : List Text).flatten

def Character.lineBy (c : Character) : Text :=
  ([[' ', ' '], Text.ofInt c.position.line, [':'], Text.ofInt c.position.column, [' ', '['],
    Text.ofInt c.position.offset, [']', ' '], c.charClass.name, [' '],
    Quoted.write plain c.value] : List Text).flatten

def dumpTokensBy (ts : List Token) : Text := Text.ofLines (ts.map (Token.lineBy plain))

def dumpCharactersBy (cs : List Character) : Text := Text.ofLines (cs.map (Character.lineBy plain))

theorem dumpTokens_eq : dumpTokens = dumpTokensBy isPrintable := by
  have line : Token.dumpLine = fun t => t.lineBy isPrintable ++ ['\n'] := by
    funext t
    unfold Token.dumpLine Token.lineBy Token.described Text.quoted
    repeat rw [List.flatten_cons]
    repeat rw [List.append_assoc]
    rfl
  funext ts
  rw [dumpTokens, dumpTokensBy, Text.ofLines, List.flatMap_map, line]

theorem dumpCharacters_eq : dumpCharacters = dumpCharactersBy isPrintable := by
  have line : Character.dumpLine = fun c => c.lineBy isPrintable ++ ['\n'] := by
    funext c
    unfold Character.dumpLine Character.lineBy Text.quoted
    repeat rw [List.flatten_cons]
    repeat rw [List.append_assoc]
    rfl
  funext cs
  rw [dumpCharacters, dumpCharactersBy, Text.ofLines, List.flatMap_map, line]

variable {plain}

/-! ### Lines -/

theorem CharClass.name_oneLine (k : CharClass) : '\n' ∉ k.name := by
  cases k <;> decide

theorem Token.lineBy_oneLine (t : Token) : '\n' ∉ t.lineBy plain := by
  simp [lineBy, TokenKind.name_oneLine, Quoted.write_oneLine]

theorem Character.lineBy_oneLine (c : Character) : '\n' ∉ c.lineBy plain := by
  simp [lineBy, Numeral.ofInt_oneLine, CharClass.name_oneLine, Quoted.write_oneLine]

theorem TokenKind.name_unspaced (k : TokenKind) : ' ' ∉ k.name := by
  cases k <;> decide

theorem CharClass.name_unspaced (k : CharClass) : ' ' ∉ k.name := by
  cases k <;> decide

theorem Token.lineBy_inj {t u : Token} : t.lineBy plain = u.lineBy plain ↔ t.SameWord u := by
  constructor
  · intro same
    -- The kind ends at the first space, and what follows it is the quoted value.
    simp only [lineBy, List.flatten_cons] at same
    obtain ⟨names, values⟩ := Text.append_cons_inj (TokenKind.name_unspaced _)
      (TokenKind.name_unspaced _) (List.append_cancel_left same)
    have quoted : Quoted.write plain t.value ++ [] = Quoted.write plain u.value ++ [] := values
    exact ⟨TokenKind.name_eq_iff.mp names, (Quoted.write_append_inj plain quoted).1⟩
  · rintro ⟨kinds, values⟩
    rw [lineBy, lineBy, kinds, values]

theorem Character.lineBy_inj {c d : Character} : c.lineBy plain = d.lineBy plain ↔ c = d := by
  constructor
  · intro same
    -- No number holds a colon, a space or a bracket, so each of them ends where the next part begins.
    have colons (n : Int) : ':' ∉ Text.ofInt n := Numeral.not_mem_ofInt rfl (by decide) n
    have spaces (n : Int) : ' ' ∉ Text.ofInt n := Numeral.not_mem_ofInt rfl (by decide) n
    have brackets (n : Int) : ']' ∉ Text.ofInt n := Numeral.not_mem_ofInt rfl (by decide) n
    simp only [lineBy, List.flatten_cons] at same
    obtain ⟨lines, same⟩ := Text.append_cons_inj (colons _) (colons _) (List.append_cancel_left same)
    obtain ⟨columns, same⟩ := Text.append_cons_inj (spaces _) (spaces _) same
    obtain ⟨offsets, same⟩ := Text.append_cons_inj (brackets _) (brackets _) (List.cons.inj same).2
    obtain ⟨classes, values⟩ := Text.append_cons_inj (CharClass.name_unspaced _)
      (CharClass.name_unspaced _) (List.cons.inj same).2
    have quoted : Quoted.write plain c.value ++ [] = Quoted.write plain d.value ++ [] := values
    obtain ⟨value, charClass, line, column, offset⟩ := c
    obtain ⟨value', charClass', line', column', offset'⟩ := d
    obtain rfl := Numeral.ofInt_injective lines
    obtain rfl := Numeral.ofInt_injective columns
    obtain rfl := Numeral.ofInt_injective offsets
    obtain rfl := CharClass.name_eq_iff.mp classes
    obtain rfl := (Quoted.write_append_inj plain quoted).1
    rfl
  · exact congrArg (Character.lineBy plain)

/-! ### Dumps -/

theorem map_lineBy_inj {ts us : List Token} :
    ts.map (Token.lineBy plain) = us.map (Token.lineBy plain) ↔ List.Forall₂ Token.SameWord ts us := by
  rw [← List.forall₂_eq_eq_eq, List.forall₂_map_left_iff, List.forall₂_map_right_iff]
  simp only [Token.lineBy_inj]

end StyleValue

import StyleValue.Toml.Scan

/-! Quoted text in a configuration file, on one line or on several, and keys. -/
namespace StyleValue.Toml

/-- What was read from the front of `t` and what follows, which is shorter. -/
structure Taken (α : Type) (t : Text) where
  value : α
  rest : Text
  shorter : rest.length < t.length

namespace Taken

variable {α β : Type} {t : Text}

/-- No part of a file is empty. -/
def of (value : α) (rest : Text) : Except Fault (Taken α t) :=
  if h : rest.length < t.length then .ok ⟨value, rest, h⟩ else .error .malformed

def ofOption : Option (α × Text) → Except Fault (Taken α t)
  | some (value, rest) => of value rest
  | none => .error .malformed

end Taken

def isQuotable (severalLines : Bool) (c : Char) : Bool :=
  !isControl c || (severalLines && c = '\n')

def shortEscape? : Char → Option Char
  | 'b' => some '\x08'
  | 't' => some '\t'
  | 'n' => some '\n'
  | 'f' => some '\x0c'
  | 'r' => some '\r'
  | '"' => some '"'
  | '\\' => some '\\'
  | _ => none

/-- Where a reader of text with escapes stands: between characters, behind a backslash, before some
more digits of a number, or in the space around a break that a backslash takes out. -/
inductive QuoteState where
  | plain
  | escape
  | digits (left : Nat) (value : Nat)
  | gap (pastBreak : Bool)

def isScalar (n : Nat) : Bool := n < 0xD800 || (0xE000 ≤ n && n ≤ 0x10FFFF)

/-- The text up to the closing quotation mark, and what follows that. Text on several lines ends with
three marks. -/
def escapedBody? (severalLines : Bool) (state : QuoteState) (t : Text) : Option (Text × Text) :=
  let add (c : Char) (p : Text × Text) : Text × Text := (c :: p.1, p.2)
  match t with
  | [] => none
  | c :: rest =>
    match state with
    | .plain =>
      if c = '\\' then escapedBody? severalLines .escape rest
      else if c = '"' && !severalLines then some ([], rest)
      else
        match if c = '"' then Text.after? "\"\"" rest else none with
        | some after => some ([], after)
        | none =>
          if isQuotable severalLines c then (escapedBody? severalLines .plain rest).map (add c)
          else none
    | .escape =>
      match shortEscape? c with
      | some e => (escapedBody? severalLines .plain rest).map (add e)
      | none =>
        if c = 'u' then escapedBody? severalLines (.digits 4 0) rest
        else if c = 'U' then escapedBody? severalLines (.digits 8 0) rest
        else if severalLines && isSpaceOrBreak c then
          escapedBody? severalLines (.gap (c = '\n')) rest
        else none
    | .digits left value =>
      let value := value * 16 + hexValue c
      if !isHexDigit c then none
      else if left > 1 then escapedBody? severalLines (.digits (left - 1) value) rest
      else if isScalar value then
        (escapedBody? severalLines .plain rest).map (add (Char.ofNat value))
      else none
    | .gap pastBreak =>
      if isSpace c then escapedBody? severalLines (.gap pastBreak) rest
      else if c = '\n' then escapedBody? severalLines (.gap true) rest
      else if pastBreak then escapedBody? severalLines .plain (c :: rest)
      else none
  termination_by 2 * t.length + (match state with | .gap _ => 1 | _ => 0)
  decreasing_by all_goals simp; try omega

def literalBody? (t : Text) : Option (Text × Text) :=
  let body := t.takeWhile (· != '\'')
  match t.dropWhile (· != '\'') with
  | _ :: rest => if body.all (isQuotable false) then some (body, rest) else none
  | [] => none

def longLiteralBody? (t : Text) : Option (Text × Text) :=
  match Text.after? "'''" t with
  | some rest => some ([], rest)
  | none =>
    match t with
    | [] => none
    | c :: rest =>
      if isQuotable true c then (longLiteralBody? rest).map fun (body, after) => (c :: body, after)
      else none

/-- Text on several lines may end with one or two marks of its own before the closing ones. -/
def withMarks (mark : Char) (p : Text × Text) : Text × Text :=
  let own := (p.2.takeWhile (· = mark)).take 2
  (p.1 ++ own, p.2.drop own.length)

/-- A break right behind the opening marks does not count. -/
def skipFirstBreak : Text → Text
  | '\n' :: rest => rest
  | t => t

def lineText? : Text → Option (Text × Text)
  | '"' :: rest => escapedBody? false .plain rest
  | '\'' :: rest => literalBody? rest
  | _ => none

def text? (t : Text) : Option (Text × Text) :=
  match Text.after? "\"\"\"" t, Text.after? "'''" t with
  | some rest, _ => (escapedBody? true .plain (skipFirstBreak rest)).map (withMarks '"')
  | _, some rest => (longLiteralBody? (skipFirstBreak rest)).map (withMarks '\'')
  | none, none => lineText? t

abbrev Key := List Text

def isBareKeyChar (c : Char) : Bool :=
  isDecimalDigit c || ('a' ≤ c && c ≤ 'z') || ('A' ≤ c && c ≤ 'Z') || c = '-' || c = '_'

def keyPart? (t : Text) : Option (Text × Text) :=
  match t.takeWhile isBareKeyChar with
  | [] => lineText? t
  | part => some (part, t.dropWhile isBareKeyChar)

def key (t : Text) : Except Fault (Taken Key t) := do
  let part : Taken Text t ← Taken.ofOption (keyPart? t)
  match h : skipSpace part.rest with
  | '.' :: more =>
    have : (skipSpace more).length < t.length := by
      have := part.shorter
      have := length_skipSpace_le part.rest
      have := length_skipSpace_le more
      simp only [h, List.length_cons] at *
      omega
    let others ← key (skipSpace more)
    Taken.of (part.value :: others.value) others.rest
  | rest => Taken.of [part.value] rest
  termination_by t.length

end StyleValue.Toml

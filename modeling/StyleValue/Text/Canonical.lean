import StyleValue.Text
import StyleValue.Text.Canonical.Data

/-! The composed canonical form of a text: characters are taken apart, marks are brought into order,
and what belongs together is put together again. -/
namespace StyleValue

namespace Canonical

/-- The combining class: zero for a starter, above zero for a mark. -/
def combiningClass (c : Char) : Nat :=
  match combiningRanges.find? fun (foot, top, _) => foot ≤ c.toNat && c.toNat ≤ top with
  | some (_, _, k) => k
  | none => 0

/-! Hangul syllables are numbered by their leading consonant, vowel and trailing consonant, the last
of which may be missing. -/

def leadBase : Nat := 0x1100
def vowelBase : Nat := 0x1161
def trailBase : Nat := 0x11A7
def syllableBase : Nat := 0xAC00
def leads : Nat := 19
def vowels : Nat := 21
/-- Trailing consonants, the missing one included. -/
def trails : Nat := 28

def isSyllable (n : Nat) : Bool := syllableBase ≤ n && n < syllableBase + leads * vowels * trails

def syllableParts (n : Nat) : List Nat :=
  let s := n - syllableBase
  let pair := [leadBase + s / (vowels * trails), vowelBase + s % (vowels * trails) / trails]
  if s % trails = 0 then pair else pair ++ [trailBase + s % trails]

def syllable? (first second : Nat) : Option Nat :=
  if leadBase ≤ first ∧ first < leadBase + leads ∧ vowelBase ≤ second ∧ second < vowelBase + vowels
  then some (syllableBase + ((first - leadBase) * vowels + (second - vowelBase)) * trails)
  else if isSyllable first ∧ (first - syllableBase) % trails = 0 ∧ trailBase < second ∧
    second < trailBase + trails
  then some (first + (second - trailBase))
  else none

def parts? (n : Nat) : Option (List Nat) :=
  if isSyllable n then some (syllableParts n)
  else match composites.find? fun (code, _, _) => code = n with
    | some (_, first, second) => some [first, second]
    | none => match separables.find? fun (code, _, _) => code = n with
      | some (_, first, second) => some [first, second]
      | none => (aliases.find? fun (code, _) => code = n).map fun (_, other) => [other]

def takeApart : (depth n : Nat) → List Nat
  | 0, n => [n]
  | depth + 1, n =>
    match parts? n with
    | none => [n]
    | some parts => parts.flatMap (takeApart depth)

/-- No decomposition in the data goes deeper than this. -/
def deepest : Nat := 4

/-- All characters below U+00C0 stand for themselves. -/
def decomposed (t : Text) : Text :=
  t.flatMap fun c => if c.toNat < 0xC0 then [c] else (takeApart deepest c.toNat).map Char.ofNat

/-- Puts a character before text whose marks are in order, so that they still are: marks of a lower
class move in front of it, and nothing moves over a starter. -/
def place (c : Char) : Text → Text
  | [] => [c]
  | d :: rest =>
    if 0 < combiningClass d ∧ combiningClass d < combiningClass c then d :: place c rest
    else c :: d :: rest

def ordered (t : Text) : Text := t.foldr place []

def composite? (first second : Char) : Option Char :=
  match syllable? first.toNat second.toNat with
  | some n => some (Char.ofNat n)
  | none =>
    (composites.find? fun (_, a, b) => a = first.toNat && b = second.toNat).map fun (n, _, _) =>
      Char.ofNat n

/-- The state of putting together: the finished text, the latest starter, and the marks after it that
did not join it. Both lists have their last character first. -/
structure Composer where
  finished : Text
  starter : Option Char
  marks : Text

def Composer.text (s : Composer) : Text := s.marks ++ s.starter.toList ++ s.finished

/-- A character reaches its starter over marks of lower classes only. -/
def Composer.reaches (s : Composer) (c : Char) : Bool :=
  match s.marks with
  | [] => true
  | m :: _ => combiningClass m < combiningClass c

def Composer.add (s : Composer) (c : Char) : Composer :=
  match s.starter.bind fun starter => if s.reaches c then composite? starter c else none with
  | some whole => { s with starter := some whole }
  | none =>
    if combiningClass c = 0 then ⟨s.text, some c, []⟩ else { s with marks := c :: s.marks }

def composed (t : Text) : Text := (t.foldl Composer.add ⟨[], none, []⟩).text.reverse

end Canonical

def Text.canonical (t : Text) : Text :=
  Canonical.composed (Canonical.ordered (Canonical.decomposed t))

end StyleValue

import StyleValue.Text.Category

/-! Text as a list of characters, which is the form that every rule of this library is stated on: its
pieces and lines, decimal numerals, and the quoted form that messages and dumps show. Lengths, offsets and
columns count characters. -/
namespace StyleValue

/-- Characters are Unicode scalar values, so a text never holds one half of a surrogate pair by itself. -/
abbrev Text := List Char

instance : Coe String Text := ⟨String.toList⟩

namespace Text

/-- `n` copies of a character, none at all when `n` is negative. -/
def repeated (c : Char) (n : Int) : Text := List.replicate n.toNat c

/-- The pieces between the separators. There is always one more piece than there are separators. -/
def splitOn (separator : Char) : Text → List Text
  | [] => [[]]
  | c :: rest =>
    if c = separator then [] :: splitOn separator rest
    else match splitOn separator rest with
      | [] => [[c]]
      | piece :: pieces => (c :: piece) :: pieces

def joined (separator : Text) : List Text → Text
  | [] => []
  | [piece] => piece
  | piece :: pieces => piece ++ separator ++ joined separator pieces

def after? : (start t : Text) → Option Text
  | [], t => some t
  | _ :: _, [] => none
  | s :: start, c :: t => if s = c then after? start t else none

def cut (separator : Char) (t : Text) : Text × Option Text :=
  (t.takeWhile (· != separator), (t.dropWhile (· != separator)).tail?)

/-! ### Lines

A line feed, a carriage return and the pair of both are each one break. -/

def unifyBreaks : Text → Text
  | [] => []
  | '\r' :: '\n' :: rest => '\n' :: unifyBreaks rest
  | c :: rest => (if c = '\r' then '\n' else c) :: unifyBreaks rest

/-- The lines without their breaks. A text that ends with a break has an empty last line. -/
def lines (t : Text) : List Text := splitOn '\n' (unifyBreaks t)

end Text

/-! ### Numerals

Integers are written in plain decimal. Numerals of every script can be read. -/

def Text.ofInt (n : Int) : Text :=
  if n < 0 then '-' :: Nat.toDigits 10 n.natAbs else Nat.toDigits 10 n.natAbs

namespace Numeral

def maxDigits : Nat := 4300

/-- White space around a numeral. The four separators U+001C to U+001F do not count. -/
def isMargin (c : Char) : Bool := isBlank c && !(0x1C ≤ c.toNat && c.toNat ≤ 0x1F)

/-- The values of the digits, in order. One underscore may stand between two digits. -/
def digits? : Text → Option (List Nat)
  | [] => none
  | [c] => (digitValue? c).map ([·])
  | c :: '_' :: rest => do return (← digitValue? c) :: (← digits? rest)
  | c :: rest => do return (← digitValue? c) :: (← digits? rest)

def value (digits : List Nat) : Nat := digits.foldl (10 * · + ·) 0

def unsigned : Text → Bool × Text
  | '-' :: rest => (true, rest)
  | '+' :: rest => (false, rest)
  | t => (false, t)

/-- Reads a numeral: white space, at most one sign, digits of any scripts, white space. Leading zeros
count towards the limit on the digits. -/
def read? (t : Text) : Option Int :=
  let body := ((t.dropWhile isMargin).reverse.dropWhile isMargin).reverse
  let (negative, magnitude) := unsigned body
  match digits? magnitude with
  | none => none
  | some ds =>
    if ds.length > maxDigits then none
    else some (if negative then -(value ds : Int) else value ds)

end Numeral

/-! ### Quotation

In quotation marks, on one line, and with every character that has no visible form written by its number. -/

namespace Quoted

/-- `width` hexadecimal digits of `n`, the last ones if there are more. -/
def hex : (width n : Nat) → Text
  | 0, _ => []
  | width + 1, n => hex width (n / 16) ++ [Nat.digitChar (n % 16)]

/-- Apostrophes stand around the text, unless it holds an apostrophe and no double quote. -/
def mark (t : Text) : Char := if t.contains '\'' && !t.contains '"' then '"' else '\''

def number (c : Char) : Text :=
  let n := c.toNat
  if n < 0x100 then "\\x" ++ hex 2 n
  else if n < 0x10000 then "\\u" ++ hex 4 n
  else "\\U" ++ hex 8 n

/-- A character inside the given quotation marks. `plain` tells which characters show as they are. -/
def escape (plain : Char → Bool) (mark c : Char) : Text :=
  if c = mark ∨ c = '\\' then ['\\', c]
  else if c = '\t' then "\\t"
  else if c = '\n' then "\\n"
  else if c = '\r' then "\\r"
  else if plain c then [c]
  else number c

def write (plain : Char → Bool) (t : Text) : Text :=
  [mark t] ++ t.flatMap (escape plain (mark t)) ++ [mark t]

end Quoted

def Text.quoted (t : Text) : Text := Quoted.write isPrintable t

end StyleValue

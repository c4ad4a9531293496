import StyleValue.Text

/-! JSON values without fractions, and their text on several lines. -/
namespace StyleValue

inductive Json where
  | number (n : Int)
  | text (t : Text)
  | list (items : List Json)
  | record (fields : List (Text × Json))

namespace Json

/-- The 16-bit units of a character: one, or a pair of surrogates. -/
def units (c : Char) : List Nat :=
  if c.toNat < 0x10000 then [c.toNat]
  else
    let n := c.toNat - 0x10000
    [0xD800 + n / 0x400, 0xDC00 + n % 0x400]

/-- Only ASCII characters with a visible form, and the space, show as they are. -/
def escape (c : Char) : Text :=
  if c = '"' then "\\\""
  else if c = '\\' then "\\\\"
  else if c = '\n' then "\\n"
  else if c = '\r' then "\\r"
  else if c = '\t' then "\\t"
  else if c.toNat = 8 then "\\b"
  else if c.toNat = 12 then "\\f"
  else if 0x20 ≤ c.toNat ∧ c.toNat < 0x7F then [c]
  else (units c).flatMap fun unit => "\\u" ++ Quoted.hex 4 unit

def quote (t : Text) : Text := ['"'] ++ t.flatMap escape ++ ['"']

def breakLine (depth : Nat) (tail : Text) : Text := '\n' :: (List.replicate (2 * depth) ' ' ++ tail)

mutual
/-- Puts the text of a value in front of `tail`. Members stand one to a line, two columns further in
than what holds them. -/
def renderOnto (depth : Nat) (tail : Text) : Json → Text
  | .number n => Text.ofInt n ++ tail
  | .text t => quote t ++ tail
  | .list [] => '[' :: ']' :: tail
  | .list (item :: items) =>
    '[' :: breakLine (depth + 1)
      (renderOnto (depth + 1) (renderItems (depth + 1) (breakLine depth (']' :: tail)) items) item)
  | .record [] => '\x7b' :: '\x7d' :: tail
  | .record ((key, value) :: fields) =>
    '\x7b' :: breakLine (depth + 1) (quote key ++ ':' :: ' ' ::
      renderOnto (depth + 1) (renderFields (depth + 1) (breakLine depth ('\x7d' :: tail)) fields)
        value)

def renderItems (depth : Nat) (tail : Text) : List Json → Text
  | [] => tail
  | item :: items =>
    ',' :: breakLine depth (renderOnto depth (renderItems depth tail items) item)

def renderFields (depth : Nat) (tail : Text) : List (Text × Json) → Text
  | [] => tail
  | (key, value) :: fields =>
    ',' :: breakLine depth (quote key ++ ':' :: ' ' ::
      renderOnto depth (renderFields depth tail fields) value)
end

def render (j : Json) : Text := j.renderOnto 0 []

end Json

end StyleValue

import StyleValue.Text

/-! Numbers of 53 binary digits, read from decimals and written with the fewest decimal digits that
read back. All of it is exact arithmetic on natural numbers. -/
namespace StyleValue

/-- The number `mantissa * 2 ^ exponent`. -/
structure Binary64 where
  mantissa : Nat
  exponent : Int
  deriving DecidableEq, Repr

/-- The number `digits * 10 ^ exponent`. -/
structure Decimal where
  digits : Nat
  exponent : Int
  deriving DecidableEq, Repr

namespace Decimal

def numerator (d : Decimal) : Nat := d.digits * Nat.pow 10 d.exponent.toNat

def denominator (d : Decimal) : Nat := Nat.pow 10 (-d.exponent).toNat

/-- How many digits stand before the point, counted below zero for zeros behind it. -/
def magnitude (d : Decimal) : Int := (Nat.toDigits 10 d.digits).length + d.exponent

end Decimal

/-- The quotient rounded to the nearest integer. A half goes to the even neighbour. -/
def roundedQuotient (numerator denominator : Nat) : Nat :=
  let q := numerator / denominator
  let r := numerator % denominator
  if 2 * r < denominator ∨ (2 * r = denominator ∧ q % 2 = 0) then q else q + 1

namespace Binary64

def zero : Binary64 := ⟨0, 0⟩

def leastExponent : Int := -1074

def greatestExponent : Int := 971

/-- The exponent with which `numerator / denominator` has a mantissa of 53 digits, or the least one. -/
def exponentFor (numerator denominator : Nat) : Int :=
  let guess : Int := (Nat.log2 numerator : Int) - Nat.log2 denominator - 53
  let fits := numerator * Nat.pow 2 (-(guess + 53)).toNat < denominator * Nat.pow 2 (guess + 53).toNat
  max leastExponent (if fits then guess else guess + 1)

/-- The nearest number to a decimal, of two the one with the even mantissa. There is none when the
decimal is beyond the greatest number by half a step or more. The first two tests settle decimals
that are far out of range. -/
def ofDecimal? (d : Decimal) : Option Binary64 :=
  if d.digits = 0 ∨ d.magnitude < -330 then some zero
  else if d.magnitude > 310 then none
  else
    let exponent := exponentFor d.numerator d.denominator
    let mantissa := roundedQuotient (d.numerator * Nat.pow 2 (-exponent).toNat)
      (d.denominator * Nat.pow 2 exponent.toNat)
    let whole : Binary64 :=
      if mantissa = Nat.pow 2 53 then ⟨Nat.pow 2 52, exponent + 1⟩
      else if mantissa = 0 then zero
      else ⟨mantissa, exponent⟩
    if whole.exponent > greatestExponent then none else some whole

def exact (b : Binary64) : Decimal :=
  if 0 ≤ b.exponent then ⟨b.mantissa * Nat.pow 2 b.exponent.toNat, 0⟩
  else ⟨b.mantissa * Nat.pow 5 (-b.exponent).toNat, b.exponent⟩

/-- Of the two decimals with `count` digits next to the number, those that read back, the nearer one
first. On a tie the even one comes first. -/
def candidates (b : Binary64) (count : Nat) : List Decimal :=
  let e := b.exact
  let grid := e.magnitude - count
  let dropped := (grid - e.exponent).toNat
  let scaled := e.digits * Nat.pow 10 (e.exponent - grid).toNat
  let below := scaled / Nat.pow 10 dropped
  let twice := 2 * (scaled % Nat.pow 10 dropped)
  let upFirst := twice > Nat.pow 10 dropped ∨ (twice = Nat.pow 10 dropped ∧ below % 2 = 1)
  let pair := if upFirst then [below + 1, below] else [below, below + 1]
  (pair.map (Decimal.mk · grid)).filter fun d => ofDecimal? d = some b

/-- The fewest digits that read back, and of those the nearest. Seventeen are always enough. -/
def shortest (b : Binary64) : Decimal :=
  ((List.range 17).findSome? fun i => (b.candidates (i + 1)).head?).getD b.exact

def layout (d : Decimal) : Text × Int :=
  let digits := Nat.toDigits 10 d.digits
  ((digits.reverse.dropWhile (· = '0')).reverse, digits.length + d.exponent)

/-- The shortest text that reads back. It has a point, unless the number has more than sixteen digits
before the point or more than three zeros behind it: then it has an exponent. -/
def text (b : Binary64) : Text :=
  if b.mantissa = 0 then "0.0"
  else
    let (digits, point) := layout b.shortest
    if -4 < point ∧ point ≤ 16 then
      if point ≤ 0 then "0." ++ Text.repeated '0' (-point) ++ digits
      else
        let whole := digits.take point.toNat ++ Text.repeated '0' (point - digits.length)
        let fraction := digits.drop point.toNat
        whole ++ ['.'] ++ (if fraction.isEmpty then ['0'] else fraction)
    else
      let exponent := point - 1
      let figures := Nat.toDigits 10 exponent.natAbs
      digits.take 1 ++ (if digits.length > 1 then '.' :: digits.drop 1 else []) ++
        ['e', if exponent < 0 then '-' else '+'] ++ Text.repeated '0' (2 - figures.length) ++ figures

end Binary64

end StyleValue

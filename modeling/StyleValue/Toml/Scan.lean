import StyleValue.Toml.Value

/-! The smallest parts of a configuration file: space, comments, numbers, dates and times. A part that
is not there gives nothing, and what follows a part is not looked at. -/
namespace StyleValue.Toml

inductive Fault where
  | malformed
  | integerTooLong (digits : Nat)
  deriving DecidableEq, Repr

def isSpace (c : Char) : Bool := c = ' ' || c = '\t'

def isSpaceOrBreak (c : Char) : Bool := isSpace c || c = '\n'

/-- Control characters other than the tab stand nowhere in a file but at the ends of lines. -/
def isControl (c : Char) : Bool := (c.toNat < 0x20 && c != '\t') || c.toNat = 0x7F

def skipSpace (t : Text) : Text := t.dropWhile isSpace

theorem length_skipSpace_le (t : Text) : (skipSpace t).length ≤ t.length :=
  (List.dropWhile_sublist _).length_le

def skipComment? (t : Text) : Option Text :=
  match t with
  | '#' :: rest =>
    if (rest.takeWhile (· != '\n')).any isControl then none else some (rest.dropWhile (· != '\n'))
  | _ => some t

/-- Space, breaks and comments, as they may stand between the members of an array. `inComment` tells
whether a comment has begun. -/
def skipLayout? : (inComment : Bool) → Text → Option Text
  | _, [] => some []
  | true, c :: rest =>
    if c = '\n' then skipLayout? false rest
    else if isControl c then none
    else skipLayout? true rest
  | false, c :: rest =>
    if isSpaceOrBreak c then skipLayout? false rest
    else if c = '#' then skipLayout? true rest
    else some (c :: rest)

theorem length_le_of_skipLayout? {inComment : Bool} {t rest : Text}
    (h : skipLayout? inComment t = some rest) : rest.length ≤ t.length := by
  fun_induction skipLayout? inComment t <;> simp_all <;> omega

/-- Digits, between any two of which one underscore may stand, and what follows. `inside` tells
whether a digit came before. -/
def digitRun (isDigit : Char → Bool) : (inside : Bool) → Text → Text × Text
  | _, [] => ([], [])
  | inside, c :: rest =>
    if isDigit c then
      let (digits, after) := digitRun isDigit true rest
      (c :: digits, after)
    else if inside && c = '_' && rest.head?.any isDigit then digitRun isDigit true rest
    else ([], c :: rest)

def isDecimalDigit (c : Char) : Bool := '0' ≤ c && c ≤ '9'

def isHexDigit (c : Char) : Bool :=
  isDecimalDigit c || ('a' ≤ c && c ≤ 'f') || ('A' ≤ c && c ≤ 'F')

def hexValue (c : Char) : Nat :=
  if isDecimalDigit c then c.toNat - '0'.toNat
  else if c ≤ 'F' then c.toNat - 'A'.toNat + 10
  else c.toNat - 'a'.toNat + 10

def valueIn (base : Nat) (digits : Text) : Nat :=
  digits.foldl (fun n c => n * base + hexValue c) 0

def base? : Char → Option (Nat × (Char → Bool))
  | 'x' => some (16, isHexDigit)
  | 'o' => some (8, fun c => '0' ≤ c && c ≤ '7')
  | 'b' => some (2, fun c => c = '0' || c = '1')
  | _ => none

def basedInteger? : Text → Option (Nat × Text)
  | '0' :: letter :: rest => do
    let (base, isDigit) ← base? letter
    match digitRun isDigit false rest with
    | ([], _) => none
    | (digits, after) => some (valueIn base digits, after)
  | _ => none

def sign : Text → Bool × Text
  | '-' :: rest => (true, rest)
  | '+' :: rest => (false, rest)
  | t => (false, t)

/-- A decimal integer. It begins with a zero only if it is zero. -/
def wholePart? : Text → Option (Text × Text)
  | '0' :: rest => some (['0'], rest)
  | t =>
    match digitRun isDecimalDigit false t with
    | ([], _) => none
    | (digits, after) => some (digits, after)

def fraction? : Text → Option (Text × Text)
  | '.' :: rest =>
    match digitRun isDecimalDigit false rest with
    | ([], _) => none
    | (digits, after) => some (digits, after)
  | _ => none

def exponent? : Text → Option (Int × Text)
  | mark :: rest =>
    if mark = 'e' || mark = 'E' then
      let (negative, rest) := sign rest
      match digitRun isDecimalDigit false rest with
      | ([], _) => none
      | (digits, after) =>
        let size := valueIn 10 digits
        some (if negative then -(size : Int) else size, after)
    else none
  | [] => none

/-- The number that is nearest to a decimal, or infinity beyond the greatest one. -/
def Real.ofDecimal (negative : Bool) (d : Decimal) : Real :=
  match Binary64.ofDecimal? d with
  | some size => .finite negative size
  | none => .infinite negative

/-- A decimal number: real if it has a fraction or an exponent, and an integer otherwise. -/
def decimalNumber? (t : Text) : Option (Except Fault Value × Text) := do
  let (negative, t) := sign t
  let (whole, t) ← wholePart? t
  let (fraction, afterFraction) := (fraction? t).getD ([], t)
  let (exponent, after) := (exponent? afterFraction).getD (0, afterFraction)
  if after.length = t.length then
    if whole.length > Numeral.maxDigits then return (.error (.integerTooLong whole.length), after)
    let size : Int := valueIn 10 whole
    return (.ok (.integer (if negative then -size else size)), after)
  else
    let d : Decimal := ⟨valueIn 10 (whole ++ fraction), exponent - fraction.length⟩
    return (.ok (.real (.ofDecimal negative d)), after)

def namedReal? (t : Text) : Option (Value × Text) :=
  let (negative, t) := sign t
  match Text.after? "inf" t with
  | some rest => some (.real (.infinite negative), rest)
  | none => (Text.after? "nan" t).map fun rest => (.real .undefined, rest)

def fixedDigits? (count : Nat) (t : Text) : Option (Nat × Text) :=
  let digits := t.take count
  if digits.length = count ∧ digits.all isDecimalDigit then
    some (valueIn 10 digits, t.drop count)
  else none

def expect? (c : Char) : Text → Option Text
  | d :: rest => if c = d then some rest else none
  | [] => none

def twoDigits? (least greatest : Nat) (t : Text) : Option (Nat × Text) := do
  let (n, rest) ← fixedDigits? 2 t
  if least ≤ n ∧ n ≤ greatest then some (n, rest) else none

/-- The first six digits of a fraction of a second count. -/
def microseconds (t : Text) : Nat × Text :=
  match t with
  | '.' :: rest =>
    match rest.takeWhile isDecimalDigit with
    | [] => (0, t)
    | digits =>
      let six := digits.take 6
      (valueIn 10 six * Nat.pow 10 (6 - six.length), rest.dropWhile isDecimalDigit)
  | _ => (0, t)

def time? (t : Text) : Option (Time × Text) := do
  let (hour, t) ← twoDigits? 0 23 t
  let (minute, t) ← twoDigits? 0 59 (← expect? ':' t)
  let (second, t) ← twoDigits? 0 59 (← expect? ':' t)
  let (microsecond, t) := microseconds t
  return (⟨hour, minute, second, microsecond⟩, t)

def offset? (t : Text) : Option (Int × Text) :=
  match t with
  | 'Z' :: rest | 'z' :: rest => some (0, rest)
  | s :: rest =>
    if s = '+' || s = '-' then do
      let (hour, rest) ← twoDigits? 0 23 rest
      let (minute, rest) ← twoDigits? 0 59 (← expect? ':' rest)
      let size : Int := 60 * hour + minute
      return (if s = '-' then -size else size, rest)
    else none
  | [] => none

def isLeapYear (year : Nat) : Bool :=
  (year % 4 = 0 && year % 100 != 0) || year % 400 = 0

def daysIn (year month : Nat) : Nat :=
  if month = 2 then if isLeapYear year then 29 else 28
  else if month = 4 ∨ month = 6 ∨ month = 9 ∨ month = 11 then 30
  else 31

def Date.valid (d : Date) : Bool := 1 ≤ d.year && d.day ≤ daysIn d.year d.month

/-- A date by its form. Whether there is such a day is left open. -/
def date? (t : Text) : Option (Date × Text) := do
  let (year, t) ← fixedDigits? 4 t
  let (month, t) ← twoDigits? 1 12 (← expect? '-' t)
  let (day, t) ← twoDigits? 1 31 (← expect? '-' t)
  return (⟨year, month, day⟩, t)

def timeOfDate? (t : Text) : Option (Time × Offset × Text) :=
  match t with
  | c :: rest =>
    if c = 'T' || c = 't' || c = ' ' then do
      let (time, rest) ← time? rest
      match offset? rest with
      | some (offset, rest) => return (time, some offset, rest)
      | none => return (time, none, rest)
    else none
  | [] => none

def moment? (t : Text) : Option (Except Fault Value × Text) :=
  match date? t with
  | some (date, rest) =>
    let (value, rest) := match timeOfDate? rest with
      | some (time, offset, rest) => (Value.moment date time offset, rest)
      | none => (Value.date date, rest)
    some (if date.valid then .ok value else .error .malformed, rest)
  | none => (time? t).map fun (time, rest) => (.ok (.time time), rest)

end StyleValue.Toml

import StyleValue.Text.Binary64

/-! Values of a configuration file, and the text that shows a value in a message. -/
namespace StyleValue.Toml

inductive Real where
  | finite (negative : Bool) (size : Binary64)
  | infinite (negative : Bool)
  | undefined
  deriving DecidableEq, Repr

structure Date where
  year : Nat
  month : Nat
  day : Nat
  deriving DecidableEq, Repr

structure Time where
  hour : Nat
  minute : Nat
  second : Nat
  microsecond : Nat
  deriving DecidableEq, Repr

/-- How local time differs from universal time, in minutes. A local time without a place has no such
offset. -/
abbrev Offset := Option Int

inductive Value where
  | text (t : Text)
  | integer (n : Int)
  | real (r : Real)
  | boolean (b : Bool)
  | date (d : Date)
  | time (t : Time)
  | moment (d : Date) (t : Time) (offset : Offset)
  | array (items : List Value)
  | table (fields : List (Text × Value))
  deriving Repr

abbrev Table := List (Text × Value)

def Table.get? (table : Table) (key : Text) : Option Value :=
  (table.find? fun field => field.1 = key).map (·.2)

def padded (width n : Nat) : Text :=
  let digits := Nat.toDigits 10 n
  List.replicate (width - digits.length) '0' ++ digits

def Real.shown : Real → Text
  | .finite negative size => (if negative then ['-'] else []) ++ size.text
  | .infinite negative => if negative then "-inf" else "inf"
  | .undefined => "nan"

def Date.shown (d : Date) : Text :=
  padded 4 d.year ++ "-" ++ padded 2 d.month ++ "-" ++ padded 2 d.day

def Time.shown (t : Time) : Text :=
  let fraction := if t.microsecond = 0 then [] else '.' :: padded 6 t.microsecond
  padded 2 t.hour ++ ":" ++ padded 2 t.minute ++ ":" ++ padded 2 t.second ++ fraction

def offsetShown : Offset → Text
  | none => []
  | some m =>
    [if m < 0 then '-' else '+'] ++ padded 2 (m.natAbs / 60) ++ ":" ++ padded 2 (m.natAbs % 60)

def commaList (items : List Text) : Text := Text.joined ", " items

def numbers (ns : List Nat) : Text := commaList (ns.map fun (n : Nat) => Text.ofInt n)

def Date.fields (d : Date) : List Nat := [d.year, d.month, d.day]

/-- Seconds and microseconds at the end are left out when they are zero. -/
def Time.fields (t : Time) : List Nat :=
  [t.hour, t.minute] ++
    if t.microsecond = 0 then if t.second = 0 then [] else [t.second] else [t.second, t.microsecond]

/-- An offset is a number of seconds, and of days when it is negative. -/
def offsetMember : Offset → Text
  | none => []
  | some m =>
    let zone : Text :=
      if m = 0 then "datetime.timezone.utc"
      else if m < 0 then
        "datetime.timezone(datetime.timedelta(days=-1, seconds=" ++ Text.ofInt (86400 + 60 * m) ++ "))"
      else "datetime.timezone(datetime.timedelta(seconds=" ++ Text.ofInt (60 * m) ++ "))"
    ", tzinfo=" ++ zone

mutual
def Value.member : Value → Text
  | text t => t.quoted
  | integer n => Text.ofInt n
  | real r => r.shown
  | boolean b => if b then "True" else "False"
  | date d => "datetime.date(" ++ numbers d.fields ++ ")"
  | time t => "datetime.time(" ++ numbers t.fields ++ ")"
  | moment d t offset =>
    "datetime.datetime(" ++ numbers (d.fields ++ t.fields) ++ offsetMember offset ++ ")"
  | array items => "[" ++ commaList (Value.members items) ++ "]"
  | table fields => "\x7b" ++ commaList (Value.memberFields fields) ++ "\x7d"

def Value.members : List Value → List Text
  | [] => []
  | v :: rest => v.member :: Value.members rest

def Value.memberFields : List (Text × Value) → List Text
  | [] => []
  | (key, v) :: rest => (key.quoted ++ ": " ++ v.member) :: Value.memberFields rest
end

def Value.shown : Value → Text
  | text t => t
  | date d => d.shown
  | time t => t.shown
  | moment d t offset => d.shown ++ " " ++ t.shown ++ offsetShown offset
  | v => v.member

mutual
def Value.writable : Value → Bool
  | integer n => (Nat.toDigits 10 n.natAbs).length ≤ Numeral.maxDigits
  | array items => Value.allWritable items
  | table fields => Value.fieldsWritable fields
  | _ => true

def Value.allWritable : List Value → Bool
  | [] => true
  | v :: rest => v.writable && Value.allWritable rest

def Value.fieldsWritable : List (Text × Value) → Bool
  | [] => true
  | (_, v) :: rest => v.writable && Value.fieldsWritable rest
end

end StyleValue.Toml

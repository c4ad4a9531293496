import StyleValue.Toml.Text

/-! Configuration files: values, and the tables that the lines of a file build up. -/
namespace StyleValue.Toml

namespace Table

def has (table : Table) (key : Text) : Bool := (table.get? key).isSome

def set (table : Table) (key : Text) (value : Value) : Table :=
  if table.has key then
    table.map fun (k, v) => if k = key then (k, value) else (k, v)
  else table ++ [(key, value)]

/-- Changes the table at the end of a path, and makes the tables on the way that are missing. Where
`throughArrays` holds, the way goes through the last table of an array. There is no way through any
other value. -/
def update (throughArrays : Bool) : Key → (Table → Option Table) → Table → Option Table
  | [], f, table => f table
  | k :: path, f, table =>
    match table.get? k with
    | none => (update throughArrays path f []).map fun inner => table.set k (.table inner)
    | some (.table inner) =>
      (update throughArrays path f inner).map fun inner => table.set k (.table inner)
    | some (.array items) =>
      match throughArrays, items.getLast? with
      | true, some (.table inner) =>
        (update throughArrays path f inner).map fun inner =>
          table.set k (.array (items.dropLast ++ [.table inner]))
      | _, _ => none
    | some _ => none

def add (key : Text) (value : Value) (table : Table) : Option Table :=
  if table.has key then none else some (table.set key value)

/-- Adds an empty table to the array under a key, which is made if it is not there. -/
def grow (key : Text) (table : Table) : Option Table :=
  match table.get? key with
  | none => some (table.set key (.array [.table []]))
  | some (.array items) => some (table.set key (.array (items ++ [.table []])))
  | some _ => none

end Table

/-- A table or an array that is written as one value is complete. -/
def Value.isClosed : Value → Bool
  | .table _ | .array _ => true
  | _ => false

def isFrozen (frozen : List Key) (path : Key) : Bool := frozen.any (·.isPrefixOf path)

structure Building where
  table : Table
  frozen : List Key

def Building.add (b : Building) (path : Key) (value : Value) : Option Building :=
  if isFrozen b.frozen path then none
  else
    (b.table.update false path.dropLast (Table.add (path.getLast?.getD []) value)).map fun table =>
      ⟨table, if value.isClosed then path :: b.frozen else b.frozen⟩

def simpleValue? (t : Text) : Option (Except Fault Value × Text) :=
  match text? t with
  | some (body, rest) => some (.ok (.text body), rest)
  | none =>
    match Text.after? "true" t, Text.after? "false" t with
    | some rest, _ => some (.ok (.boolean true), rest)
    | _, some rest => some (.ok (.boolean false), rest)
    | none, none =>
      match moment? t with
      | some found => some found
      | none =>
        match basedInteger? t with
        | some (n, rest) => some (.ok (.integer n), rest)
        | none =>
          match decimalNumber? t with
          | some found => some found
          | none => (namedReal? t).map fun (value, rest) => (.ok value, rest)

mutual

def value (t : Text) : Except Fault (Taken Value t) := do
  match t with
  | '[' :: rest =>
    match h : skipLayout? false rest with
    | none => throw .malformed
    | some inner =>
      have := length_le_of_skipLayout? h
      let items ← members inner
      Taken.of (.array items.value) items.rest
  | '\x7b' :: rest =>
    have := length_skipSpace_le rest
    match skipSpace rest with
    | '\x7d' :: after => Taken.of (.table []) after
    | _ =>
      let fields ← fields ⟨[], []⟩ (skipSpace rest)
      Taken.of (.table fields.value) fields.rest
  | t =>
    match simpleValue? t with
    | none => throw .malformed
    | some (value, rest) => Taken.of (← value) rest
  termination_by (t.length, 1)

def members (t : Text) : Except Fault (Taken (List Value) t) := do
  match t with
  | ']' :: rest => Taken.of [] rest
  | t =>
    let first ← value t
    match h : skipLayout? false first.rest with
    | some (']' :: rest) => Taken.of [first.value] rest
    | some (',' :: rest) =>
      match h' : skipLayout? false rest with
      | none => throw .malformed
      | some next =>
        have : next.length < t.length := by
          have := length_le_of_skipLayout? h
          have := length_le_of_skipLayout? h'
          have := first.shorter
          simp only [List.length_cons] at *
          omega
        let others ← members next
        Taken.of (first.value :: others.value) others.rest
    | _ => throw .malformed
  termination_by (t.length, 2)

def fields (before : Building) (t : Text) : Except Fault (Taken Table t) := do
  let path ← key t
  match h : path.rest with
  | '=' :: rest =>
    have : (skipSpace rest).length < t.length := by
      have := length_skipSpace_le rest
      have := path.shorter
      simp only [h, List.length_cons] at *
      omega
    let v ← value (skipSpace rest)
    match before.add path.value v.value with
    | none => throw .malformed
    | some now =>
      match h : skipSpace v.rest with
      | '\x7d' :: after => Taken.of now.table after
      | ',' :: more =>
        have : (skipSpace more).length < t.length := by
          have := length_skipSpace_le more
          have := length_skipSpace_le v.rest
          have := v.shorter
          simp only [h, List.length_cons] at *
          omega
        let others ← fields now (skipSpace more)
        Taken.of others.value others.rest
      | _ => throw .malformed
  | _ => throw .malformed
  termination_by (t.length, 0)

end

/-- The state of a file that has been read up to some line: its table, the table that the latest
header opened, the paths to complete values, the paths that a header or a dotted key has opened, and
those of the latter that become so with the next header. -/
structure Document where
  table : Table
  header : Key
  frozen : List Key
  opened : List Key
  pending : List Key

namespace Document

def empty : Document := ⟨[], [], [], [], []⟩

/-- A key and its value, under the latest header. A dotted key goes into tables that no header has
opened. -/
def addPair (d : Document) (path : Key) (v : Value) : Option Document :=
  let around := d.header ++ path.dropLast
  let between := (List.range path.length).drop 1 |>.map fun n => d.header ++ path.take n
  if between.any (d.opened.contains ·) || isFrozen d.frozen around then none
  else
    (d.table.update true around (Table.add (path.getLast?.getD []) v)).map fun table =>
      { d with
        table
        pending := between ++ d.pending
        frozen := if v.isClosed then (d.header ++ path) :: d.frozen else d.frozen }

/-- Before a header counts, the tables of earlier dotted keys are closed to headers. -/
def settle (d : Document) : Document := { d with opened := d.pending ++ d.opened, pending := [] }

def openTable (d : Document) (path : Key) : Option Document :=
  let d := d.settle
  if d.opened.contains path || isFrozen d.frozen path then none
  else
    (d.table.update true path some).map fun table =>
      { d with table, header := path, opened := path :: d.opened }

/-- A header in double brackets adds a table to an array. What was said of tables inside the one before
it does not hold for the new one. -/
def openElement (d : Document) (path : Key) : Option Document :=
  let d := d.settle
  if isFrozen d.frozen path then none
  else
    (d.table.update true path.dropLast (Table.grow (path.getLast?.getD []))).map fun table =>
      let outside := fun (p : Key) => !path.isPrefixOf p
      { d with
        table
        header := path
        frozen := d.frozen.filter outside
        opened := path :: d.opened.filter outside }

def readHeader (d : Document) (closing : Text) (effect : Document → Key → Option Document)
    (t : Text) : Except Fault (Document × Text) := do
  let path ← key (skipSpace t)
  match effect d path.value, Text.after? closing path.rest with
  | some d, some rest => return (d, rest)
  | _, _ => throw .malformed

def readPair (d : Document) (t : Text) : Except Fault (Document × Text) := do
  let path ← key t
  match path.rest with
  | '=' :: rest =>
    let v ← value (skipSpace rest)
    match d.addPair path.value v.value with
    | some d => return (d, v.rest)
    | none => throw .malformed
  | _ => throw .malformed

def readLine (d : Document) (t : Text) : Except Fault (Taken Document t) := do
  let (d, rest) ← match skipSpace t with
    | '[' :: '[' :: rest => d.readHeader "]]" openElement rest
    | '[' :: rest => d.readHeader "]" openTable rest
    | '\n' :: rest => pure (d, '\n' :: rest)
    | '#' :: rest => pure (d, '#' :: rest)
    | [] => pure (d, [])
    | rest => d.readPair rest
  match skipComment? (skipSpace rest) with
  | some [] => Taken.of d []
  | some ('\n' :: rest) => Taken.of d rest
  | _ => throw .malformed

def readLines (d : Document) (t : Text) : Except Fault Document :=
  match t with
  | [] => .ok d
  | c :: rest =>
    match d.readLine (c :: rest) with
    | .error e => .error e
    | .ok p => readLines p.value p.rest
  termination_by t.length
  decreasing_by exact p.shorter

end Document

/-- A carriage return counts only as part of a break. -/
def joinBreaks : Text → Text
  | [] => []
  | '\r' :: '\n' :: rest => '\n' :: joinBreaks rest
  | c :: rest => c :: joinBreaks rest

def read (t : Text) : Except Fault Table :=
  (Document.empty.readLines (joinBreaks t)).map (·.table)

end StyleValue.Toml

import StyleValue.Text.Utf8

/-! Paths, and a tree of files as a program sees it from its working directory. The tree has files and
directories only, all of which may be read and written: links, devices, permissions and faults of the
medium are not modelled. -/
namespace StyleValue

/-- An absolute path has a root of one slash or, as a kind of its own, of two. -/
structure Path where
  root : Text
  parts : List Text
  deriving DecidableEq, Repr

namespace Path

def rootOf (t : Text) : Text :=
  match (t.takeWhile (· = '/')).length with
  | 0 => []
  | 2 => "//"
  | _ => "/"

/-- Doubled slashes, slashes at the end and parts that are a single point mean nothing. -/
def ofText (t : Text) : Path :=
  ⟨rootOf t, (Text.splitOn '/' t).filter fun part => part != [] && part != ['.']⟩

/-- The working directory is written as a single point. -/
def text (p : Path) : Text :=
  if p.root = [] ∧ p.parts = [] then "." else p.root ++ Text.joined "/" p.parts

def parent (p : Path) : Path := { p with parts := p.parts.dropLast }

def child (p : Path) (name : Text) : Path := { p with parts := p.parts ++ [name] }

end Path

inductive Entry where
  | directory
  | file (bytes : List UInt8)
  deriving DecidableEq, Repr

/-- The names on the way from the working directory to an entry. The way to what lies outside begins
with `..`, or with `/` for the root. -/
abbrev Location := List Text

namespace Location

def root : Location := [['/']]

def up : Text := ['.', '.']

def step (l : Location) (name : Text) : Location :=
  if name != up then l ++ [name]
  else if l = root then root
  else if l.all (· = up) then l ++ [up]
  else l.dropLast

/-- The root, the working directory and those above it are always there. -/
def isFixed (l : Location) : Bool := l = root || l.all (· = up)

def isBelow (l : Location) : Bool := l != [] && l.head? != some up && l.head? != some ['/']

def text (l : Location) : Text := Text.joined "/" l

end Location

inductive FileFault where
  | notFound
  | notDirectory
  | isDirectory
  /-- A name has at most 255 bytes, and a path with the zero after it at most 4096. -/
  | nameTooLong
  | nullCharacter
  deriving DecidableEq, Repr

namespace FileFault

def text (path : Path) : FileFault → Text
  | notFound => "[Errno 2] No such file or directory: " ++ path.text.quoted
  | notDirectory => "[Errno 20] Not a directory: " ++ path.text.quoted
  | isDirectory => "[Errno 21] Is a directory: " ++ path.text.quoted
  | nameTooLong => "[Errno 36] File name too long: " ++ path.text.quoted
  | nullCharacter => "embedded null byte"

end FileFault

structure FileSystem where
  entries : List (Location × Entry)
  deriving DecidableEq, Repr

namespace FileSystem

def empty : FileSystem := ⟨[]⟩

def entry? (fs : FileSystem) (l : Location) : Option Entry :=
  if l.isFixed then some .directory else (fs.entries.find? (·.1 = l)).map (·.2)

def put (fs : FileSystem) (l : Location) (e : Entry) : FileSystem :=
  if (fs.entries.find? (·.1 = l)).isSome then
    ⟨fs.entries.map fun (l', e') => if l' = l then (l, e) else (l', e')⟩
  else ⟨fs.entries ++ [(l, e)]⟩

def add (fs : FileSystem) (l : Location) (e : Entry) : FileSystem :=
  let above := ((List.range l.length).map l.take).filter (!Location.isFixed ·)
  (above.foldl (fun fs above => fs.put above .directory) fs).put l e

def maxNameBytes : Nat := 255

def maxPathBytes : Nat := 4095

def isTooLong (bytes : Nat) (t : Text) : Bool := (Utf8.encode t).length > bytes

def locateIn (l : Location) (name : Text) : Except FileFault Location :=
  if isTooLong maxNameBytes name then .error .nameTooLong else .ok (l.step name)

def enter (fs : FileSystem) (l : Location) : List Text → Except FileFault Location
  | [] => .ok l
  | name :: names => do
    let l ← locateIn l name
    match fs.entry? l with
    | none => .error .notFound
    | some (.file _) => .error .notDirectory
    | some .directory => fs.enter l names

/-- Where a path leads. The entry itself may be missing, what holds it may not. -/
def locate (fs : FileSystem) (path : Path) : Except FileFault Location := do
  if path.text.contains '\x00' then throw .nullCharacter
  if isTooLong maxPathBytes path.text then throw .nameTooLong
  let start : Location := if path.root = [] then [] else Location.root
  match path.parts.getLast? with
  | none => return start
  | some name => locateIn (← fs.enter start path.parts.dropLast) name

def read (fs : FileSystem) (path : Path) : Except FileFault (List UInt8) := do
  match fs.entry? (← fs.locate path) with
  | none => throw .notFound
  | some .directory => throw .isDirectory
  | some (.file bytes) => return bytes

def write (fs : FileSystem) (path : Path) (bytes : List UInt8) : Except FileFault FileSystem := do
  let l ← fs.locate path
  match fs.entry? l with
  | some .directory => throw .isDirectory
  | _ => return fs.put l (.file bytes)

def changedSince (fs before : FileSystem) : List (Location × List UInt8) :=
  fs.entries.filterMap fun (l, e) =>
    match e with
    | .directory => none
    | .file bytes => if before.entry? l = some e then none else some (l, bytes)

end FileSystem

end StyleValue

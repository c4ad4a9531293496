import StyleValue.Command.Arguments
import StyleValue.Command.FileSystem
import StyleValue.Text.Utf8
import StyleValue.Toml.Document
import StyleValue.Token.Lexer

/-! What the arguments and the configuration file together ask for. -/
namespace StyleValue

inductive Input where
  | expression (t : Text)
  /-- An expression that has been left blank. It is no text, not even an empty one. -/
  | blank
  | standardInput
  | file (path : Path)
  deriving DecidableEq, Repr

def Input.name : Input → Text
  | expression _ | blank => "<expr>"
  | standardInput => "<stdin>"
  | file path => path.text

inductive View where
  | characters
  | tokens
  | program (format : OutputFormat)
  deriving DecidableEq, Repr

structure Settings where
  input : Input
  output : Option Path
  lexer : LexOptions
  view : View
  debug : Bool
  deriving DecidableEq, Repr

/-- What stops the command without a word of its own. -/
inductive Abort where
  | undecodable (fault : Utf8.Fault)
  | file (path : Path) (fault : FileFault)
  | integerTooLong (digits : Nat)
  /-- An integer that is too long to be shown. -/
  | integerUnwritable
  | blankNormalized
  deriving DecidableEq, Repr

namespace Abort

def undecodableMessage (f : Utf8.Fault) : Text :=
  let place : Text :=
    if f.count = 1 then
      "byte 0x" ++ Quoted.hex 2 f.byte.toNat ++ " in position " ++ Text.ofInt f.offset
    else
      "bytes in position " ++ Text.ofInt f.offset ++ "-" ++ Text.ofInt (f.offset + f.count - 1)
  "'utf-8' codec can't decode " ++ place ++ ": " ++ f.reason.message

def digitLimit : Text :=
  "Exceeds the limit (" ++ Text.ofInt Numeral.maxDigits ++ " digits) for integer string conversion"

def digitAdvice : Text := "; use sys.set_int_max_str_digits() to increase the limit"

def message : Abort → Text
  | undecodable fault => undecodableMessage fault
  | file path fault => fault.text path
  | integerTooLong digits =>
    digitLimit ++ ": value has " ++ Text.ofInt digits ++ " digits" ++ digitAdvice
  | integerUnwritable => digitLimit ++ digitAdvice
  | blankNormalized => "normalize() argument 2 must be str, not list"

end Abort

inductive SettingsError where
  | noInput
  | twoInputs
  | badConfig
  | badFormat (shown : Text)
  | aborted (reason : Abort)
  deriving DecidableEq, Repr

def SettingsError.message : SettingsError → Text
  | noInput => "no input: give a file, '-' or --expr"
  | twoInputs => "give either an input file or --expr, not both"
  | badConfig => "invalid config file: not in the configuration format"
  | badFormat shown => "invalid output format in config: " ++ shown.quoted
  | aborted reason => reason.message

namespace Config

def fileName : Text := "valexpr.toml"

/-- The configuration file: the one that is asked for, or else the one beside the input. -/
def path (a : Arguments) : Path :=
  match a.config with
  | some (c :: rest) => .ofText (c :: rest)
  | _ =>
    match a.input with
    | some t => if t = ['-'] then ⟨[], [fileName]⟩ else (Path.ofText t).parent.child fileName
    | none => ⟨[], [fileName]⟩

/-- The content of the configuration file. Without a regular file of that name it is empty, but a
name that is too long is a fault. -/
def load (fs : FileSystem) (p : Path) : Except SettingsError Toml.Table :=
  match fs.read p with
  | .error .nameTooLong => .error (.aborted (.file p .nameTooLong))
  | .error _ => .ok []
  | .ok bytes =>
    match Utf8.decode bytes with
    | .error fault => .error (.aborted (.undecodable fault))
    | .ok t =>
      match Toml.read t with
      | .ok table => .ok table
      | .error .malformed => .error .badConfig
      | .error (.integerTooLong digits) => .error (.aborted (.integerTooLong digits))

def value? (config : Toml.Table) (sectionName key : Text) : Option Toml.Value :=
  match config.get? sectionName with
  | some (.table fields) => Toml.Table.get? fields key
  | _ => none

/-- A truth value in a section. A value of another type counts as missing. -/
def flag (config : Toml.Table) (sectionName key : Text) (default : Bool) : Bool :=
  match value? config sectionName key with
  | some (.boolean b) => b
  | _ => default

def lexOptions (config : Toml.Table) : LexOptions :=
  ⟨flag config "lexer" "merge_operators" true, flag config "lexer" "normalize" false⟩

/-- The format of a program. A value that is no text counts as the text that shows it. -/
def format (config : Toml.Table) : Except SettingsError OutputFormat :=
  match value? config "output" "format" with
  | none => .ok .tree
  | some v =>
    if !v.writable then .error (.aborted .integerUnwritable)
    else
      match OutputFormat.ofText? v.shown with
      | some format => .ok format
      | none => .error (.badFormat v.shown)

end Config

/-- A path that is written as a single dash is standard input, however it was spelled. -/
def Input.ofText (t : Text) : Input :=
  let path := Path.ofText t
  if path.text = ['-'] then .standardInput else .file path

namespace Settings

def inputOf (a : Arguments) : Except SettingsError Input :=
  match a.input, a.expr with
  | none, none => .error .noInput
  | some _, some _ => .error .twoInputs
  | none, some (.text t) => .ok (.expression t)
  | none, some .blank => .ok .blank
  | some t, none => .ok (.ofText t)

def outputOf (a : Arguments) : Option Path :=
  match a.output with
  | none | some [] => none
  | some t => some (.ofText t)

def paths (a : Arguments) : List Path :=
  let source : List Path :=
    match inputOf a with
    | .ok (.file path) => [path]
    | _ => []
  Config.path a :: source ++ (outputOf a).toList

def viewOf (a : Arguments) (format : OutputFormat) : View :=
  if a.characters then .characters else if a.tokens then .tokens else .program format

/-- Arguments come before the configuration file, but what is wrong with that is found first. -/
def ofArguments (fs : FileSystem) (a : Arguments) : Except SettingsError Settings := do
  let input ← inputOf a
  let config ← Config.load fs (Config.path a)
  let format ← Config.format config
  let lexer := Config.lexOptions config
  return {
    input
    output := outputOf a
    lexer := ⟨lexer.mergeOperators && !a.splitOperators, lexer.normalize || a.normalize⟩
    view := viewOf a (a.format.getD format)
    debug := a.debug }

end Settings

end StyleValue

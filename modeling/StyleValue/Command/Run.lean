import StyleValue.Command.Settings
import StyleValue.Expr.Outline
import StyleValue.Expr.Parser
import StyleValue.Token.Trace

/-! The command: it reads a source, shows what is asked for, and says how it ended. -/
namespace StyleValue

/-- An exit with a code, a refusal of the arguments, or a fault that the command does not answer. -/
inductive Ending where
  | exit (code : Nat)
  | refused (code : Nat)
  | aborted (reason : Abort)
  deriving DecidableEq, Repr

structure Outcome where
  ending : Ending
  output : Text
  errors : Text
  files : FileSystem
  deriving DecidableEq, Repr

inductive Failure where
  | file (path : Path) (fault : FileFault)
  | program (e : SyntaxError)
  | aborted (reason : Abort)
  deriving DecidableEq, Repr

/-- Text that comes from outside is in UTF-8, and each of its breaks becomes a line feed. -/
def readText (bytes : List UInt8) : Except Failure Text :=
  match Utf8.decode bytes with
  | .ok t => .ok t.unifyBreaks
  | .error fault => .error (.aborted (.undecodable fault))

/-- The source text, unless the input is blank. A path that no file can have is not reported as a
fault of a file. -/
def Input.read (input : Input) (standardInput : List UInt8) (fs : FileSystem) :
    Except Failure (Option Text) :=
  match input with
  | .expression t => .ok (some t)
  | .blank => .ok none
  | .standardInput => some <$> readText standardInput
  | .file path =>
    match fs.read path with
    | .ok bytes => some <$> readText bytes
    | .error .nullCharacter => .error (.aborted (.file path .nullCharacter))
    | .error fault => .error (.file path fault)

namespace Settings

def tokenizer (s : Settings) : Tokenizer :=
  ⟨s.lexer, if s.debug then some ⟨some s.input.name, .standardError⟩ else none⟩

/-- The tokens of a source. A blank has none, and only that result is logged. -/
def tokens (s : Settings) (source : Option Text) : Traced (List Token) :=
  match source with
  | some t => s.tokenizer.tokenize t
  | none =>
    let traced := s.tokenizer.tokenizeReader (.ofCharacters [])
    ⟨traced.result.1, traced.trace⟩

def blankEntry (s : Settings) : Text :=
  s.tokenizer.entry fun log => log.headline ++ "SOURCE:\t0 characters []\n"

/-- The characters of a source. A blank has none, but cannot be normalized. -/
def characters (s : Settings) (source : Option Text) : Traced (Except Failure (List Character)) :=
  match source with
  | some t =>
    let traced := s.tokenizer.characters t
    ⟨.ok traced.result, traced.trace⟩
  | none =>
    if s.lexer.normalize then ⟨.error (.aborted .blankNormalized), s.blankEntry⟩
    else ⟨.ok [], s.blankEntry ++ s.tokenizer.characterResultEntry []⟩

def shown (format : OutputFormat) (p : Program Located) : Text :=
  match format with
  | .tree => p.outlineText
  | .json => p.toJson.render ++ "\n"

def parsed (ts : List Token) : Except Failure (Program Located) := (parseTokens ts).mapError .program

def process (s : Settings) (source : Option Text) : Traced (Except Failure Text) :=
  match s.view with
  | .characters =>
    let traced := s.characters source
    ⟨traced.result.map dumpCharacters, traced.trace⟩
  | .tokens =>
    let traced := s.tokens source
    ⟨.ok (dumpTokens traced.result), traced.trace⟩
  | .program format =>
    let traced := s.tokens source
    ⟨(parsed traced.result).map (shown format), traced.trace⟩

end Settings

/-! ### Usage -/

namespace Usage

def commandName : Text := "valexpr"

def short : Text :=
  "usage: valexpr [-h] [--expr TEXT] [-o OUTPUT] [--tokens] [--characters]\n" ++
  "               [--format \x7btree,json\x7d] [--config FILE] [--split-operators]\n" ++
  "               [--normalize] [--debug]\n" ++
  "               [input]\n"

def full : Text :=
  short ++
  "\n" ++
  "Tokenize and parse CSS-like value expressions\n" ++
  "\n" ++
  "positional arguments:\n" ++
  "  input                 Input file ('-' for stdin)\n" ++
  "\n" ++
  "options:\n" ++
  "  -h, --help            show this help message and exit\n" ++
  "  --expr TEXT           Expression to parse instead of a file\n" ++
  "  -o OUTPUT, --output OUTPUT\n" ++
  "                        Output file (default: stdout)\n" ++
  "  --tokens              Print the token stream and stop\n" ++
  "  --characters          Print the classified characters and stop\n" ++
  "  --format \x7btree,json\x7d  AST output format (default: tree)\n" ++
  "  --config FILE         Config file (default: auto-discover valexpr.toml)\n" ++
  "  --split-operators     Emit one token per operator character\n" ++
  "  --normalize           NFC-normalize the source first\n" ++
  "  --debug               Trace tokenizer stages to stderr\n"

def complaint (e : UsageError) : Text :=
  short ++ commandName ++ ": error: " ++ e.message ++ "\n"

end Usage

/-! ### Runs -/

def errorLine (message : Text) : Text := "error: " ++ message ++ "\n"

def deliver (output : Option Path) (text log : Text) (fs : FileSystem) : Outcome :=
  match output with
  | none => ⟨.exit 0, text, log, fs⟩
  | some path =>
    match fs.write path (Utf8.encode text) with
    | .ok fs => ⟨.exit 0, [], log, fs⟩
    | .error fault => ⟨.aborted (.file path fault), [], log, fs⟩

def Settings.fail (s : Settings) (source log : Text) (fs : FileSystem) (failure : Failure) : Outcome :=
  match failure with
  | .file path fault => ⟨.exit 2, [], log ++ errorLine (fault.text path), fs⟩
  | .program e => ⟨.exit 1, [], log ++ (e.report source).render s.input.name ++ "\n", fs⟩
  | .aborted reason => ⟨.aborted reason, [], log, fs⟩

def Settings.run (s : Settings) (standardInput : List UInt8) (fs : FileSystem) : Outcome :=
  match s.input.read standardInput fs with
  | .error failure => s.fail [] [] fs failure
  | .ok source =>
    let traced := s.process source
    match traced.result with
    | .error failure => s.fail (source.getD []) traced.trace fs failure
    | .ok text => deliver s.output text traced.trace fs

/-- Runs the command with its arguments, on what stands on standard input and in the files. Memory and the
stack of calls have no limit, so a source is never too large or nested too deep. -/
def runCommand (arguments : List Text) (standardInput : List UInt8) (fs : FileSystem) : Outcome :=
  match Arguments.read arguments with
  | .error .help => ⟨.refused 0, Usage.full, [], fs⟩
  | .error (.usage e) => ⟨.refused 2, [], Usage.complaint e, fs⟩
  | .ok a =>
    match Settings.ofArguments fs a with
    | .error (.aborted reason) => ⟨.aborted reason, [], [], fs⟩
    | .error e => ⟨.exit 2, [], errorLine e.message, fs⟩
    | .ok s => s.run standardInput fs

end StyleValue

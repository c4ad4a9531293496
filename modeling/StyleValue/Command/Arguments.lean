import StyleValue.Text

/-! The arguments of the command line. -/
namespace StyleValue

inductive OutputFormat where
  | tree
  | json
  deriving DecidableEq, Repr

namespace OutputFormat

def name : OutputFormat → Text
  | tree => "tree"
  | json => "json"

def all : List OutputFormat := [tree, json]

def ofText? (t : Text) : Option OutputFormat := all.find? (·.name = t)

end OutputFormat

inductive Opt where
  | help
  | expr
  | output
  | tokens
  | characters
  | format
  | config
  | splitOperators
  | normalize
  | debug
  deriving DecidableEq, Repr

namespace Opt

def all : List Opt :=
  [help, expr, output, tokens, characters, format, config, splitOperators, normalize, debug]

def shortName : Opt → Option Char
  | help => some 'h'
  | output => some 'o'
  | _ => none

def longName : Opt → Text
  | help => "--help"
  | expr => "--expr"
  | output => "--output"
  | tokens => "--tokens"
  | characters => "--characters"
  | format => "--format"
  | config => "--config"
  | splitOperators => "--split-operators"
  | normalize => "--normalize"
  | debug => "--debug"

def takesValue : Opt → Bool
  | expr | output | format | config => true
  | help | tokens | characters | splitOperators | normalize | debug => false

def label (o : Opt) : Text :=
  match o.shortName with
  | some c => ['-', c, '/'] ++ o.longName
  | none => o.longName

def ofShort? (c : Char) : Option Opt := all.find? (·.shortName = some c)

/-- The option with exactly this name, and whether the name is a long one. -/
def named? (t : Text) : Option (Opt × Bool) :=
  match t with
  | ['-', c] => (ofShort? c).map (·, false)
  | _ => (all.find? (·.longName = t)).map (·, true)

end Opt

/-- What an option is given. Two dashes that are joined to an option are no text, and an option that
takes no value has none. Both are blank. -/
inductive OptionValue where
  | text (t : Text)
  | blank
  deriving DecidableEq, Repr

namespace OptionValue

def ofJoined (t : Text) : OptionValue := if t = ['-', '-'] then blank else text t

def text? : OptionValue → Option Text
  | text t => some t
  | blank => none

end OptionValue

inductive Word where
  | plain (t : Text)
  /-- Two dashes. All words after it are plain. -/
  | separator
  | option (o : Opt) (long : Bool) (joined : Option Text)
  | unknown (t : Text)
  deriving DecidableEq, Repr

inductive UsageError where
  | ambiguous (given : Text) (candidates : List Opt)
  | valueMissing (o : Opt)
  | valueIgnored (o : Opt) (value : Text)
  | invalidChoice (o : Opt) (value : Text)
  | unrecognized (words : List Text)
  deriving DecidableEq, Repr

namespace UsageError

def message : UsageError → Text
  | ambiguous given candidates =>
    "ambiguous option: " ++ given ++ " could match " ++
      Text.joined ", " (candidates.map Opt.longName)
  | valueMissing o => "argument " ++ o.label ++ ": expected one argument"
  | valueIgnored o value =>
    "argument " ++ o.label ++ ": ignored explicit argument " ++ value.quoted
  | invalidChoice o value =>
    "argument " ++ o.label ++ ": invalid choice: " ++ value.quoted ++ " (choose from " ++
      Text.joined ", " (OutputFormat.all.map (·.name.quoted)) ++ ")"
  | unrecognized words => "unrecognized arguments: " ++ Text.joined " " words

end UsageError

namespace Word

/-- A minus sign, digits and at most one point before the last of them. A break may follow. -/
def looksNegative (t : Text) : Bool :=
  match t with
  | '-' :: rest =>
    let number := if rest.getLast? = some '\n' then rest.dropLast else rest
    match Text.cut '.' number with
    | (digits, none) => !digits.isEmpty && digits.all isDigit
    | (whole, some fraction) => whole.all isDigit && !fraction.isEmpty && fraction.all isDigit
  | _ => false

def withoutName (t : Text) : Word :=
  if looksNegative t || t.contains ' ' then plain t else unknown t

def ofLong (t : Text) : Except UsageError Word :=
  let (name, value) := Text.cut '=' t
  match Opt.all.filter fun o => name.isPrefixOf o.longName with
  | [] => .ok (withoutName t)
  | [o] => .ok (option o true value)
  | candidates => .error (.ambiguous t candidates)

def ofShort (t : Text) : Word :=
  match t with
  | '-' :: c :: value =>
    match Opt.ofShort? c with
    | some o => option o false (some value)
    | none => withoutName t
  | _ => withoutName t

def ofText (t : Text) : Except UsageError Word :=
  match t with
  | [] | ['-'] => .ok (plain t)
  | '-' :: second :: _ =>
    match Opt.named? t with
    | some (o, long) => .ok (option o long none)
    | none =>
      match Text.cut '=' t with
      | (name, some value) =>
        match Opt.named? name with
        | some (o, long) => .ok (option o long (some value))
        | none => if second = '-' then ofLong t else .ok (ofShort t)
      | (_, none) => if second = '-' then ofLong t else .ok (ofShort t)
  | _ => .ok (plain t)

/-- What all words are. Each is looked at before any option takes effect. -/
def ofTexts : List Text → Except UsageError (List Word)
  | [] => .ok []
  | t :: rest =>
    if t = ['-', '-'] then .ok (separator :: rest.map plain)
    else do
      let word ← ofText t
      return word :: (← ofTexts rest)

end Word

structure Arguments where
  input : Option Text
  expr : Option OptionValue
  output : Option Text
  tokens : Bool
  characters : Bool
  format : Option OutputFormat
  config : Option Text
  splitOperators : Bool
  normalize : Bool
  debug : Bool
  deriving DecidableEq, Repr

inductive Refusal where
  | help
  | usage (e : UsageError)
  deriving DecidableEq, Repr

namespace Arguments

def initial : Arguments := ⟨none, none, none, false, false, none, none, false, false, false⟩

/-- The effect of an option. A later value replaces an earlier one. A blank output or configuration
file is none, and a blank format shows as the tree does. -/
def apply (a : Arguments) (o : Opt) (value : OptionValue) : Except Refusal Arguments :=
  match o with
  | .help => .error .help
  | .expr => .ok { a with expr := some value }
  | .output => .ok { a with output := value.text? }
  | .tokens => .ok { a with tokens := true }
  | .characters => .ok { a with characters := true }
  | .format =>
    match value with
    | .blank => .ok { a with format := some .tree }
    | .text t =>
      match OutputFormat.ofText? t with
      | some format => .ok { a with format := some format }
      | none => .error (.usage (.invalidChoice o t))
  | .config => .ok { a with config := value.text? }
  | .splitOperators => .ok { a with splitOperators := true }
  | .normalize => .ok { a with normalize := true }
  | .debug => .ok { a with debug := true }

/-- The options that one word stands for: those that are complete, in order, and the one that needs
the next word as its value. -/
structure Cluster where
  complete : List (Opt × OptionValue)
  waiting : Option Opt
  deriving DecidableEq, Repr

namespace Cluster

def ofValue (o : Opt) (value : OptionValue) : Cluster := ⟨[(o, value)], none⟩

def ofWaiting (o : Opt) : Cluster := ⟨[], some o⟩

def before (o : Opt) (c : Cluster) : Cluster := { c with complete := (o, .blank) :: c.complete }

/-- An option without a value, and the letters of further options that are joined to it. An option
that takes a value takes all the letters after its own. -/
def ofLetters (o : Opt) : Text → Except UsageError Cluster
  | [] => .ok (ofValue o .blank)
  | c :: rest =>
    match Opt.ofShort? c with
    | none => .error (.valueIgnored o (c :: rest))
    | some next =>
      match next.takesValue, rest with
      | true, [] => .ok (before o (ofWaiting next))
      | true, value => .ok (before o (ofValue next (.ofJoined value)))
      | false, rest => (ofLetters next rest).map (before o)

def ofOption (o : Opt) (long : Bool) (joined : Option Text) : Except UsageError Cluster :=
  match joined with
  | none => .ok (if o.takesValue then ofWaiting o else ofValue o .blank)
  | some t =>
    if o.takesValue then .ok (ofValue o (.ofJoined t))
    else if long || t.isEmpty then .error (.valueIgnored o t)
    else ofLetters o t

end Cluster

/-- The state of reading: the effects so far, whether a place for an input was used up, and the words
that nothing takes. -/
structure Reading where
  arguments : Arguments
  inputSeen : Bool
  left : List Text
  deriving DecidableEq, Repr

namespace Reading

def leave (r : Reading) (words : List Text) : Reading := { r with left := r.left ++ words }

def takeInput (r : Reading) (t : Text) : Reading :=
  { r with arguments := { r.arguments with input := some t }, inputSeen := true }

def applyAll (r : Reading) (options : List (Opt × OptionValue)) : Except Refusal Reading := do
  return { r with arguments := ← options.foldlM (fun a (o, value) => a.apply o value) r.arguments }

/-- Takes words from the front. The first plain word is the input, together with a separator next to
it. -/
def words (r : Reading) : List Word → Except Refusal Reading
  | [] => .ok r
  | .unknown t :: rest => (r.leave [t]).words rest
  | .separator :: rest =>
    if r.inputSeen then (r.leave [['-', '-']]).words rest
    else match rest with
      | .plain t :: rest => (r.takeInput t).words rest
      | rest => r.words rest
  | .plain t :: rest =>
    if r.inputSeen then (r.leave [t]).words rest
    else match rest with
      | .separator :: rest => (r.takeInput t).words rest
      | rest => (r.takeInput t).words rest
  | .option o long joined :: rest =>
    match Cluster.ofOption o long joined with
    | .error e => .error (.usage e)
    | .ok c =>
      match c.waiting, rest with
      | none, rest => do (← r.applyAll c.complete).words rest
      | some o, .plain t :: rest => do (← r.applyAll (c.complete ++ [(o, .text t)])).words rest
      | some o, _ => .error (.usage (.valueMissing o))

end Reading

def read (texts : List Text) : Except Refusal Arguments := do
  match Word.ofTexts texts with
  | .error e => throw (.usage e)
  | .ok words =>
    let r ← Reading.words ⟨initial, false, []⟩ words
    if r.left.isEmpty then return r.arguments else throw (.usage (.unrecognized r.left))

end Arguments

end StyleValue

import StyleValue.Token.Lexer

/-! A tokenizer that can keep a log of what it reads and of what comes out. -/
namespace StyleValue

inductive Sink where
  | file
  | standardError
  deriving DecidableEq, Repr

/-- A log under a headline. Without a message, or with an empty one, the headline is a standard one. -/
structure Log where
  message : Option Text
  sink : Sink
  deriving DecidableEq, Repr

structure Tokenizer where
  options : LexOptions
  log : Option Log
  deriving DecidableEq, Repr

structure Traced (α : Type) where
  result : α
  trace : Text

def Log.headline (log : Log) : Text :=
  let title : Text := match log.message with
    | none | some [] => "tokenization"
    | some message => message
  "TOKENIZER: " ++ title ++ "\n"

namespace Tokenizer

def withLog (t : Tokenizer) (log : Log) : Tokenizer := { t with log := some log }

def withoutLog (t : Tokenizer) : Tokenizer := { t with log := none }

def entry (t : Tokenizer) (text : Log → Text) : Text :=
  match t.log with
  | none => []
  | some log => text log

/-- The size of the source as it was given, before any normalization, and its text. -/
def sourceEntry (t : Tokenizer) (source : Text) : Text :=
  t.entry fun log => log.headline ++ "SOURCE:\t" ++ Text.ofInt source.length ++ " characters " ++
    source.quoted ++ "\n"

def charactersEntry (t : Tokenizer) (cs : List Character) : Text :=
  t.entry fun log => log.headline ++ "SOURCE:\t" ++ Text.ofInt cs.length ++ " characters\n"

def tokenResultEntry (t : Tokenizer) (ts : List Token) : Text :=
  t.entry fun _ => "RESULT (" ++ Text.ofInt ts.length ++ " TOKENS):\n" ++ dumpTokens ts

def characterResultEntry (t : Tokenizer) (cs : List Character) : Text :=
  t.entry fun _ => "RESULT (" ++ Text.ofInt cs.length ++ " CHARACTERS):\n" ++ dumpCharacters cs

def tokenize (t : Tokenizer) (source : Text) : Traced (List Token) :=
  let tokens := StyleValue.tokenize t.options source
  ⟨tokens, t.sourceEntry source ++ t.tokenResultEntry tokens⟩

def characters (t : Tokenizer) (source : Text) : Traced (List Character) :=
  let cs := t.options.characters source
  ⟨cs, t.sourceEntry source ++ t.characterResultEntry cs⟩

def tokenizeCharacters (t : Tokenizer) (cs : List Character) : Traced (List Token) :=
  let tokens := StyleValue.tokenizeCharacters t.options cs
  ⟨tokens, t.charactersEntry cs ++ t.tokenResultEntry tokens⟩

/-- The tokens of what a reader still has to give. Only the result is logged. -/
def tokenizeReader (t : Tokenizer) (r : Reader) : Traced (List Token × Reader) :=
  let (tokens, r) := r.tokens t.options.mergeOperators
  ⟨(tokens, r), t.tokenResultEntry tokens⟩

end Tokenizer

end StyleValue

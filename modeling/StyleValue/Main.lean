import StyleValue.Command.Run

/-! The program: it hands the command what is there to read, and carries out what the command says. -/
namespace StyleValue.Main

def snapshot (fs : FileSystem) (path : Path) : IO FileSystem := do
  let start : Location := if path.root = [] then [] else Location.root
  let mut fs := fs
  let mut location := start
  for name in path.parts do
    location := location.step name
    match ← (IO.FS.readBinFile (String.ofList location.text)).toBaseIO with
    | .ok bytes => return fs.put location (.file bytes.toList)
    | .error (.noFileOrDirectory ..) => return fs
    | .error _ => fs := fs.put location .directory
  return fs

def bytes (l : List UInt8) : ByteArray := ⟨l.toArray⟩

/-- Reads ahead: the files that the arguments name, and standard input if it is asked for. -/
def readAhead (a : Arguments) : IO (List UInt8 × FileSystem) := do
  let fs ← (Settings.paths a).foldlM snapshot FileSystem.empty
  match Settings.inputOf a with
  | .ok .standardInput => return ((← (← IO.getStdin).readBinToEnd).toList, fs)
  | _ => return ([], fs)

def exitCode : Ending → UInt32
  | .exit code | .refused code => code.toUInt32
  | .aborted _ => 1

def finalWords : Ending → Text
  | .aborted reason => errorLine reason.message
  | _ => []

def run (words : List Text) : IO UInt32 := do
  let (standardInput, fs) ← match Arguments.read words with
    | .ok a => readAhead a
    | .error _ => pure ([], FileSystem.empty)
  let outcome := runCommand words standardInput fs
  for (location, content) in outcome.files.changedSince fs do
    IO.FS.writeBinFile (String.ofList location.text) (bytes content)
  (← IO.getStdout).write (bytes (Utf8.encode outcome.output))
  (← IO.getStderr).write (bytes (Utf8.encode (outcome.errors ++ finalWords outcome.ending)))
  return exitCode outcome.ending

end StyleValue.Main

def main (words : List String) : IO UInt32 := StyleValue.Main.run (words.map String.toList)

import DialectConversion.Cli.Run

/-! The program: a run in the surroundings of the process. -/
namespace DialectConversion
set_option autoImplicit false

/-- The words for a failed file operation, with the number that the system gives it. -/
def fileErrorText (e : IO.Error) : String :=
  match e with
  | .noFileOrDirectory _ _ _ => "No such file or directory (os error 2)"
  | .permissionDenied _ _ _ => "Permission denied (os error 13)"
  | .inappropriateType _ _ _ => "Is a directory (os error 21)"
  | .illegalOperation _ _ => "Is a directory (os error 21)"
  | other => toString other

/-- What a file operation yields, or why it failed. -/
def attemptFile {α : Type} (operation : IO α) : IO (Except String α) := do
  match ← operation.toBaseIO with
  | .ok a => pure (.ok a)
  | .error e => pure (.error (fileErrorText e))

/-- The text that bytes encode. -/
def decodeText (bytes : ByteArray) : Except String String :=
  match String.fromUTF8? bytes with
  | some text => .ok text
  | none => .error "stream did not contain valid UTF-8"

/-- The surroundings of the process. -/
def processSurroundings : IO (Cli.Surroundings IO) := do
  let stdin ← IO.getStdin
  let stdout ← IO.getStdout
  let stderr ← IO.getStderr
  let colored ← stderr.isTty
  pure {
    load := fun path => do
      pure ((← attemptFile (IO.FS.readBinFile path)).bind decodeText)
    input := do
      pure ((← attemptFile (IO.FS.Stream.readBinToEnd stdin)).bind decodeText)
    save := fun path content => attemptFile (IO.FS.writeFile path content)
    print := fun text => do
      stdout.putStr text
      stdout.flush
    printError := fun text => do
      stderr.putStr text
      stderr.flush
    colored := colored }

end DialectConversion

def main (words : List String) : IO UInt32 := do
  let world ← DialectConversion.processSurroundings
  let code ← DialectConversion.Cli.run world words
  pure code.number.toUInt32

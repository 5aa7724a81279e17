import PagePress.Archive.Encoding
import PagePress.Command.Run

/-!
# The program

The command line on the files of the computer it runs on.
-/
namespace PagePress

/-- What a failed operation of the system means. -/
def FileError.ofSystem (e : IO.Error) : FileError :=
  match e with
  | .noFileOrDirectory .. => .notFound
  | .alreadyExists .. => .alreadyExists
  | .resourceBusy .. => .busy
  | .inappropriateType _ 21 _ => .isDirectory
  | .inappropriateType .. => .notDirectory
  | .invalidArgument _ 36 _ => .nameTooLong
  | e => .other (toString e)

/-- An operation of the system with its failure as a value. -/
def attemptIO {α : Type} (operation : IO α) : IO (Except FileError α) := do
  try
    return .ok (← operation)
  catch e => return .error (.ofSystem e)

/-- The bytes that are written for a content. -/
def Content.encode : Content → ByteArray
  | bytes data => data
  | archive a => a.encode

instance : Disk IO where
  isPresent path := do
    let place := (← IO.currentDir) / path
    place.pathExists
  readText path := do
    match ← attemptIO (IO.FS.readBinFile path) with
    | .error e => return .error e
    | .ok data =>
      match String.fromUTF8? data with
      | some text => return .ok text
      | none => return .error .notText
  createDirectories path := attemptIO (IO.FS.createDirAll path)
  write path content := attemptIO (IO.FS.writeBinFile path content.encode)
  rename source target := attemptIO (IO.FS.rename source target)
  remove path := attemptIO (IO.FS.removeFile path)

end PagePress

def main (words : List String) : IO UInt32 := do
  let report : PagePress.Command.Report ← PagePress.Command.run words
  (← IO.getStdout).putStr report.out
  (← IO.getStderr).putStr report.err
  return report.code.toUInt32

import Busbind.CommandLine.Run

/-! The program: it looks at the file that its arguments name, runs, and does what the run asks. -/
namespace Busbind.Main

def fileError : IO.Error → FileError
  | .noFileOrDirectory .. => .missing
  | .inappropriateType _ code _ => if code = 20 then .notDirectory else .isDirectory
  | .permissionDenied .. => .other "Permission denied (os error 13)"
  | e => .other (toString e)

/-- Surroundings in which only one path has been looked at. A folder has a size but no text. -/
def seen (bytes : Except FileError ByteArray) : Surroundings where
  size := fun _ =>
    match bytes with
    | .ok bytes => .ok bytes.size
    | .error .isDirectory => .ok 0
    | .error e => .error e
  text := fun _ => bytes >>= fun bytes => (Entry.ofBytes bytes).content

def look (path : String) : IO Surroundings := do
  try
    let bytes ← IO.FS.readBinFile ⟨path⟩
    return seen (.ok bytes)
  catch e => return seen (.error (fileError e))

def save (path text : String) : IO (Except FileError Unit) := do
  try
    IO.FS.writeFile ⟨path⟩ text
    return .ok ()
  catch e => return .error (fileError e)

def say (r : Result) : IO UInt32 := do
  IO.print r.out
  IO.eprint r.err
  return UInt32.ofNat r.status

def inputPath? (arguments : List String) : Option String :=
  match Reply.ofArguments arguments with
  | .run a => a.input
  | _ => none

end Busbind.Main

def main (arguments : List String) : IO UInt32 := do
  let surroundings ←
    match Busbind.Main.inputPath? arguments with
    | some path => Busbind.Main.look path
    | none => pure (Busbind.Main.seen (.error .missing))
  match Busbind.Run.ofArguments surroundings arguments with
  | .finished r => Busbind.Main.say r
  | .write path text err =>
    let outcome ← Busbind.Main.save path text
    Busbind.Main.say (Busbind.Step.written path err outcome)

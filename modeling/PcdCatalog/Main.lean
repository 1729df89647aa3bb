import PcdCatalog.Data.Json
import PcdCatalog.Program
import PcdCatalog.Server.Protocol
import PcdCatalog.Text.Date

/-!
# The executable

Reads what is below the working directory into a `Disk`, runs the program on
it, prints what it prints and writes what it changed. Serving answers one line
after the other; watching compares the disk with what it was when the input
ends.
-/

namespace PcdCatalog.Main

/-- The names on the way to an absolute path. -/
def placeOf (path : String) : Location := (path.splitOn "/").filter fun n => !n.isEmpty

/-- Do something that may fail, or nothing. -/
def attempt {α : Type} (otherwise : α) (act : IO α) : IO α := do
  try act catch _ => pure otherwise

/-- Add an entry of a directory and what is below it. -/
partial def scan (d : Disk) (e : IO.FS.DirEntry) : IO Disk := do
  let l := placeOf e.path.toString
  match (← e.path.symlinkMetadata).type with
  | .dir =>
    let mut d := d.put l .directory
    for below in ← attempt #[] e.path.readDir do
      d ← attempt d (scan d below)
    return d
  | .symlink => return d.put l (.link (← attempt e.path (IO.FS.realPath e.path)).toString)
  | .file => return d.put l (.file (← attempt .empty (IO.FS.readBinFile e.path)))
  | .other => return d

/-- Add a file at a path, if there is one. -/
def addFile (d : Disk) (path : String) : IO Disk :=
  attempt d do
    let place := (← IO.FS.realPath path).toString
    return (d.place [] ⟨place⟩ (.file (← IO.FS.readBinFile path))).toOption.getD d

/-- Add what directories above the working directory say about ignored files. -/
def addRules (d : Disk) (dir : Location) : IO Disk := do
  let base := if dir.isEmpty then "" else dir.path.text
  let mut d := d
  if (← attempt none (some <$> IO.FS.realPath (base ++ "/.git"))).isSome then
    d := d.put (dir ++ [".git"]) .directory
  for name in [".ignore", ".gitignore", ".git/info/exclude"] do
    d ← addFile d (base ++ "/" ++ name)
  return d

/-- The working directory and all that matters of the disk. Files named by
arguments count too. -/
def snapshot (args : List String) : IO (Disk × Location) := do
  let here ← IO.FS.realPath (← IO.currentDir)
  let cwd := placeOf here.toString
  let mut d := (Disk.empty.makeDirectories [] cwd.path).toOption.getD .empty
  for dir in Walk.above cwd do
    d ← addRules d dir
  for arg in args do
    d ← addFile d arg
  for e in ← here.readDir do
    d ← attempt d (scan d e)
  return (d, cwd)

/-- Write what the program changed. -/
def store (before after : Disk) : IO Unit :=
  for action in Action.between before after do
    match action with
    | .put path (.file content) => IO.FS.writeBinFile path.text content
    | .put path .directory => IO.FS.createDirAll path.text
    | _ => pure ()

/-- The seconds since the beginning of 1970, from the time of a new file. -/
def now : IO Nat := do
  let (_, path) ← IO.FS.createTempFile
  let seconds := (← path.metadata).modified.sec
  IO.FS.removeFile path
  return seconds.toNat

/-- Milliseconds as seconds with two places. -/
def seconds (ms : Nat) : String :=
  toString (ms / 1000) ++ "." ++ Text.zeroPadded 2 (ms % 1000 / 10)

/-- Read the input to its end. -/
partial def waitForEnd (input : IO.FS.Stream) : IO Unit := do
  if (← input.getLine).isEmpty then return else waitForEnd input

/-- Answer the messages of a client, beginning with a line that was read
already. -/
partial def converse (s : Server) (input output : IO.FS.Stream) (line : String) : IO Unit := do
  if line.isEmpty then return
  match (Json.parse? line).bind s.respond with
  | some answer =>
    output.putStrLn (Json.render answer)
    output.flush
  | none => pure ()
  converse s input output (← input.getLine)

/-- Run the program. -/
def runProgram (args : List String) : IO UInt32 := do
  let input ← IO.getStdin
  let command := (Command.parse args).toOption
  let isServing := match command with
    | some (.serve _) => true
    | _ => false
  let isWatching := match command with
    | some (.watch _) => true
    | _ => false
  let line ← if isServing then input.getLine else pure ""
  let started ← IO.monoMsNow
  let (disk, cwd) ← snapshot args
  let elapsed := seconds ((← IO.monoMsNow) - started)
  let actions ←
    if isWatching then do
      waitForEnd input
      pure (Action.between disk (← snapshot args).1)
    else pure []
  let environment : Program.Environment :=
    { directives := ← IO.getEnv "PCDINDEX_LOG", date := Text.dateParts (← attempt 0 now) }
  let result := Program.run environment args { disk, cwd, elapsed, actions, client := !line.isEmpty }
  IO.print result.out
  IO.eprint (Text.unlines result.log ++ result.err)
  if !isWatching then store disk result.disk
  match result.server with
  | some server => converse server input (← IO.getStdout) line
  | none => pure ()
  return result.exit.toUInt32

end PcdCatalog.Main

def main (args : List String) : IO UInt32 := PcdCatalog.Main.runProgram args

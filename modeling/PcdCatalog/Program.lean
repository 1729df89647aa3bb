import PcdCatalog.Run

/-!
# The whole program

`Program.run` is everything from the arguments to the exit code: it reads the
arguments, opens the logs that the configuration asks for, runs the command,
and hands its notes to the logs. A configuration that cannot be loaded counts
as the ordinary one here, so that the command itself can report it.
-/

namespace PcdCatalog

namespace Program

/-- What the environment adds to the arguments. -/
structure Environment where
  /-- Directives for the log on the error channel. -/
  directives : Option String := none
  /-- The date and time: year, month, day, hour and minute. -/
  date : List String

/-- **What the program leaves behind.** -/
structure Result where
  exit : Nat
  out : String := ""
  /-- The lines of the log. -/
  log : List String := []
  /-- Everything else on the error channel. -/
  err : String := ""
  disk : Disk
  server : Option Server := none

/-- The arguments are no command. Help and the version are not mistakes. -/
def refused (f : UsageFault) (d : Disk) : Result :=
  match f with
  | .versionAsked command => { exit := 0, out := versionText command, disk := d }
  | .helpAsked => { exit := 0, disk := d }
  | _ => { exit := 2, disk := d }

/-- The last words about a failure. -/
def errorLine (f : Failure) : String := "Error: " ++ f.message ++ "\n"

/-- Add a text to the end of a file, which is made if need be. -/
def append (d : Disk) (cwd : Location) (file : Path) (text : String) : Disk :=
  let before := match d.resolve cwd file with
    | .ok l => (d.bytesAt l).toOption.getD ByteArray.empty
    | .error _ => ByteArray.empty
  ((d.place cwd file (.file (before ++ text.toUTF8))).toOption).getD d

/-- Make the directory of the log file, and the file. -/
def prepare (c : LoggingConfig) (logging : Logging) (s : Surroundings) : Except Failure Disk :=
  match logging.file with
  | none => .ok s.disk
  | some (file, _) =>
    let directory := c.logDirectory s.root
    match s.disk.makeDirectories s.cwd directory with
    | .error _ => .error (.noLogDirectory directory)
    | .ok d => .ok (append d s.cwd file "")

/-- What is noted before a command runs. -/
def openingNotes (root : Path) : List Note :=
  [⟨.info, "pcdindex", "pcdindex starting up"⟩,
    ⟨.debug, "pcdindex", "Loaded configuration from: " ++ root.text⟩]

/-- Run a command with its logs. -/
def runCommand (e : Environment) (c : Command) (s : Surroundings) : Result :=
  let config := (Config.load s.disk s.cwd s.root).toOption.getD {}
  let logging := config.logging.logging s.root e.directives e.date
  match prepare config.logging logging s with
  | .error f => { exit := 1, err := errorLine f, disk := s.disk }
  | .ok d =>
    let outcome := c.run { s with disk := d }
    let notes := openingNotes s.root ++ outcome.notes
    { exit := if outcome.failure.isSome then 1 else 0
      out := outcome.out
      log := logging.channelLines notes
      err := Text.unlines logging.warnings ++ outcome.err ++ (outcome.failure.elim "" errorLine)
      disk := match logging.file with
        | none => outcome.disk
        | some (file, filter) => append outcome.disk s.cwd file (Logging.fileText filter notes)
      server := outcome.server }

/-- **Run the program.** -/
def run (e : Environment) (args : List String) (s : Surroundings) : Result :=
  match Command.parse args with
  | .error f => refused f s.disk
  | .ok c => runCommand e c s

end Program

end PcdCatalog

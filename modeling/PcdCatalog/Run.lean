import PcdCatalog.CommandLine
import PcdCatalog.Config.Storage
import PcdCatalog.Narration
import PcdCatalog.Server
import PcdCatalog.Watch

/-!
# Running commands

`Command.run` does what a command asks for. It works on the `Surroundings` of
the program, of which the working directory is the root of the workspace, and
returns what it prints, what it notes and what it leaves on the disk. Serving
does not answer anything by itself: its outcome is a `Server`, and whoever runs
the command asks it.
-/

namespace PcdCatalog

/-- **What a command finds around it.** -/
structure Surroundings where
  disk : Disk
  /-- The working directory. -/
  cwd : Location
  /-- How many seconds building the index takes, with two places. -/
  elapsed : String
  /-- What a user does while the workspace is watched. -/
  actions : List Action := []
  /-- Whether a client begins a session with the server. -/
  client : Bool := false
  /-- The orders in which merges go through what documents declare. -/
  rankings : Nat → Ranking := fun _ => .ascending
  /-- What the user has ignored in all repositories. -/
  user : Walk.UserRules := fun _ _ => none

/-- Why a command failed. -/
inductive Failure where
  | storage (fault : StorageFault)
  | pattern (fault : PatternFault)
  | initialized (directory : Path)
  | nothingAsked
  | notConsumer (file : String)
  | unreadable (file : String)
  | noClient
  | noLogDirectory (directory : Path)
deriving DecidableEq, Inhabited

/-- The failure in words. -/
def Failure.message : Failure → String
  | storage fault => fault.message
  | pattern fault => fault.message
  | initialized directory => "pcdindex is already initialized in " ++ Text.quoted directory.text
  | nothingAsked => "Either a symbol or --file is required"
  | notConsumer file => file ++ " is not a C, DSC or FDF file"
  | unreadable file => "Failed to read " ++ Text.quoted file
  | noClient => "connection closed: initialized request"
  | noLogDirectory directory => "Failed to create log directory: " ++ directory.text

/-- **What a command did.** -/
structure Outcome where
  disk : Disk
  out : String := ""
  err : String := ""
  notes : List Note := []
  failure : Option Failure := none
  /-- The server that waits to be asked. -/
  server : Option Server := none

/-- A workspace whose index has just been built. -/
structure Opened where
  root : Path
  config : Config
  selection : Selection
  workspace : Workspace
  notes : List Note

namespace Surroundings

/-- The root of the workspace. -/
def root (s : Surroundings) : Path := s.cwd.path

/-- **Load the configuration and build the index.** -/
def openWorkspace (s : Surroundings) : Except Failure Opened := do
  let config ← (Config.load s.disk s.cwd s.root).mapError .storage
  let settings ← config.index.settings.mapError .pattern
  let selection : Selection := ⟨s.root, config.index.extensions, config.index.ignorePatterns⟩
  let source := selection.source s.disk s.cwd s.user
  let workspace := settings.workspace s.rankings
  return {
    root := s.root
    config := config
    selection := selection
    workspace := (workspace.build source).1
    notes := Narration.build workspace source s.root }

/-- A command that failed before it did anything. -/
def failed (s : Surroundings) (f : Failure) : Outcome := { disk := s.disk, failure := some f }

/-- Do something with the workspace, which has to open. -/
def withWorkspace (s : Surroundings) (k : Opened → Outcome) : Outcome :=
  match s.openWorkspace with
  | .error f => s.failed f
  | .ok o =>
    let outcome := k o
    { outcome with notes := o.notes ++ outcome.notes }

end Surroundings

/-! ## What is printed -/

/-- Lines, each with its end. -/
def Text.unlines (l : List String) : String := String.join (l.map (· ++ "\n"))

/-- A text with blanks up to a width. -/
def Text.padded (width : Nat) (s : String) : String :=
  s ++ String.ofList (List.replicate (width - s.length) ' ')

namespace Opened

/-- The path of a document below the root. -/
def shown (o : Opened) (doc : Path) : String := ((doc.stripped? o.root).getD doc).text

/-- The line of an entry in a list. -/
def entryLine (o : Opened) (e : Entry) : String :=
  Text.padded 48 e.symbol ++ " " ++ o.shown e.span.document ++ ":" ++ e.span.start.display

/-- The line of a definition. -/
def definitionLine (o : Opened) : Option Span → String
  | none => "Definition not found."
  | some s => o.shown s.document ++ ":" ++ s.start.display ++ "-" ++ s.stop.display

/-- The lines about symbols that are declared in several documents. -/
def handoverLines (o : Opened) : List String :=
  match o.workspace.index.handovers with
  | [] => []
  | hs => ["", toString hs.length ++ " PCDs are declared in more than one file:"]
      ++ hs.map fun h =>
        "  " ++ h.symbol ++ ": " ++ h.previous.display ++ " replaced by " ++ h.replacement.display

/-- How much is indexed. -/
def countText (o : Opened) : String :=
  "Indexed " ++ toString o.workspace.index.size ++ " PCDs from "
    ++ toString o.workspace.index.documents.length ++ " declaration files"

/-- The lines of the index command. -/
def indexLines (o : Opened) (elapsed : String) (list : Bool) : List String :=
  ["Workspace root: " ++ o.root.text, o.countText ++ " in " ++ elapsed ++ "s"]
    ++ o.handoverLines
    ++ (if list then "" :: o.workspace.index.entries.map o.entryLine else [])

/-- The lines when watching begins. -/
def watchLines (o : Opened) (debounce : Nat) : List String :=
  ["Starting watch mode...",
    "Watching directory: " ++ Text.quoted o.root.text,
    "Debounce delay: " ++ toString debounce ++ "ms",
    "Extensions: [" ++ String.intercalate ", " (o.config.index.extensions.map Text.quoted) ++ "]",
    o.countText, "", "Press Ctrl+C to stop.", ""]

end Opened

/-- The lines when watching ends. -/
def ChangeCounts.lines (c : ChangeCounts) : List String :=
  if !c.hasChanges then ["Watch session complete, no declaration files changed."]
  else
    let rule := "----------------------------------------"
    ["Watch session complete!", rule,
      "  Files added:     " ++ toString c.filesAdded,
      "  Files modified:  " ++ toString c.filesModified,
      "  Files deleted:   " ++ toString c.filesDeleted,
      "  Symbols added:   " ++ toString c.symbolsAdded,
      "  Symbols updated: " ++ toString c.symbolsUpdated,
      "  Symbols removed: " ++ toString c.symbolsRemoved]
      ++ (if c.errors > 0 then ["  Errors:          " ++ toString c.errors] else [])
      ++ [rule]

/-! ## The commands -/

namespace Command

/-- Set a workspace up with the ordinary configuration. -/
def runInit (s : Surroundings) : Outcome :=
  let directory := Config.directory s.root
  if Config.isInitialized s.disk s.cwd s.root then s.failed (.initialized directory)
  else match ({} : Config).save s.disk s.cwd s.root with
    | (d, .error f) => { disk := d, failure := some (.storage f) }
    | (d, .ok _) =>
      { disk := d
        out := Text.unlines ["✓ Created " ++ directory.text ++ " with default configuration",
          "", "Next steps:",
          "  1. Edit .pcdindex/config.toml to customize settings",
          "  2. Run 'pcdindex index' to check the declaration files",
          "  3. Run 'pcdindex serve' to start the MCP server"]
        notes := [⟨.info, "pcdindex::commands::init",
          "Initialized pcdindex in " ++ Text.quoted directory.text⟩] }

/-- Tell what the index holds. -/
def runIndex (s : Surroundings) (list : Bool) : Outcome :=
  s.withWorkspace fun o => { disk := s.disk, out := Text.unlines (o.indexLines s.elapsed list) }

/-- Find the definition of what is under a cursor. -/
def runCursor (s : Surroundings) (o : Opened) (file : String) (p : Position) : Outcome :=
  match ConsumerKind.ofPath? ⟨file⟩ with
  | none => s.failed (.notConsumer file)
  | some kind =>
    let notes := [⟨.debug, "pcdindex::commands::definition",
      "Reading " ++ kind.name ++ " consumer " ++ Text.quoted file⟩]
    match s.disk.readText s.cwd ⟨file⟩ with
    | .error _ => { s.failed (.unreadable file) with notes := notes }
    | .ok text =>
      { disk := s.disk
        out := Text.unlines [o.definitionLine (o.workspace.definitionAt text p)]
        notes := notes }

/-- Find a definition. A cursor counts before a name. -/
def runDefinition (s : Surroundings) (symbol file : Option String) (p : Position) : Outcome :=
  s.withWorkspace fun o =>
    match file, symbol with
    | some file, _ => runCursor s o file p
    | none, some symbol =>
      { disk := s.disk, out := Text.unlines [o.definitionLine (o.workspace.definition symbol)] }
    | none, none => s.failed .nothingAsked

/-- List what completes a name. -/
def runComplete (s : Surroundings) (start : String) (mode : Option CompletionMode) : Outcome :=
  s.withWorkspace fun o =>
    match o.workspace.completions start mode with
    | [] =>
      { disk := s.disk
        err := Text.unlines ["No PCDs match '" ++ start ++ "' ("
          ++ (mode.getD o.workspace.mode).name ++ " mode)."] }
    | names => { disk := s.disk, out := Text.unlines names }

/-- Watch the workspace while the user does something. -/
def runWatch (s : Surroundings) (debounce : Option Nat) : Outcome :=
  s.withWorkspace fun o =>
    let (_, counts, d) := o.workspace.watched o.selection s.disk s.cwd s.cwd s.actions s.user
    { disk := d
      out := Text.unlines (o.watchLines (debounce.getD o.config.watcher.debounce)
        ++ ["", "Shutting down...", ""] ++ counts.lines)
      notes := [⟨.info, "pcdindex::commands::watch", "Watch session ended"⟩] }

/-- What is told about watching while serving. -/
def watchNotes (o : Opened) : List Note :=
  [⟨.info, "pcdindex::watcher", "Watching " ++ Text.quoted o.root.text ++ " for declaration changes"⟩,
    ⟨.debug, "pcdindex::watcher",
      "Debounce delay: " ++ toString o.config.watcher.debounce ++ "ms"⟩,
    ⟨.info, "pcdindex::watcher", "Shutdown signal received, stopping watcher"⟩,
    ⟨.info, "pcdindex::commands::serve", "Watcher stopped, no declaration files changed"⟩]

/-- Serve a client, if there is one. -/
def runServe (s : Surroundings) (static : Bool) : Outcome :=
  s.withWorkspace fun o =>
    let topic := "pcdindex::commands::serve"
    { disk := s.disk
      notes := [⟨.info, topic,
          "Symbol index ready with " ++ toString o.workspace.index.size ++ " PCDs"⟩,
        ⟨.info, topic, "Starting MCP server with stdio transport"⟩]
        ++ (if static then [] else watchNotes o)
      failure := if s.client then none else some .noClient
      server := if s.client then some ⟨o.workspace, s.disk, s.cwd, o.root⟩ else none }

/-- **Run a command.** -/
def run (c : Command) (s : Surroundings) : Outcome :=
  match c with
  | init => runInit s
  | index list => runIndex s list
  | definition symbol file line character =>
    runDefinition s symbol file ⟨(line.getD 0).toUInt32, character.toUInt32⟩
  | complete start mode => runComplete s start mode
  | watch debounce => runWatch s debounce
  | serve static => runServe s static

end Command

end PcdCatalog

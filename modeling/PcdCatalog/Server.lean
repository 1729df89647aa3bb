import PcdCatalog.Config
import PcdCatalog.Disk
import PcdCatalog.Selection
import PcdCatalog.Wildcard

/-!
# Serving lookups

Other programs ask a `Server` by calling one of its tools with a record of
arguments. `Server.call` answers with a text, or with a `ToolFault` that says
what is wrong with the call.

A definition can be asked for by name, or by a cursor in a file that uses
PCDs. Such a file has to lie below the root of the workspace once all links
are followed, so that no call reads anything else.
-/

namespace PcdCatalog

/-- **What a server knows**: an index, and the disk on which it reads files. -/
structure Server where
  workspace : Workspace
  disk : Disk
  cwd : Location
  root : Path

/-- The tools of a server. -/
inductive Tool where
  | completeSymbol
  | findDefinition
  | listSymbols
deriving DecidableEq, Inhabited

namespace Tool

/-- The tools in the order of their names. -/
def all : List Tool := [completeSymbol, findDefinition, listSymbols]

/-- The name by which a tool is called. -/
def name : Tool → String
  | completeSymbol => "complete_symbol"
  | findDefinition => "find_definition"
  | listSymbols => "list_symbols"

/-- What a tool says about itself. -/
def description : Tool → String
  | completeSymbol => "List declared PCD names matching a partially typed name."
  | findDefinition => "Find where a PCD is declared. Pass 'symbol', or 'file' with 'line' and "
      ++ "'character' to resolve the identifier under a cursor in a C, DSC or FDF file."
  | listSymbols => "List every indexed PCD with its declaration location, optionally limited to "
      ++ "declaration files matching a glob."

/-- The tool of a name. -/
def ofName? (name : String) : Option Tool := all.find? fun t => t.name == name

end Tool

/-- What is wrong with a call. -/
inductive ToolFault where
  | unknownTool
  /-- The arguments are not those of the tool. -/
  | badArguments
  | nothingAsked
  | badMode (message : String)
  | badPattern (fault : Wildcard.Fault)
  | notConsumer (file : String)
  | badPath (file : String) (fault : DiskFault)
  | noRoot (fault : DiskFault)
  | outside (file : String)
  | unreadable (file : String) (fault : DiskFault)
deriving DecidableEq, Inhabited

namespace ToolFault

/-- The number of a fault: only a missing root is not the caller's. -/
def code : ToolFault → Int
  | noRoot _ => -32603
  | _ => -32602

/-- The fault in words, unless the call itself makes no sense. -/
def message? : ToolFault → Option String
  | unknownTool => none
  | badArguments => none
  | nothingAsked => some "Either 'symbol' or 'file' is required"
  | badMode message => some message
  | badPattern fault => some ("Invalid pattern: " ++ fault.message)
  | notConsumer file => some ("'" ++ file ++ "' is not a C, DSC or FDF file")
  | badPath file fault => some ("Invalid path '" ++ file ++ "': " ++ fault.message)
  | noRoot fault => some ("Failed to resolve root path: " ++ fault.message)
  | outside file => some ("Path '" ++ file ++ "' is outside the workspace root")
  | unreadable file fault => some ("Failed to read file '" ++ file ++ "': " ++ fault.message)

end ToolFault

/-! ## Arguments -/

/-- The value of an argument that may be null or left out. -/
def Data.optional? {α : Type} (f : Data → Option α) (d : Data) (name : String) :
    Option (Option α) :=
  orElse? none (orNull? f) (d.get? name)

/-- The value of an argument that has to be there. -/
def Data.required? {α : Type} (f : Data → Option α) (d : Data) (name : String) : Option α :=
  (d.get? name).bind f

/-- A line or a character. -/
def Data.coordinate? (d : Data) : Option UInt32 :=
  (Data.natBelow? UInt32.size d).map Nat.toUInt32

/-- What is asked of the first tool: a name, or a cursor in a file. -/
structure DefinitionQuery where
  symbol : Option String
  file : Option String
  line : Option UInt32
  character : Option UInt32

/-- Decode the arguments of a definition. -/
def DefinitionQuery.ofData? (d : Data) : Option DefinitionQuery := do
  return {
    symbol := ← d.optional? Data.text? "symbol"
    file := ← d.optional? Data.text? "file"
    line := ← d.optional? Data.coordinate? "line"
    character := ← d.optional? Data.coordinate? "character" }

/-- What is asked of a completion. -/
structure CompletionQuery where
  start : String
  mode : Option String

/-- Decode the arguments of a completion. -/
def CompletionQuery.ofData? (d : Data) : Option CompletionQuery := do
  return {
    start := ← d.required? Data.text? "partial"
    mode := ← d.optional? Data.text? "mode" }

/-! ## Answers -/

/-- A span is told by its document, where it begins and where it ends. -/
def Span.range (s : Span) : String := s.display ++ "-" ++ s.stop.display

namespace Server

/-- What is told about the server when a session begins. -/
def protocolVersion : String := "2024-11-05"

/-- The name of the server. -/
def name : String := "pcdindex"

/-- The title of the server. -/
def title : String := "PCD Declaration Index"

/-- The version of the server. -/
def version : String := "0.1.0"

/-- How to use the server. -/
def instructions : String :=
  "Resolves UEFI PCD names to their declarations in .dec files.\n\n"
    ++ "Available tools:\n"
    ++ "- find_definition: where a PCD is declared\n"
    ++ "- complete_symbol: declared PCD names matching a partial name\n"
    ++ "- list_symbols: every indexed PCD, optionally filtered by file glob"

/-- **The text of a file that uses PCDs.** -/
def consumer (s : Server) (file : String) : Except ToolFault String := do
  let path := s.root.join ⟨file⟩
  if (ConsumerKind.ofPath? path).isNone then throw (.notConsumer file)
  let place ← (s.disk.resolve s.cwd path).mapError (.badPath file)
  let root ← (s.disk.resolve s.cwd s.root).mapError .noRoot
  if !Location.isBelow place root then throw (.outside file)
  (s.disk.textAt place).mapError (.unreadable file)

/-- Find a definition. A name counts before a cursor. -/
def findDefinition (s : Server) (q : DefinitionQuery) : Except ToolFault String := do
  let span ← match q.symbol, q.file with
    | some symbol, _ => pure (s.workspace.definition symbol)
    | none, some file => do
      let text ← s.consumer file
      pure (s.workspace.definitionAt text ⟨q.line.getD 0, q.character.getD 0⟩)
    | none, none => throw .nothingAsked
  return match span with
    | some span => span.range
    | none => "Definition not found."

/-- List what completes a name. -/
def completeSymbol (s : Server) (q : CompletionQuery) : Except ToolFault String := do
  let mode ← match q.mode with
    | none => pure none
    | some m => ((CompletionMode.parse m).mapError .badMode).map some
  return match s.workspace.completions q.start mode with
    | [] => "No PCDs match '" ++ q.start ++ "'."
    | names => String.intercalate "\n" names

/-- List what is declared in the documents that a pattern selects. -/
def listSymbols (s : Server) (pattern : Option String) : Except ToolFault String := do
  let selects : String → Bool ← match pattern with
    | none => pure fun _ => true
    | some p => ((Wildcard.parse p).mapError .badPattern).map Wildcard.selects
  return match s.workspace.index.entries.filter fun e => selects e.span.document.text with
    | [] => "No PCDs indexed."
    | entries => toString entries.length ++ " PCDs:\n"
        ++ String.join (entries.map fun e => e.symbol ++ "  " ++ e.span.display ++ "\n")

/-- Arguments have to be a record; null is one without fields. -/
def arguments? : Data → Option Data
  | .null => some (.record [])
  | .record fields => some (.record fields)
  | _ => none

/-- Decode the arguments of a tool. -/
def decoded {α : Type} (q : Option α) : Except ToolFault α := q.elim (.error .badArguments) .ok

/-- **Call a tool.** -/
def call (s : Server) (name : String) (arguments : Data) : Except ToolFault String := do
  match Tool.ofName? name with
  | none => throw .unknownTool
  | some tool =>
    let d ← decoded (arguments? arguments)
    match tool with
    | .findDefinition => decoded (DefinitionQuery.ofData? d) >>= s.findDefinition
    | .completeSymbol => decoded (CompletionQuery.ofData? d) >>= s.completeSymbol
    | .listSymbols => decoded (d.optional? Data.text? "pattern") >>= s.listSymbols

end Server

end PcdCatalog

import PcdCatalog.Data
import PcdCatalog.Workspace

/-!
# Configuration

What a user can set, with the values that hold when nothing is set. A
configuration is decoded from structured data (`Config.ofData?`): a field
that is left out keeps its ordinary value, a field that is not known is
passed over, and a field of the wrong type refuses the whole configuration.

The two formats in which a configuration is written differ in small points of
decoding, which `Dialect` names.
-/

namespace PcdCatalog

/-- What two data formats decode differently. -/
structure Dialect where
  /-- A section written as a list gives no more than its fields. -/
  exactLists : Bool
  /-- What stands beside a mode that is written as the only field of a
  record. -/
  isBare : Data → Bool

namespace Dialect

/-- The dialect of JSON: only null can stand beside a mode. -/
def json : Dialect where
  exactLists := true
  isBare
    | .null => true
    | _ => false

/-- The dialect of TOML: an empty list or table can stand beside a mode. -/
def toml : Dialect where
  exactLists := false
  isBare
    | .list [] => true
    | .record [] => true
    | _ => false

end Dialect

/-- What the index is to do. -/
structure IndexConfig where
  extensions : List String := ["dec"]
  ignorePatterns : List String := [".git", "Build", "node_modules", "target"]
  completionMode : CompletionMode := .leading
  /-- How many documents a build reads at once. -/
  maxConcurrentReads : Nat := 16
  /-- How many handovers are remembered. -/
  collisionLogLimit : Nat := Index.ordinaryLimit
  /-- A pattern instead of the ordinary one. -/
  declarationPattern : Option String := none
deriving DecidableEq, Inhabited

/-- What watching is to do. -/
structure WatchConfig where
  /-- For how many milliseconds events are gathered. -/
  debounce : Nat := 500
deriving DecidableEq, Inhabited

/-- Where the log goes and what it tells. -/
structure LoggingConfig where
  /-- Whether a log file is written. -/
  enabled : Bool := false
  stderr : Bool := true
  level : String := "info"
  directory : String := ".pcdindex/logs"
  filePrefix : String := "pcdindex.log"
  rotation : String := "daily"
deriving DecidableEq, Inhabited

/-- **A configuration.** -/
structure Config where
  index : IndexConfig := {}
  watcher : WatchConfig := {}
  logging : LoggingConfig := {}
deriving DecidableEq, Inhabited

/-! ## Decoding -/

/-- One past the largest number of a field. -/
def numberBound : Nat := UInt64.size

/-- A completion mode, by its exact name. -/
def CompletionMode.ofData? (dialect : Dialect) : Data → Option CompletionMode
  | .text s => ofName? s
  | .record [(name, d)] => if dialect.isBare d then ofName? name else none
  | _ => none

/-- The settings of the index. -/
def IndexConfig.ofData? (dialect : Dialect) (d : Data) : Option IndexConfig := do
  let ordinary : IndexConfig := {}
  match ← d.fields? dialect.exactLists ["extensions", "ignore_patterns", "completion_mode",
      "max_concurrent_reads", "collision_log_limit", "declaration_pattern"] with
  | [extensions, ignored, mode, reads, limit, pattern] => do
    let texts := Data.listOf? Data.text?
    return {
      extensions := ← Data.orElse? ordinary.extensions texts extensions
      ignorePatterns := ← Data.orElse? ordinary.ignorePatterns texts ignored
      completionMode := ←
        Data.orElse? ordinary.completionMode (CompletionMode.ofData? dialect) mode
      maxConcurrentReads := ←
        Data.orElse? ordinary.maxConcurrentReads (Data.natBelow? numberBound) reads
      collisionLogLimit := ←
        Data.orElse? ordinary.collisionLogLimit (Data.natBelow? numberBound) limit
      declarationPattern := ← Data.orElse? none (Data.orNull? Data.text?) pattern }
  | _ => none

/-- The settings of watching. -/
def WatchConfig.ofData? (dialect : Dialect) (d : Data) : Option WatchConfig := do
  match ← d.fields? dialect.exactLists ["debounce_ms"] with
  | [debounce] => do
    return { debounce := ←
      Data.orElse? ({} : WatchConfig).debounce (Data.natBelow? numberBound) debounce }
  | _ => none

/-- The settings of the log. -/
def LoggingConfig.ofData? (dialect : Dialect) (d : Data) : Option LoggingConfig := do
  let ordinary : LoggingConfig := {}
  match ← d.fields? dialect.exactLists
      ["enabled", "stderr", "level", "directory", "file_prefix", "rotation"] with
  | [enabled, stderr, level, directory, filePrefix, rotation] => do
    return {
      enabled := ← Data.orElse? ordinary.enabled Data.bool? enabled
      stderr := ← Data.orElse? ordinary.stderr Data.bool? stderr
      level := ← Data.orElse? ordinary.level Data.text? level
      directory := ← Data.orElse? ordinary.directory Data.text? directory
      filePrefix := ← Data.orElse? ordinary.filePrefix Data.text? filePrefix
      rotation := ← Data.orElse? ordinary.rotation Data.text? rotation }
  | _ => none

/-- **Decode a configuration.** -/
def Config.ofData? (dialect : Dialect) (d : Data) : Option Config := do
  match ← d.fields? dialect.exactLists ["index", "watcher", "logging"] with
  | [index, watcher, logging] => do
    return {
      index := ← Data.orElse? {} (IndexConfig.ofData? dialect) index
      watcher := ← Data.orElse? {} (WatchConfig.ofData? dialect) watcher
      logging := ← Data.orElse? {} (LoggingConfig.ofData? dialect) logging }
  | _ => none

/-! ## What the settings mean -/

/-- The settings of a workspace, once the pattern has been read. -/
structure Settings where
  extractor : Extractor
  mode : CompletionMode
  /-- At least one document is read at a time. -/
  reads : Nat
  limit : Nat

/-- The settings that a configuration asks for. -/
def IndexConfig.settings (c : IndexConfig) : Except PatternFault Settings := do
  let extractor ← match c.declarationPattern with
    | none => .ok Extractor.ordinary
    | some p => Extractor.ofPattern p
  return {
    extractor := extractor
    mode := c.completionMode
    reads := max c.maxConcurrentReads 1
    limit := c.collisionLogLimit }

/-- A workspace with these settings that has not read anything yet. -/
def Settings.workspace (s : Settings) (rankings : Nat → Ranking := fun _ => .ascending) :
    Workspace :=
  .empty s.extractor s.mode s.limit rankings

end PcdCatalog

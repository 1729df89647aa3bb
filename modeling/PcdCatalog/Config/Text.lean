import PcdCatalog.Config
import PcdCatalog.Data.Toml

/-!
# Configuration files

`Config.render` writes a configuration as a TOML document, and `Config.parse?`
reads one. Numbers of a document have 64 bits with a sign, so a larger one
cannot be written.

A text is written in the plainest way that can hold it: between double quotes
if it needs no escape but that of a tab, then between single quotes, in three
double quotes, in three single quotes, and only then with escapes. Three
quotes are followed by a line end if the text has one, and a list of two or
more items takes a line for each.
-/

namespace PcdCatalog

namespace Toml

/-- The length of the longest run of a character. -/
def longestRun (c : Char) (cs : List Char) : Nat :=
  (cs.foldl (fun (n : Nat × Nat) d =>
    let run := if d = c then n.1 + 1 else 0
    (run, max n.2 run)) (0, 0)).2

/-- Controls that only an escape can write. -/
def needsEscape (c : Char) : Bool :=
  (c.toNat < 0x20 && c != '\t' && c != '\n') || c.toNat = 0x7F

/-- A character other than a quote and a line end between double quotes. -/
def escaped (c : Char) : List Char :=
  if c = '\\' then ['\\', '\\']
  else if c = '\x08' then ['\\', 'b']
  else if c = '\t' then ['\\', 't']
  else if c = '\x0c' then ['\\', 'f']
  else if c = '\r' then ['\\', 'r']
  else if c.toNat < 0x20 || c.toNat = 0x7F then '\\' :: 'u' :: '0' :: '0' :: hexUpper c.toNat
  else [c]
where
  /-- Two upper-case hexadecimal digits. -/
  hexUpper (n : Nat) : List Char :=
    [(Nat.digitChar (n / 16)).toUpper, (Nat.digitChar (n % 16)).toUpper]

/-- A text with escapes. Line ends stand as they are in a text of several lines.
Of a run of quotes, the first `allowed` stand as they are. -/
def escapedText (several : Bool) (allowed : Nat) : Nat → List Char → List Char
  | _, [] => []
  | run, '"' :: cs =>
    if run < allowed then '"' :: escapedText several allowed (run + 1) cs
    else '\\' :: '"' :: escapedText several allowed 0 cs
  | _, '\n' :: cs =>
    (if several then ['\n'] else ['\\', 'n']) ++ escapedText several allowed 0 cs
  | _, c :: cs => escaped c ++ escapedText several allowed 0 cs

/-- **Write a text.** -/
def renderText (s : String) : String :=
  let cs := s.toList
  let lines := cs.contains '\n'
  let open3 := if lines then "\n" else ""
  let codes := cs.any needsEscape
  let one := String.ofList (escapedText false 0 0 cs)
  let several := String.ofList (escapedText true 2 0 cs)
  if !codes && !lines && !cs.contains '\\' && !cs.contains '"' then "\"" ++ one ++ "\""
  else if !codes && !lines && !cs.contains '\'' then "'" ++ s ++ "'"
  else if !codes && !cs.contains '\\' && longestRun '"' cs ≤ 2 then
    "\"\"\"" ++ open3 ++ several ++ "\"\"\""
  else if !codes && longestRun '\'' cs ≤ 2 then "'''" ++ open3 ++ s ++ "'''"
  else if lines then "\"\"\"" ++ open3 ++ several ++ "\"\"\""
  else "\"" ++ one ++ "\""

/-- Write a list of texts. -/
def renderTexts : List String → String
  | [] => "[]"
  | [s] => "[" ++ renderText s ++ "]"
  | ss => "[\n" ++ String.join (ss.map fun s => "    " ++ renderText s ++ ",\n") ++ "]"

/-- Write a number, if it has at most 63 bits. -/
def renderNumber? (n : Nat) : Option String :=
  if n < 0x8000000000000000 then some (toString n) else none

/-- One line of a section. -/
def line (name value : String) : String := name ++ " = " ++ value ++ "\n"

end Toml

section Sections

open Toml

/-- The section of the index. -/
def IndexConfig.render? (c : IndexConfig) : Option String := do
  let reads ← renderNumber? c.maxConcurrentReads
  let limit ← renderNumber? c.collisionLogLimit
  return "[index]\n"
    ++ line "extensions" (renderTexts c.extensions)
    ++ line "ignore_patterns" (renderTexts c.ignorePatterns)
    ++ line "completion_mode" (renderText c.completionMode.name)
    ++ line "max_concurrent_reads" reads
    ++ line "collision_log_limit" limit
    ++ (match c.declarationPattern with
      | none => ""
      | some p => line "declaration_pattern" (renderText p))

/-- The section of watching. -/
def WatchConfig.render? (c : WatchConfig) : Option String := do
  let debounce ← renderNumber? c.debounce
  return "[watcher]\n" ++ line "debounce_ms" debounce

/-- The section of the log. -/
def LoggingConfig.render (c : LoggingConfig) : String :=
  "[logging]\n"
    ++ line "enabled" (if c.enabled then "true" else "false")
    ++ line "stderr" (if c.stderr then "true" else "false")
    ++ line "level" (renderText c.level)
    ++ line "directory" (renderText c.directory)
    ++ line "file_prefix" (renderText c.filePrefix)
    ++ line "rotation" (renderText c.rotation)

end Sections

namespace Config

/-- **Write a configuration**, if its numbers can be written. -/
def render? (c : Config) : Option String := do
  let index ← c.index.render?
  let watcher ← c.watcher.render?
  return index ++ "\n" ++ watcher ++ "\n" ++ c.logging.render

/-- **Read a configuration.** -/
def parse? (s : String) : Option Config := (Toml.parse? s).bind (ofData? .toml)

end Config

end PcdCatalog

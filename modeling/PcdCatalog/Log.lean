import PcdCatalog.Config
import PcdCatalog.Text.Case
import PcdCatalog.Text.Number
import PcdCatalog.Unicode.Class

/-!
# The log

While it works, the program takes notes. A `Note` has a level and a topic, and
a `Filter` decides by both whether it is kept. Two logs can be kept at once:
one on the error channel, one in a file that is begun anew every so often
(`Rotation`).

The level of the configuration is that of both. A list of directives can take
its place for the error channel, as long as it can be read: a directive names
a topic, a level, or both, and of the directives whose topic is a leading part
of that of a note, the longest one decides.
-/

namespace PcdCatalog

/-! ## Notes -/

/-- How much a note matters. -/
inductive Level where
  | error
  | warn
  | info
  | debug
  | trace
deriving DecidableEq, Inhabited

namespace Level

/-- The levels, from the one that matters most. -/
def all : List Level := [error, warn, info, debug, trace]

/-- The word for a level. -/
def name : Level → String
  | error => "error"
  | warn => "warn"
  | info => "info"
  | debug => "debug"
  | trace => "trace"

/-- The place of a level; from there on it passes a filter. -/
def rank : Level → Nat
  | error => 1
  | warn => 2
  | info => 3
  | debug => 4
  | trace => 5

/-- The level that a word names in either case. -/
def ofName? (s : String) : Option Level := all.find? fun l => l.name == Text.lowered s

/-- How a level stands in front of a note. -/
def label (l : Level) : String := l.name.map Char.toUpper

end Level

/-- **Something worth telling.** -/
structure Note where
  level : Level
  topic : String
  text : String
deriving DecidableEq, Inhabited

/-- A note as a line. -/
def Note.line (n : Note) : String := n.level.label ++ " " ++ n.text

/-! ## Filters -/

/-- A part of a filter: notes about a topic pass up to a rank. -/
structure Directive where
  topic : String
  rank : Nat
deriving DecidableEq, Inhabited

/-- **What is kept**: directives, of which the last one about a topic counts. -/
structure Filter where
  directives : List Directive
deriving DecidableEq, Inhabited

namespace Filter

/-- The directive that decides about a topic: the longest one, and of equal ones
the last. -/
def deciding? (f : Filter) (topic : String) : Option Directive :=
  (f.directives.filter fun d => d.topic.toList.isPrefixOf topic.toList).foldl
    (fun best d =>
      match best with
      | none => some d
      | some b => if b.topic.length ≤ d.topic.length then some d else some b) none

/-- **Whether a note is kept.** -/
def passes (f : Filter) (n : Note) : Bool :=
  match f.deciding? n.topic with
  | none => false
  | some d => n.level.rank ≤ d.rank

/-- The filter of a level of the program. -/
def ofLevel (l : Level) : Filter := ⟨[⟨"pcdindex", l.rank⟩]⟩

/-- The rank that a word or a digit names; nothing at all names the first. -/
def rank? (s : String) : Option Nat :=
  if s.isEmpty then some Level.error.rank
  else if Text.lowered s = "off" then some 0
  else match Level.ofName? s with
    | some l => some l.rank
    | none => (Text.unsigned? s.toList).filter (· ≤ Level.trace.rank)

/-- The letters and digits of all scripts. -/
def lettersAndDigits : CharSet :=
  ((Unicode.property? "alphabetic").getD CharSet.empty).union
    (Unicode.categoriesOf ["Nd", "Nl", "No"])

/-- Whether a directive can begin with a character. -/
def canBegin (c : Char) : Bool :=
  c = '-' || c = ':' || c = '_' || lettersAndDigits.contains c

/-- A text without blanks at its ends. -/
def trimmed (cs : List Char) : List Char :=
  let isBlank (c : Char) := ((Unicode.property? "whitespace").getD CharSet.empty).contains c
  ((cs.dropWhile isBlank).reverse.dropWhile isBlank).reverse

/-- Read a directive. One about part of an activity is read but decides
nothing. -/
def directive? (s : String) : Option (List Directive) :=
  let cs := trimmed s.toList
  let head := cs.takeWhile fun c => c != '=' && c != '['
  let behind := cs.dropWhile fun c => c != '=' && c != '['
  let begins := match head with
    | [] => behind.head? = some '['
    | c :: _ => canBegin c
  if !begins then none
  else match behind with
    | [] =>
      match rank? (String.ofList head) with
      | some r => some [⟨"", r⟩]
      | none => some [⟨String.ofList head, Level.trace.rank⟩]
    | '=' :: level => (rank? (String.ofList level)).map fun r => [⟨String.ofList head, r⟩]
    | activity =>
      match activity.dropWhile (· != ']') with
      | [_] => some []
      | _ :: '=' :: level => (rank? (String.ofList level)).map fun _ => []
      | _ => none

/-- **Read a list of directives.** The empty list keeps errors only. -/
def parse? (s : String) : Option Filter :=
  match (s.splitOn ",").filter fun p => !p.isEmpty with
  | [] => some ⟨[⟨"", Level.error.rank⟩]⟩
  | parts => (parts.mapM directive?).map fun ds => ⟨ds.flatten⟩

end Filter

/-! ## Files -/

/-- How often a log file is begun anew. -/
inductive Rotation where
  | minutely
  | hourly
  | daily
  | never
deriving DecidableEq, Inhabited

namespace Rotation

/-- The rotations. -/
def all : List Rotation := [minutely, hourly, daily, never]

/-- The word for a rotation. -/
def name : Rotation → String
  | minutely => "minutely"
  | hourly => "hourly"
  | daily => "daily"
  | never => "never"

/-- The rotation that a word names in either case. -/
def ofName? (s : String) : Option Rotation := all.find? fun r => r.name == Text.lowered s

/-- How many parts of the date (year, month, day, hour, minute) tell one file
from the next. -/
def dateParts : Rotation → Nat
  | minutely => 5
  | hourly => 4
  | daily => 3
  | never => 3

/-- The date in the name of a file. -/
def stamp (r : Rotation) (date : List String) : String :=
  String.intercalate "-" (date.take r.dateParts)

/-- The name of a log file. -/
def fileName (r : Rotation) (start : String) (date : List String) : String :=
  if start.isEmpty then r.stamp date
  else match r with
    | never => start
    | _ => start ++ "." ++ r.stamp date

end Rotation

/-! ## What the configuration asks for -/

namespace LoggingConfig

/-- The level that the configuration names, and a warning if it names none. -/
def levelOrWarning (c : LoggingConfig) : Level × List String :=
  match Level.ofName? c.level with
  | some l => (l, [])
  | none => (.info, ["Warning: Unknown log level '" ++ c.level ++ "', defaulting to 'info'"])

/-- The rotation that the configuration names, and a warning if it names none. -/
def rotationOrWarning (c : LoggingConfig) : Rotation × List String :=
  match Rotation.ofName? c.rotation with
  | some r => (r, [])
  | none => (.daily,
      ["Warning: Unknown rotation strategy '" ++ c.rotation ++ "', defaulting to 'daily'"])

/-- The directory of the log files. -/
def logDirectory (c : LoggingConfig) (root : Path) : Path := root.join ⟨c.directory⟩

end LoggingConfig

/-- **Where notes go.** -/
structure Logging where
  /-- The filter of the error channel. -/
  channel : Option Filter
  /-- A log file and its filter. -/
  file : Option (Path × Filter)
  /-- What is told about the configuration itself. -/
  warnings : List String
deriving Inhabited

/-- The logs that a configuration asks for. `directives` stand in the
environment, if anything does. -/
def LoggingConfig.logging (c : LoggingConfig) (root : Path) (directives : Option String)
    (date : List String) : Logging :=
  let (level, levelWarning) := c.levelOrWarning
  let (rotation, rotationWarning) := c.rotationOrWarning
  let asked := directives.bind Filter.parse?
  { channel := if c.stderr then some (asked.getD (.ofLevel level)) else none
    file := if c.enabled then
        some ((c.logDirectory root).join ⟨rotation.fileName c.filePrefix date⟩, .ofLevel level)
      else none
    warnings := (if c.enabled then rotationWarning ++ levelWarning else [])
      ++ (if c.stderr && asked.isNone then levelWarning else []) }

namespace Logging

/-- The lines of the notes that the error channel keeps. -/
def channelLines (l : Logging) (notes : List Note) : List String :=
  match l.channel with
  | none => []
  | some f => (notes.filter f.passes).map Note.line

/-- The text that notes add to the log file. -/
def fileText (f : Filter) (notes : List Note) : String :=
  String.join ((notes.filter f.passes).map fun n => n.level.label ++ " " ++ n.topic ++ ": " ++ n.text ++ "\n")

end Logging

end PcdCatalog

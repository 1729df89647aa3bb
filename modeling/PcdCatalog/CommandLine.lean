import PcdCatalog.Query
import PcdCatalog.Text.Number

/-!
# The command line

`Command.parse` reads the arguments of the program. The first one names a
command; those behind it are switches, options with a value, and values
without a name.

An option takes its value from the same argument (`--line=4`, `-l4`, `-l=4`)
or from the next one, unless that begins with a dash. In the second case the
option stays open: its value is judged only when the next argument that means
something arrives, or at the end. An argument that nothing knows is therefore
reported before the bad value in front of it.
-/

namespace PcdCatalog

/-- **What the program is asked to do.** -/
inductive Command where
  | init
  | index (list : Bool)
  | definition (symbol file : Option String) (line : Option Nat) (character : Nat)
  | complete (start : String) (mode : Option CompletionMode)
  | watch (debounce : Option Nat)
  | serve (static : Bool)
deriving DecidableEq, Inhabited

/-- Why arguments do not make a command. -/
inductive UsageFault where
  | noCommand
  | unknownCommand
  | unknownArgument
  /-- A switch with a value. -/
  | valueNotTaken
  /-- An option without its value, or with one that is not among the choices. -/
  | badChoice
  /-- A value that is not a number in range. -/
  | badNumber
  /-- An option given twice. -/
  | repeated
  /-- Something that has to be given is not. -/
  | missing
  | helpAsked
  /-- The version is asked for, of the whole program or of a command. -/
  | versionAsked (command : Option String)
deriving DecidableEq, Inhabited

/-- The name of the program. -/
def programName : String := "pcdindex"

/-- The version of the program. -/
def programVersion : String := "0.1.0"

/-- What is told about the version. -/
def versionText (command : Option String) : String :=
  programName ++ (command.elim "" ("-" ++ ·)) ++ " " ++ programVersion ++ "\n"

namespace CommandLine

/-! ## Parameters -/

/-- The values that an option takes. -/
inductive ValueKind where
  | text
  /-- A text that is not empty. -/
  | path
  | mode
  /-- A number with 32 bits, with a sign in front of it if one likes. -/
  | short
  /-- A number with 64 bits. -/
  | long
deriving DecidableEq, Inhabited

/-- A value once it is read. -/
inductive Value where
  | text (value : String)
  | mode (value : CompletionMode)
  | number (value : Nat)
deriving DecidableEq, Inhabited

/-- What a parameter does. -/
inductive Form where
  | switch
  | option (kind : ValueKind)
  | help
  | version
deriving DecidableEq, Inhabited

/-- **A parameter of a command**, by its long name and perhaps a letter. -/
structure Parameter where
  name : String
  letter : Option Char
  form : Form
deriving DecidableEq, Inhabited

/-- The parameters that every command has. -/
def everywhere : List Parameter :=
  [⟨"help", some 'h', .help⟩, ⟨"version", some 'V', .version⟩]

/-- **What a command can be given**: parameters by name, and values without
one. -/
structure Grammar where
  named : List Parameter
  seats : List Parameter

/-! ## Values -/

/-- A number below a bound. -/
def numberBelow (bound : Nat) (n : Option Nat) : Except UsageFault Value :=
  match n.filter (· < bound) with
  | some n => .ok (.number n)
  | none => .error .badNumber

/-- Read a value. -/
def ValueKind.read (kind : ValueKind) (s : String) : Except UsageFault Value :=
  match kind with
  | text => .ok (.text s)
  | path => if s.isEmpty then .error .badChoice else .ok (.text s)
  | mode =>
    match CompletionMode.ofName? s with
    | some m => .ok (.mode m)
    | none => .error .badChoice
  | short => numberBelow UInt32.size (Text.signed? s.toList)
  | long => numberBelow UInt64.size (Text.unsigned? s.toList)

/-! ## Progress -/

/-- **What has been read so far.** The open parameter waits for its value, or
for its value to be judged. -/
structure Progress where
  switches : List String := []
  values : List (String × Value) := []
  awaiting : Option (Parameter × Option String) := none
  seats : List Parameter

namespace Progress

/-- Whether a parameter has been given. -/
def has (p : Progress) (name : String) : Bool :=
  p.switches.contains name || (p.values.lookup name).isSome

/-- Give a parameter its value. -/
def give (p : Progress) (q : Parameter) (s : String) : Except UsageFault Progress :=
  match q.form with
  | .option kind =>
    if p.has q.name then .error .repeated
    else (kind.read s).map fun v => { p with values := p.values ++ [(q.name, v)] }
  | _ => .error .valueNotTaken

/-- Judge the open parameter. -/
def settle (p : Progress) : Except UsageFault Progress :=
  match p.awaiting with
  | none => .ok p
  | some (_, none) => .error .badChoice
  | some (q, some s) => { p with awaiting := none }.give q s

/-- Turn a switch on, once the open parameter is judged. -/
def switchOn (p : Progress) (command : Option String) (q : Parameter) :
    Except UsageFault Progress := do
  let p ← p.settle
  match q.form with
  | .help => throw .helpAsked
  | .version => throw (.versionAsked command)
  | _ => if p.has q.name then throw .repeated else return { p with switches := p.switches ++ [q.name] }

/-- Give an option its value, or leave it open. -/
def option (p : Progress) (q : Parameter) (attached : Option String) :
    Except UsageFault Progress := do
  let p ← p.settle
  match attached with
  | some s => p.give q s
  | none => return { p with awaiting := some (q, none) }

/-- Whether a parameter takes a value. -/
def takesValue (q : Parameter) : Bool :=
  match q.form with
  | .option _ => true
  | _ => false

/-- An argument with two dashes, without them. -/
def long (p : Progress) (command : Option String) (g : Grammar) (cs : List Char) :
    Except UsageFault Progress :=
  let name := String.ofList (cs.takeWhile (· != '='))
  let attached := match cs.dropWhile (· != '=') with
    | [] => none
    | _ :: value => some (String.ofList value)
  match g.named.find? fun q => q.name == name with
  | none => .error .unknownArgument
  | some q =>
    if takesValue q then p.option q attached
    else if attached.isSome then .error .valueNotTaken
    else p.switchOn command q

/-- The letters behind one dash. The first option takes all that follows it. -/
def letters (p : Progress) (command : Option String) (g : Grammar) :
    List Char → Except UsageFault Progress
  | [] => .ok p
  | c :: cs =>
    match g.named.find? fun q => q.letter == some c with
    | none => .error .unknownArgument
    | some q =>
      if takesValue q then
        p.option q (match cs with
          | [] => none
          | '=' :: value => some (String.ofList value)
          | value => some (String.ofList value))
      else p.switchOn command q >>= fun p => p.letters command g cs

/-- A value without a name takes the next seat. -/
def seat (p : Progress) (s : String) : Except UsageFault Progress :=
  match p.seats with
  | [] => .error .unknownArgument
  | q :: seats => do
    let p ← p.settle
    return { p with seats := seats, awaiting := some (q, some s) }

/-- **Read the arguments of a command.** Behind two dashes there are only
values. -/
def read (command : Option String) (g : Grammar) (valuesOnly : Bool) (p : Progress) :
    List String → Except UsageFault Progress
  | [] => p.settle
  | arg :: args =>
    if valuesOnly then p.seat arg >>= fun p => p.read command g true args
    else match arg.toList with
      | ['-', '-'] => p.read command g true args
      | '-' :: '-' :: cs => p.long command g cs >>= fun p => p.read command g false args
      | '-' :: c :: cs => p.letters command g (c :: cs) >>= fun p => p.read command g false args
      | _ =>
        match p.awaiting with
        | some (q, none) =>
          { p with awaiting := some (q, some arg) }.read command g false args
        | _ => p.seat arg >>= fun p => p.read command g false args

/-! ## What was given -/

/-- The text given for a parameter. -/
def text? (p : Progress) (name : String) : Option String :=
  match p.values.lookup name with
  | some (.text s) => some s
  | _ => none

/-- The number given for a parameter. -/
def number? (p : Progress) (name : String) : Option Nat :=
  match p.values.lookup name with
  | some (.number n) => some n
  | _ => none

/-- The mode given for a parameter. -/
def mode? (p : Progress) (name : String) : Option CompletionMode :=
  match p.values.lookup name with
  | some (.mode m) => some m
  | _ => none

end Progress

/-! ## Commands -/

/-- A command: its name, what it can be given, and how to make it of what was
given. -/
structure Entry where
  name : String
  named : List Parameter := []
  seats : List Parameter := []
  make : Progress → Except UsageFault Command

/-- **The commands.** -/
def commands : List Entry := [
  { name := "init"
    make := fun _ => .ok .init },
  { name := "index"
    named := [⟨"list", some 'l', .switch⟩]
    make := fun p => .ok (.index (p.has "list")) },
  { name := "definition"
    named := [⟨"file", some 'f', .option .path⟩, ⟨"line", some 'l', .option .short⟩,
      ⟨"character", some 'c', .option .short⟩]
    seats := [⟨"symbol", none, .option .text⟩]
    make := fun p =>
      if (p.has "file" && !p.has "line") || (!p.has "file" && !p.has "symbol") then .error .missing
      else .ok (.definition (p.text? "symbol") (p.text? "file") (p.number? "line")
        ((p.number? "character").getD 0)) },
  { name := "complete"
    named := [⟨"mode", some 'm', .option .mode⟩]
    seats := [⟨"partial", none, .option .text⟩]
    make := fun p =>
      match p.text? "partial" with
      | none => .error .missing
      | some start => .ok (.complete start (p.mode? "mode")) },
  { name := "watch"
    named := [⟨"debounce-ms", some 'd', .option .long⟩]
    make := fun p => .ok (.watch (p.number? "debounce-ms")) },
  { name := "serve"
    named := [⟨"no-watch", none, .switch⟩]
    make := fun p => .ok (.serve (p.has "no-watch")) }]

/-- The command of a name. -/
def find? (name : String) : Option Entry := commands.find? fun e => e.name == name

/-- The word that asks for help about a command. -/
def helpWord : String := "help"

/-- Whether a word can stand where a command is expected. -/
def isCommandWord (s : String) : Bool := s == helpWord || (find? s).isSome

/-- Asking for help about something: nothing has commands of its own but the
whole program. -/
def helpAbout : List String → UsageFault
  | [] => .helpAsked
  | [s] => if isCommandWord s then .helpAsked else .unknownCommand
  | _ => .unknownCommand

/-- Read what follows the name of a command. -/
def Entry.read (e : Entry) (args : List String) : Except UsageFault Command :=
  Progress.read (some e.name) ⟨e.named ++ everywhere, e.seats⟩ false { seats := e.seats } args
    >>= e.make

/-- Whatever stands behind two dashes is no command any more. -/
def behindDashes : List String → UsageFault
  | [] => .noCommand
  | s :: _ => if isCommandWord s then .unknownArgument else .unknownCommand

/-- The parameters that the program has without a command: each of them ends
the reading. -/
def bare (read : Progress → Option String → Grammar → Except UsageFault Progress) :
    Except UsageFault Command :=
  read { seats := [] } none ⟨everywhere, []⟩ >>= fun _ => .error .noCommand

end CommandLine

namespace Command

open CommandLine

/-- **Read the arguments of the program.** -/
def parse : List String → Except UsageFault Command
  | [] => .error .noCommand
  | arg :: args =>
    match find? arg with
    | some e => e.read args
    | none =>
      match arg.toList with
      | ['-', '-'] => .error (behindDashes args)
      | '-' :: '-' :: cs => bare fun p command g => p.long command g cs
      | '-' :: c :: cs => bare fun p command g => p.letters command g (c :: cs)
      | _ => .error (if arg = helpWord then helpAbout args else .unknownCommand)

end Command

end PcdCatalog

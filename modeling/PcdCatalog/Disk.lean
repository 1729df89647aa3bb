import PcdCatalog.Path
import PcdCatalog.Table

/-!
# Disks

The state of a file system at one moment: which files, links and directories
there are. A `Location` is where something really is, as the list of names
from the root; a path is only a way to say it, and `Disk.locate` follows it
through directories and links.

Locations are ordered name by name, so the entries of a disk come with the
contents of a directory right behind it.
-/

namespace PcdCatalog

/-- **A place on a disk**: the names from the root to it. -/
abbrev Location := List String

/-- What can be at a place. -/
inductive Inode where
  | file (content : ByteArray)
  | link (target : String)
  | directory
deriving Inhabited

/-- **The contents of a disk.** The root itself is always a directory and has
no entry. -/
structure Disk where
  nodes : Table Location Inode
deriving Inhabited

/-- Why something cannot be done with a disk. -/
inductive DiskFault where
  | notFound
  | exists
  | notDirectory
  | isDirectory
  | nameTooLong
  | tooManyLinks
  | notEmpty
  /-- A null character in a path. -/
  | nullInName
  /-- The bytes of a file are not a text. -/
  | notText
deriving DecidableEq, Inhabited

/-- The fault in the words of the operating system. -/
def DiskFault.message : DiskFault → String
  | notFound => "No such file or directory (os error 2)"
  | .exists => "File exists (os error 17)"
  | notDirectory => "Not a directory (os error 20)"
  | isDirectory => "Is a directory (os error 21)"
  | nameTooLong => "File name too long (os error 36)"
  | notEmpty => "Directory not empty (os error 39)"
  | tooManyLinks => "Too many levels of symbolic links (os error 40)"
  | nullInName => "file name contained an unexpected NUL byte"
  | notText => "stream did not contain valid UTF-8"

namespace Location

/-- The absolute path of a place. -/
def path (l : Location) : Path := ⟨"/" ++ String.intercalate "/" l⟩

/-- Whether a place is `base` or lies below it. -/
def isBelow (l base : Location) : Bool := base.isPrefixOf l

end Location

namespace Disk

/-- The disk with nothing on it. -/
def empty : Disk := ⟨∅⟩

/-- What is at a place. -/
def at? (d : Disk) (l : Location) : Option Inode :=
  if l.isEmpty then some .directory else d.nodes.get? l

/-- Whether there is a directory at a place. -/
def isDirectoryAt (d : Disk) (l : Location) : Bool :=
  match d.at? l with
  | some .directory => true
  | _ => false

/-! ## Following paths -/

/-- How many links are followed before giving up. -/
def linkLimit : Nat := 40

/-- The longest name, in bytes. -/
def nameLimit : Nat := 255

/-- One past the longest path, in bytes. -/
def pathLimit : Nat := 4096

/-- The pieces of a path, in the way they are followed: a slash at the end asks
for a directory, as a dot would. -/
def pieces (text : String) : List String :=
  let ps := (Path.pieces text.toList).map String.ofList
  let named := ps.filter (· != "")
  if ps.getLast? = some "" then named ++ ["."] else named

/-- What to do about the last piece of a path. -/
structure Pursuit where
  /-- Follow it if it is a link. -/
  follow : Bool := true
  /-- It need not be there. -/
  create : Bool := false

/-- Follow the pieces of a path from a place. -/
def pursue (d : Disk) (p : Pursuit) (links : Nat) (here : Location) (ps : List String) :
    Except DiskFault Location :=
  match ps with
  | [] => .ok here
  | piece :: rest =>
    if !d.isDirectoryAt here then .error .notDirectory
    else if piece = "." then d.pursue p links here rest
    else if piece = ".." then d.pursue p links here.dropLast rest
    else if piece.utf8ByteSize > nameLimit then .error .nameTooLong
    else
      let next := here ++ [piece]
      match d.at? next with
      | none => if p.create && rest.isEmpty then .ok next else .error .notFound
      | some (.link target) =>
        if rest.isEmpty && !p.follow then .ok next
        else match links with
          | 0 => .error .tooManyLinks
          | links + 1 =>
            let start := if target.toList.head? = some '/' then [] else here
            d.pursue p links start (pieces target ++ rest)
      | some _ => d.pursue p links next rest
termination_by (links, ps.length)

/-- **Where a path leads**, from a working directory. -/
def locate (d : Disk) (p : Pursuit) (cwd : Location) (path : Path) : Except DiskFault Location :=
  if path.text.toList.any (·.toNat == 0) then .error .nullInName
  else if path.text.isEmpty then .error .notFound
  else if path.text.utf8ByteSize ≥ pathLimit then .error .nameTooLong
  else d.pursue p linkLimit (if path.isAbsolute then [] else cwd) (pieces path.text)

/-- The place a path leads to, which has to exist. -/
def resolve (d : Disk) (cwd : Location) (path : Path) : Except DiskFault Location :=
  d.locate {} cwd path

/-- Whether a path leads anywhere. -/
def present (d : Disk) (cwd : Location) (path : Path) : Bool := (d.resolve cwd path).isOk

/-- Whether a path leads to a directory. -/
def isDirectory (d : Disk) (cwd : Location) (path : Path) : Bool :=
  match d.resolve cwd path with
  | .ok l => d.isDirectoryAt l
  | .error _ => false

/-! ## Reading -/

/-- The bytes of the file at a place. -/
def bytesAt (d : Disk) (l : Location) : Except DiskFault ByteArray :=
  match d.at? l with
  | some (.file content) => .ok content
  | some .directory => .error .isDirectory
  | _ => .error .notFound

/-- The text of the file at a place. -/
def textAt (d : Disk) (l : Location) : Except DiskFault String := do
  let content ← d.bytesAt l
  match String.fromUTF8? content with
  | some s => .ok s
  | none => .error .notText

/-- **The text of a file.** -/
def readText (d : Disk) (cwd : Location) (path : Path) : Except DiskFault String := do
  let l ← d.resolve cwd path
  d.textAt l

/-! ## Writing -/

/-- Put something at a place. -/
def put (d : Disk) (l : Location) (node : Inode) : Disk := ⟨d.nodes.insert l node⟩

/-- **Write a file.** -/
def write (d : Disk) (cwd : Location) (path : Path) (content : ByteArray) :
    Except DiskFault Disk := do
  let l ← d.locate { create := true } cwd path
  match d.at? l with
  | some .directory => .error .isDirectory
  | _ => .ok (d.put l (.file content))

/-- Make a link. -/
def makeLink (d : Disk) (cwd : Location) (path : Path) (target : String) :
    Except DiskFault Disk := do
  let l ← d.locate { follow := false, create := true } cwd path
  match d.at? l with
  | some _ => .error .exists
  | none => .ok (d.put l (.link target))

/-- Follow the pieces of a path from a place and make the directories that are
not there. -/
def makeAlong (d : Disk) (links : Nat) (here : Location) (ps : List String) :
    Except DiskFault Disk :=
  match ps with
  | [] => if d.isDirectoryAt here then .ok d else .error .exists
  | piece :: rest =>
    if !d.isDirectoryAt here then .error .notDirectory
    else if piece = "." then d.makeAlong links here rest
    else if piece = ".." then d.makeAlong links here.dropLast rest
    else if piece.utf8ByteSize > nameLimit then .error .nameTooLong
    else
      let next := here ++ [piece]
      match d.at? next with
      | none => (d.put next .directory).makeAlong links next rest
      | some (.link target) =>
        -- A link has to lead to a directory: none is made behind it.
        match links with
        | 0 => .error .tooManyLinks
        | links + 1 =>
          let start := if target.toList.head? = some '/' then [] else here
          match d.pursue {} links start (pieces target) with
          | .ok l => d.makeAlong links l rest
          | .error .notFound => .error .exists
          | .error e => .error e
      | some _ => d.makeAlong links next rest
termination_by (links, ps.length)

/-- **Make a directory** and those above it. The path has to lead there when all is made:
its links count together then, and no longer each by itself. -/
def makeDirectories (d : Disk) (cwd : Location) (path : Path) : Except DiskFault Disk :=
  if path.text.toList.any (·.toNat == 0) then .error .nullInName
  else if path.text.utf8ByteSize ≥ pathLimit then .error .nameTooLong
  else do
    let start := if path.isAbsolute then [] else cwd
    let made ← d.makeAlong linkLimit start (pieces path.text)
    let _ ← made.pursue {} linkLimit start (pieces path.text)
    return made

/-- Put a file, a link or a directory on a disk, and make the directories above
it. -/
def place (d : Disk) (cwd : Location) (path : Path) (node : Inode) : Except DiskFault Disk := do
  let made ← match Path.parentKey? path.key with
    | none => pure d
    | some k => d.makeDirectories cwd (.ofKey k)
  match node with
  | .file content => made.write cwd path content
  | .link target => made.makeLink cwd path target
  | .directory => made.makeDirectories cwd path

/-- Take a file or link away. -/
def remove (d : Disk) (cwd : Location) (path : Path) : Except DiskFault Disk := do
  let l ← d.locate { follow := false } cwd path
  match d.at? l with
  | some .directory => .error .isDirectory
  | _ => .ok ⟨d.nodes.erase l⟩

/-- Everything at or below a place goes with it to another one. -/
def moveTree (d : Disk) (source target : Location) : Disk :=
  let moved := d.nodes.toList.filter fun e => Location.isBelow e.1 source
  let rest := d.nodes.filter fun l _ => !Location.isBelow l source && !Location.isBelow l target
  ⟨moved.foldl (fun t e => t.insert (target ++ e.1.drop source.length) e.2) rest⟩

/-- Give something another path. What was there before is replaced. -/
def rename (d : Disk) (cwd : Location) (source target : Path) : Except DiskFault Disk := do
  let a ← d.locate { follow := false } cwd source
  let b ← d.locate { follow := false, create := true } cwd target
  if a = b then .ok d
  else match d.isDirectoryAt a, d.isDirectoryAt b with
    | false, true => .error .isDirectory
    | true, true =>
      if d.nodes.keys.any fun l => l != b && Location.isBelow l b then .error .notEmpty
      else .ok (d.moveTree a b)
    | true, false =>
      if (d.at? b).isSome then .error .notDirectory else .ok (d.moveTree a b)
    | false, false => .ok (d.moveTree a b)

end Disk

end PcdCatalog

import PcdCatalog.Disk
import PcdCatalog.Ignore.Rule
import PcdCatalog.Selection
import PcdCatalog.Source

/-!
# Finding declaration files

`Selection.files` lists the declaration files below a root, in path order. A
file is left out if it, or a directory on the way to it, is hidden:

* by a name to be ignored, which decides before anything else;
* by the rules of `.ignore` files, from its own directory upwards;
* inside a repository, by those of `.gitignore` files up to the top of the
  repository, then by the repository's list of excluded files, and then by what
  the user has ignored in all repositories (`Walk.UserRules`);
* and, if no rule is about it, by a dot at the beginning of its name.

What the user has ignored is not looked up here: where it is written down depends
on settings of the user, so it is given as what it says about each place.

Links are neither listed nor followed; only the root may be one.
-/

namespace PcdCatalog

namespace Walk

open Ignore

/-- The rules that one directory brings. -/
structure Local where
  /-- The rules of its `.ignore` file. -/
  always : List Rule
  /-- The rules of its `.gitignore` file. -/
  versioned : List Rule
  /-- The files that its repository excludes. -/
  excluded : List Rule
  /-- Whether it is the top of a repository. -/
  isTop : Bool

/-- **What the user has ignored in all repositories**: what it says about a place,
which may be a directory. -/
abbrev UserRules := Location → Bool → Option Verdict

/-- **All that has a say in what is left out.** -/
structure Rules where
  /-- The rules of the configuration. They say keep for what they hide. -/
  configured : List Rule
  /-- What each directory says. -/
  directories : Table Location Local
  user : UserRules

/-- What is in the file that a path leads to. -/
def content? (d : Disk) (start : Location) (path : Path) : Option ByteArray :=
  match d.resolve start path with
  | .ok l => (d.bytesAt l).toOption
  | .error _ => none

/-- The rules of a file, if there is one. -/
def fileRules (d : Disk) (start : Location) (path : Path) : List Rule :=
  ((content? d start path).map rulesOf).getD []

/-- Where a repository keeps what its working trees have in common, if its mark in
`dir` is a file: that file names the directory of the tree, and a file in there names
the common directory. Only what begins with a dot is relative to the directory of
the tree; other relative paths begin at the working directory. -/
def commonDirectory? (d : Disk) (cwd dir : Location) : Option Path := do
  let mark ← (content? d dir ⟨".git"⟩).bind firstLine?
  let start := "gitdir: ".toList
  if start.isPrefixOf mark.toList then
    let tree : Path := ⟨String.ofList (mark.toList.drop start.length)⟩
    let common ← (content? d cwd (tree.join ⟨"commondir"⟩)).bind firstLine?
    if common.toList.head? = some '.' then some (tree.join ⟨common⟩) else some ⟨common⟩
  else none

/-- The rules of the list of files that the repository at a directory excludes. -/
def excludedRules (d : Disk) (cwd dir : Location) : List Rule :=
  if d.isDirectory dir ⟨".git"⟩ then fileRules d dir ⟨".git/info/exclude"⟩
  else match commonDirectory? d cwd dir with
    | some common => fileRules d cwd (common.join ⟨"info/exclude"⟩)
    | none => []

/-- What a directory says. -/
def localRules (d : Disk) (cwd dir : Location) : Local where
  always := fileRules d dir ⟨".ignore"⟩
  versioned := fileRules d dir ⟨".gitignore"⟩
  excluded := excludedRules d cwd dir
  isTop := d.present dir ⟨".git"⟩

/-- What every directory of a disk says. -/
def allRules (d : Disk) (cwd : Location) : Table Location Local :=
  let dirs := d.nodes.filter fun l _ => d.isDirectoryAt l
  (dirs.map fun l _ => localRules d cwd l).insert [] (localRules d cwd [])

/-- The directories above a place, the nearest first. -/
def above (l : Location) : List Location := (List.range l.length).reverse.map fun n => l.take n

/-- The bytes of the path from a directory to a place below it. -/
def relativeBytes (dir l : Location) : List UInt8 :=
  (String.intercalate "/" (l.drop dir.length)).toUTF8.data.toList

/-- Those of a list up to and including the first that satisfies `p`. -/
def throughFirst {α : Type} (p : α → Bool) : List α → List α
  | [] => []
  | a :: as => if p a then [a] else a :: throughFirst p as

/-- What the first of some directories that has a rule about a place says. -/
def firstVerdict? (of : Local → List Rule) (dirs : List (Location × Local)) (l : Location)
    (isDirectory : Bool) : Option Verdict :=
  dirs.findSome? fun e => decide? (of e.2) (relativeBytes e.1 l) isDirectory

/-- What ignore files and the user say about a place. -/
def verdict? (r : Rules) (l : Location) (isDirectory : Bool) : Option Verdict :=
  let dirs := (above l).filterMap fun dir => (r.directories.get? dir).map fun said => (dir, said)
  let inRepository := dirs.any fun e => e.2.isTop
  let repository := if inRepository then throughFirst (fun e => e.2.isTop) dirs else []
  (firstVerdict? Local.always dirs l isDirectory).or
    ((firstVerdict? Local.versioned repository l isDirectory).or
      ((firstVerdict? Local.excluded repository l isDirectory).or
        (if inRepository then r.user l isDirectory else none)))

/-- Whether a name begins with a dot. -/
def isDotName (l : Location) : Bool :=
  match l.getLast? with
  | some name => name.toList.head? = some '.'
  | none => false

/-- **Whether a place below the root is left out.** -/
def hidden (r : Rules) (root l : Location) (isDirectory : Bool) : Bool :=
  match decide? r.configured (relativeBytes root l) isDirectory with
  | some v => v = .keep
  | none =>
    match verdict? r l isDirectory with
    | some v => v = .hide
    | none => isDotName l

/-- The places from below the root down to a place, itself the last. -/
def along (root l : Location) : List Location :=
  (List.range (l.length - root.length)).map fun n => l.take (root.length + n + 1)

/-- Whether neither a place nor a directory on the way to it is left out. -/
def reached (d : Disk) (r : Rules) (root l : Location) : Bool :=
  (along root l).all fun p => !hidden r root p (d.isDirectoryAt p)

/-- Whether there is a regular file at a place. -/
def isFileAt (d : Disk) (l : Location) : Bool :=
  match d.at? l with
  | some (.file _) => true
  | _ => false

/-- The files below a root that are not left out, in path order. -/
def filesBelow (d : Disk) (r : Rules) (root : Location) : List Location :=
  (d.nodes.filter fun l _ =>
    root.length < l.length && Location.isBelow l root && isFileAt d l
      && reached d r root l).keys

/-- A place below the root, spelled from the path of the root. -/
def spell (root : Path) (base l : Location) : Path :=
  root.join ⟨String.intercalate "/" (l.drop base.length)⟩

end Walk

namespace Selection

/-- All that has a say in which files are found on a disk. -/
def rules (s : Selection) (d : Disk) (cwd : Location) (user : Walk.UserRules) : Walk.Rules where
  configured := Ignore.configuredRules s.ignored
  directories := Walk.allRules d cwd
  user := user

/-- **The declaration files below the root.** A root that is a file is listed
itself. -/
def files (s : Selection) (d : Disk) (cwd : Location)
    (user : Walk.UserRules := fun _ _ => none) : List Path :=
  match d.resolve cwd s.root with
  | .error _ => []
  | .ok base =>
    let found :=
      if d.isDirectoryAt base then
        (Walk.filesBelow d (s.rules d cwd user) base).map (Walk.spell s.root base)
      else [s.root]
    found.filter s.selects

/-- A disk as a source of documents. -/
def source (s : Selection) (d : Disk) (cwd : Location)
    (user : Walk.UserRules := fun _ _ => none) : Source where
  documents := s.files d cwd user
  read doc :=
    match d.readText cwd doc with
    | .ok text => .ok text
    | .error .notFound => .error .missing
    | .error e => .error (.refused e.message)

end Selection

end PcdCatalog

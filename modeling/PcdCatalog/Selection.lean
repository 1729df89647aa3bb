import PcdCatalog.Path

/-!
# Which files count

Two kinds of files matter. Declaration files are chosen by a `Selection`: an
extension from a list, and no component below the root that is to be ignored.
Files in which PCDs are used are told apart by their `ConsumerKind`.

A name to be ignored is one component, or several that a path below the root
has to begin with. Only what lies below the root counts, so a root that
itself sits in a directory of an ignored name is searched all the same.
-/

namespace PcdCatalog

/-- **Which files are declaration files.** -/
structure Selection where
  root : Path
  extensions : List String
  ignored : List String
deriving Inhabited

namespace Selection

/-- A text without the slashes at its end. -/
def trimSlashes (s : String) : String :=
  String.ofList (s.toList.reverse.dropWhile (· == '/')).reverse

/-- Whether a pattern ignores a path given by its components. -/
def ignores (pattern : String) (relative : Path.Key) : Bool :=
  let p : Path := ⟨trimSlashes pattern⟩
  if p.key.length > 1 then p.key.isPrefixOf relative
  else relative.any fun c => c.text == p.text

/-- The components of a path below the root, or all of them if it is not
below. -/
def relative (s : Selection) (p : Path) : Path.Key := (p.below? s.root).getD p.key

/-- Whether a file has one of the extensions. -/
def hasExtension (s : Selection) (p : Path) : Bool := p.extension?.any s.extensions.contains

/-- **Whether a path is that of a declaration file.** -/
def selects (s : Selection) (p : Path) : Bool :=
  s.hasExtension p && !s.ignored.any fun pattern => ignores pattern (s.relative p)

end Selection

/-- The kinds of documents in which PCDs are used. -/
inductive ConsumerKind where
  /-- C source or header. -/
  | cSource
  /-- Platform description. -/
  | platform
  /-- Flash layout. -/
  | flash
deriving DecidableEq, Inhabited

namespace ConsumerKind

/-- The word for a kind. -/
def name : ConsumerKind → String
  | cSource => "c"
  | platform => "dsc"
  | flash => "fdf"

/-- The kind of a path, by its extension in either case. -/
def ofPath? (p : Path) : Option ConsumerKind :=
  match p.extension?.map (·.map Char.toLower) with
  | some "c" | some "h" => some cSource
  | some "dsc" => some platform
  | some "fdf" => some flash
  | _ => none

end ConsumerKind

end PcdCatalog

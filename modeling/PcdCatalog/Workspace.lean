import PcdCatalog.Query
import PcdCatalog.Source

/-!
# Workspaces

A workspace keeps an index in step with the documents of a source. `build`
reads everything; the three updates `created`, `changed` and `deleted` follow
a single document. A document that cannot be read counts as an error, and for
a changed document also as one that declares nothing any more.

An update has two halves. `Update.look` is what reading the document gives,
and `Update.apply` is what that does to the index in one go; between the two
halves other updates may come (`PcdCatalog.Overlap`).
-/

namespace PcdCatalog

/-- What updates did, in numbers. -/
structure UpdateCounts where
  /-- Documents read or removed. -/
  documents : Nat := 0
  added : Nat := 0
  updated : Nat := 0
  removed : Nat := 0
  /-- Documents that could not be read. -/
  errors : Nat := 0
deriving DecidableEq, Inhabited

namespace UpdateCounts

/-- The counts of two updates together. -/
def add (a b : UpdateCounts) : UpdateCounts where
  documents := a.documents + b.documents
  added := a.added + b.added
  updated := a.updated + b.updated
  removed := a.removed + b.removed
  errors := a.errors + b.errors

instance : Add UpdateCounts := ⟨add⟩

end UpdateCounts

/-- What happened to a document. -/
inductive Update where
  | created
  | changed
  | deleted
deriving DecidableEq, Inhabited

/-- What an extraction found, or that the document could not be read. -/
abbrev Found := Option Declarations

namespace Extractor

/-- Read a document and extract what it declares. -/
def look (x : Extractor) (s : Source) (doc : Path) : Found :=
  match s.read doc with
  | .ok text => some (x.extract doc text)
  | .error _ => none

end Extractor

namespace Index

/-- The counts of a merge. -/
def merged (i : Index) (doc : Path) (found : Declarations) : Index × UpdateCounts :=
  let (i, n) := i.merge doc found
  (i, { documents := 1, added := n.added, updated := n.replaced })

/-- A document that could not be read leaves the index alone. -/
def mergedOrFailed (i : Index) (doc : Path) (found : Found) : Index × UpdateCounts :=
  match found with
  | none => (i, { documents := 1, errors := 1 })
  | some found => i.merged doc found

/-- A changed document loses what it does not declare any more, and the rest is
merged. -/
def replaced (i : Index) (doc : Path) (found : Found) : Index × UpdateCounts :=
  let (kept, removed) := i.retain doc (found.getD ∅)
  let (merged, n) := kept.merged doc (found.getD ∅)
  (merged, { n with removed := removed, errors := if found.isNone then 1 else 0 })

/-- A deleted document loses everything. -/
def removed (i : Index) (doc : Path) : Index × UpdateCounts :=
  let (i, removed) := i.remove doc
  (i, { documents := 1, removed := removed })

end Index

namespace Update

/-- The first half of an update: a deleted document is not read. -/
def look (u : Update) (x : Extractor) (s : Source) (doc : Path) : Found :=
  match u with
  | created | changed => x.look s doc
  | deleted => none

/-- The second half: what was found takes effect on the index. -/
def apply (u : Update) (doc : Path) (found : Found) (i : Index) : Index × UpdateCounts :=
  match u with
  | created => i.mergedOrFailed doc found
  | changed => i.replaced doc found
  | deleted => i.removed doc

end Update

/-- **An index that follows the documents of a source.** -/
structure Workspace where
  extractor : Extractor
  mode : CompletionMode
  index : Index
deriving Inhabited

namespace Workspace

/-- A workspace that has not read anything yet. -/
def empty (extractor : Extractor) (mode : CompletionMode) (limit : Nat)
    (rankings : Nat → Ranking := fun _ => .ascending) : Workspace :=
  ⟨extractor, mode, .empty limit rankings⟩

/-- Read one document of a build. -/
def absorb (x : Extractor) (s : Source) (acc : Index × UpdateCounts) (doc : Path) :
    Index × UpdateCounts :=
  let (i, n) := acc.1.mergedOrFailed doc (x.look s doc)
  (i, acc.2 + n)

/-- **Read every document of a source**, in the order in which it lists them: of
documents that declare one symbol the last one owns it. -/
def build (w : Workspace) (s : Source) : Workspace × UpdateCounts :=
  let (i, n) := s.documents.foldl (absorb w.extractor s) (w.index, {})
  ({ w with index := i }, n)

/-- Forget everything and build again. -/
def rebuild (w : Workspace) (s : Source) : Workspace × UpdateCounts :=
  { w with index := w.index.clear }.build s

/-- **Follow one document.** -/
def update (w : Workspace) (s : Source) (u : Update) (doc : Path) : Workspace × UpdateCounts :=
  let (i, n) := u.apply doc (u.look w.extractor s doc) w.index
  ({ w with index := i }, n)

/-- Merge a new document. -/
def created (w : Workspace) (s : Source) (doc : Path) : Workspace × UpdateCounts :=
  w.update s .created doc

/-- Read a document again. -/
def changed (w : Workspace) (s : Source) (doc : Path) : Workspace × UpdateCounts :=
  w.update s .changed doc

/-- Drop a document. -/
def deleted (w : Workspace) (s : Source) (doc : Path) : Workspace × UpdateCounts :=
  w.update s .deleted doc

/-- Where the PCD named in a text is declared. -/
def definition (w : Workspace) (text : String) : Option Span := w.index.definition text

/-- Where the PCD under a cursor is declared. -/
def definitionAt (w : Workspace) (text : String) (p : Position) : Option Span :=
  w.index.definitionAt text p

/-- What completes a name, in a given mode or in that of the workspace. -/
def completions (w : Workspace) (text : String) (mode : Option CompletionMode) : List String :=
  w.index.completions text (mode.getD w.mode)

end Workspace

end PcdCatalog

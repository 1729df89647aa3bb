import PcdCatalog.Path
import PcdCatalog.Table

/-!
# Document sources

An index never looks at a disk. It asks a `Source` which declaration
documents there are and what one of them says. A source is the state of the
documents at one moment; listing it cannot fail, reading a document can.

`Shelf` is a source that holds its documents in memory, listed in path order.
A document on a shelf can be made unreadable, and reading it can be made to
take a while, which matters when updates overlap.
-/

namespace PcdCatalog

/-- Why a document could not be read. -/
inductive ReadFailure where
  /-- There is no such document. -/
  | missing
  /-- Reading failed for a reason given in words. -/
  | refused (reason : String)
deriving DecidableEq, Inhabited

/-- The failure to read a document, in words. -/
def ReadFailure.message (doc : Path) : ReadFailure → String
  | missing => "Document not found: " ++ doc.text
  | refused reason => "Failed to read " ++ doc.text ++ ": " ++ reason

/-- **The declaration documents at one moment.** -/
structure Source where
  documents : List Path
  read : Path → Except ReadFailure String

/-- **Documents held in memory.** -/
structure Shelf where
  /-- The texts, each with the spelling under which its document was first put
  here. -/
  texts : Table Path.Key (Path × String)
  /-- The documents that cannot be read. -/
  broken : Table Path.Key Path
  /-- How many ticks a document takes to be read. -/
  delays : Table Path.Key Nat

namespace Shelf

/-- The shelf without documents. -/
def empty : Shelf := ⟨∅, ∅, ∅⟩

instance : Inhabited Shelf := ⟨empty⟩

/-- Put a text under a path. A document that is here already keeps its
spelling. -/
def insert (s : Shelf) (doc : Path) (text : String) : Shelf :=
  let spelling := ((s.texts.get? doc.key).map Prod.fst).getD doc
  { s with texts := s.texts.insert doc.key (spelling, text) }

/-- The shelf of a list of documents. -/
def ofList (docs : List (Path × String)) : Shelf :=
  docs.foldl (fun s d => s.insert d.1 d.2) empty

/-- Take a document away. -/
def remove (s : Shelf) (doc : Path) : Shelf := { s with texts := s.texts.erase doc.key }

/-- Whether there is a text under a path. -/
def contains (s : Shelf) (doc : Path) : Bool := s.texts.contains doc.key

/-- Make a document unreadable. -/
def breakDocument (s : Shelf) (doc : Path) : Shelf :=
  { s with broken := s.broken.insert doc.key doc }

/-- Make it readable again. -/
def repair (s : Shelf) (doc : Path) : Shelf := { s with broken := s.broken.erase doc.key }

/-- Whether a document was made unreadable. -/
def isBroken (s : Shelf) (doc : Path) : Bool := s.broken.contains doc.key

/-- Let reading a document take some ticks. -/
def delay (s : Shelf) (doc : Path) (ticks : Nat) : Shelf :=
  { s with delays := s.delays.insert doc.key ticks }

/-- The documents in path order, unreadable ones among them. -/
def documents (s : Shelf) : List Path :=
  let present := s.texts.toList.map fun e => (e.1, e.2.1)
  (present.foldl (fun t e => t.insert e.1 e.2) s.broken : Table Path.Key Path).values

/-- Read a document. -/
def read (s : Shelf) (doc : Path) : Except ReadFailure String :=
  if s.isBroken doc then .error (.refused "broken")
  else match s.texts.get? doc.key with
    | none => .error .missing
    | some (_, text) => .ok text

/-- How many ticks reading a document takes. One that is unreadable fails at
once. -/
def ticks (s : Shelf) (doc : Path) : Nat :=
  if s.isBroken doc then 0 else (s.delays.get? doc.key).getD 0

/-- The shelf as a source. -/
def source (s : Shelf) : Source := ⟨s.documents, s.read⟩

end Shelf

end PcdCatalog

import PcdCatalog.Workspace

/-!
# Changes

Whatever notices changes of files reports `Event`s: a path, what happened, and
when. `coalesce` folds the events of one path into a single net change, and
`Workspace.process` routes each net change to an update.

The net of a removal followed by a creation is a modification, since the old
symbols have to go. For the same reason a creation is treated as a change
when the document already owns symbols, for instance because its removal came
in an earlier batch.
-/

namespace PcdCatalog

/-- What happened to a file. -/
inductive ChangeKind where
  | created
  | modified
  | deleted
deriving DecidableEq, Inhabited

namespace ChangeKind

/-- The word for a kind. -/
def name : ChangeKind → String
  | created => "created"
  | modified => "modified"
  | deleted => "deleted"

/-- The net change of two in a row. -/
def andThen : ChangeKind → ChangeKind → ChangeKind
  | _, deleted => deleted
  | created, modified => created
  | created, created => created
  | _, _ => modified

end ChangeKind

/-- Something happened to a path at a time. As a net change, the time is that of
the last event folded in. -/
structure Event where
  path : Path
  kind : ChangeKind
  time : Nat
deriving DecidableEq, Inhabited

namespace Event

/-- An event folded into the change of its path, which keeps its spelling. -/
def absorb (change e : Event) : Event :=
  { change with kind := change.kind.andThen e.kind, time := max change.time e.time }

/-- Fold one event into the changes so far. -/
def fold (changes : Table Path.Key Event) (e : Event) : Table Path.Key Event :=
  match changes.get? e.path.key with
  | none => changes.insert e.path.key e
  | some change => changes.insert e.path.key (change.absorb e)

/-- By time, then by path. -/
def before (a b : Event) : Bool :=
  a.time < b.time || (a.time == b.time && (compare a.path b.path).isLE)

/-- **One change per path.** Events count in the order of their times, equal
times in the order given; the changes come by time, then by path. -/
def coalesce (events : List Event) : List Event :=
  let inTime := events.mergeSort fun a b => a.time ≤ b.time
  (inTime.foldl fold ∅).values.mergeSort before

end Event

/-- What processing changes did, in numbers. -/
structure ChangeCounts where
  filesAdded : Nat := 0
  filesModified : Nat := 0
  filesDeleted : Nat := 0
  symbolsAdded : Nat := 0
  symbolsUpdated : Nat := 0
  symbolsRemoved : Nat := 0
  errors : Nat := 0
deriving DecidableEq, Inhabited

namespace ChangeCounts

/-- The counts of two batches together. -/
def add (a b : ChangeCounts) : ChangeCounts where
  filesAdded := a.filesAdded + b.filesAdded
  filesModified := a.filesModified + b.filesModified
  filesDeleted := a.filesDeleted + b.filesDeleted
  symbolsAdded := a.symbolsAdded + b.symbolsAdded
  symbolsUpdated := a.symbolsUpdated + b.symbolsUpdated
  symbolsRemoved := a.symbolsRemoved + b.symbolsRemoved
  errors := a.errors + b.errors

instance : Add ChangeCounts := ⟨add⟩

/-- How many files changed. -/
def totalFiles (c : ChangeCounts) : Nat := c.filesAdded + c.filesModified + c.filesDeleted

/-- Whether any file changed. -/
def hasChanges (c : ChangeCounts) : Bool :=
  c.filesAdded > 0 || c.filesModified > 0 || c.filesDeleted > 0

/-- The counts of one change. -/
def ofUpdate (kind : ChangeKind) (n : UpdateCounts) : ChangeCounts where
  filesAdded := if kind = .created then 1 else 0
  filesModified := if kind = .modified then 1 else 0
  filesDeleted := if kind = .deleted then 1 else 0
  symbolsAdded := n.added
  symbolsUpdated := n.updated
  symbolsRemoved := n.removed
  errors := n.errors

end ChangeCounts

/-- The update that a change calls for. -/
def ChangeKind.route (kind : ChangeKind) (owns : Bool) : Update :=
  match kind with
  | created => if owns then .changed else .created
  | modified => .changed
  | deleted => .deleted

namespace Workspace

/-- Follow one change. -/
def follow (w : Workspace) (s : Source) (e : Event) : Workspace × UpdateCounts :=
  w.update s (e.kind.route (w.index.owns e.path)) e.path

/-- One change of a batch, with the counts so far. -/
def followCounted (s : Source) (acc : Workspace × ChangeCounts) (e : Event) :
    Workspace × ChangeCounts :=
  let (w, n) := acc.1.follow s e
  (w, acc.2 + .ofUpdate e.kind n)

/-- **Follow a batch of changes**, in their order. -/
def process (w : Workspace) (s : Source) (changes : List Event) : Workspace × ChangeCounts :=
  changes.foldl (followCounted s) (w, {})

end Workspace

end PcdCatalog

import PcdCatalog.Workspace
import PcdCatalog.Lock

/-!
# Overlapping updates

Updates that are issued together overlap: each takes the lock of its document,
reads it, which may take some ticks, and then acts on the index in one go and
gives the lock back. Updates of different documents thus take effect in the
order in which their reads end; of updates that are ready in the same tick
the one issued first acts first, and whoever waited for a lock starts in the
tick in which it is given back.

`Schedule.pass` lets every update act that can, at one moment; `overlap`
issues the updates and then goes from one moment at which a read ends to the
next. Each such moment completes an update, so their number bounds the run.
-/

namespace PcdCatalog

/-- An update that was issued: its number in the order of issue, what it is and
for which document. -/
structure Task where
  id : Nat
  update : Update
  document : Path

/-- A read under way: whose it is, what it will bring, and when. -/
structure Reading where
  id : Nat
  found : Found
  due : Nat

/-- **The state of updates under way.** -/
structure Schedule where
  index : Index
  locks : Locks Nat
  now : Nat
  readings : List Reading
  /-- The counts of the completed updates, by their numbers. -/
  done : List (Nat × UpdateCounts)

namespace Schedule

/-- The read of a task that is under way. -/
def reading? (s : Schedule) (t : Task) : Option Reading :=
  s.readings.find? fun r => r.id == t.id

/-- Whether a task is complete. -/
def isDone (s : Schedule) (t : Task) : Bool := s.done.any fun d => d.1 == t.id

/-- Start reading, if the task has the lock and has not started. -/
def start (x : Extractor) (src : Source) (ticks : Path → Nat) (s : Schedule) (t : Task) :
    Schedule :=
  if s.isDone t || (s.reading? t).isSome || !s.locks.isHeldBy t.id then s
  else
    let wait := if t.update = .deleted then 0 else ticks t.document
    { s with readings :=
        s.readings ++ [⟨t.id, t.update.look x src t.document, s.now + wait⟩] }

/-- Give the lock of a completed task back. A removal also forgets idle
locks. -/
def unlock (l : Locks Nat) (t : Task) : Locks Nat :=
  let l := l.release t.id
  if t.update = .deleted then l.prune else l

/-- Act on the index, if the read has ended. -/
def finish (s : Schedule) (t : Task) : Schedule :=
  match s.reading? t with
  | none => s
  | some r =>
    if s.now < r.due then s
    else
      let (i, n) := t.update.apply t.document r.found s.index
      { s with
        index := i
        locks := unlock s.locks t
        readings := s.readings.filter fun r => r.id != t.id
        done := s.done ++ [(t.id, n)] }

/-- Let every task act that can, in the order of issue. -/
def pass (x : Extractor) (src : Source) (ticks : Path → Nat) (tasks : List Task)
    (s : Schedule) : Schedule :=
  tasks.foldl (fun s t => (s.start x src ticks t).finish t) s

/-- The next moment at which a read ends. -/
def nextDue? (s : Schedule) : Option Nat := (s.readings.map Reading.due).min?

/-- Go from moment to moment until no read is under way. -/
def run (x : Extractor) (src : Source) (ticks : Path → Nat) (tasks : List Task) :
    Nat → Schedule → Schedule
  | 0, s => s
  | fuel + 1, s =>
    match s.nextDue? with
    | none => s
    | some due => run x src ticks tasks fuel ({ s with now := due }.pass x src ticks tasks)

/-- All tasks ask for their locks, in the order of issue. -/
def issue (i : Index) (tasks : List Task) : Schedule where
  index := i
  locks := tasks.foldl (fun l t => l.acquire t.id t.document) .empty
  now := 0
  readings := []
  done := []

end Schedule

namespace Workspace

/-- The tasks of updates issued together. -/
def tasks (updates : List (Update × Path)) : List Task :=
  updates.zipIdx.map fun e => ⟨e.2, e.1.1, e.1.2⟩

/-- The schedule in which all updates are complete. -/
def schedule (w : Workspace) (src : Source) (ticks : Path → Nat)
    (updates : List (Update × Path)) : Schedule :=
  let ts := tasks updates
  let s := (Schedule.issue w.index ts).pass w.extractor src ticks ts
  s.run w.extractor src ticks ts ts.length

/-- **Issue updates together**: the workspace when all are complete, and the
counts of each. -/
def overlap (w : Workspace) (src : Source) (ticks : Path → Nat)
    (updates : List (Update × Path)) : Workspace × List UpdateCounts :=
  let s := w.schedule src ticks updates
  ({ w with index := s.index },
    (tasks updates).map fun t =>
      ((s.done.find? fun d => d.1 == t.id).map Prod.snd).getD {})

end Workspace

end PcdCatalog

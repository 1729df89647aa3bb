import PcdCatalog.Change
import PcdCatalog.Walk

/-!
# Watching

While a workspace is watched, whatever happens below its root is noticed. The
notices of a file wait in a queue of their own for a moment, because much of
what happens cancels out (`Queues`):

* a file that appears and goes away again was never there;
* what happens to a file right after it appeared is part of its appearance;
* a file that is given another name takes its queue along, and a chain of
  names is one change of name;
* what is replaced by a file with a new name counts as removed.

When the moment is over the notices become events (`Notice.events`), judged by
what is on the disk then: a change to a file that is not there any more is a
removal. Rules about hidden and ignored files do not count here, only whether
a path is that of a declaration file.
-/

namespace PcdCatalog

/-- Something that a user does to a disk. -/
inductive Action where
  /-- Put something at a path, with the directories above it. -/
  | put (path : Path) (node : Inode)
  | remove (path : Path)
  | rename (source target : Path)

/-- Whether two things at a place are the same. -/
def Inode.same : Inode → Inode → Bool
  | .file a, .file b => a == b
  | .link a, .link b => a == b
  | .directory, .directory => true
  | _, _ => false

/-- Actions that make one disk into another: what is gone is removed, and what is
new or different is put. -/
def Action.between (before after : Disk) : List Action :=
  let gone := before.nodes.keys.filter fun l => !after.nodes.contains l
  let changed := after.nodes.toList.filter fun e =>
    !((before.nodes.get? e.1).any fun node => node.same e.2)
  gone.map (fun l => .remove l.path) ++ changed.map fun e => .put e.1.path e.2

/-- What is noticed about a place. -/
inductive Signal where
  | created
  | modified
  | removed
  /-- It has this place instead of another one. -/
  | renamed (source : Location)
  | movedOut
  | movedIn
deriving DecidableEq, Inhabited

/-- A signal about a place, with its time. -/
structure Notice where
  signal : Signal
  place : Location
  time : Nat
deriving DecidableEq, Inhabited

/-! ## Queues -/

/-- The notices of a place, oldest first. -/
abbrev Queue := List Notice

namespace Queue

/-- Whether a queue begins with the appearance of its file. -/
def wasCreated : Queue → Bool
  | ⟨.created, _, _⟩ :: _ => true
  | ⟨.movedIn, _, _⟩ :: _ => true
  | _ => false

/-- Whether a queue begins with the disappearance of its file. -/
def wasRemoved : Queue → Bool
  | ⟨.removed, _, _⟩ :: _ => true
  | ⟨.movedOut, _, _⟩ :: _ => true
  | _ => false

/-- The change of name in a queue: where the file had been, and when it went. -/
def origin? : Queue → Option (Location × Nat)
  | [] => none
  | ⟨.renamed source, _, time⟩ :: _ => some (source, time)
  | _ :: q => origin? q

/-- A queue without the first change of name. -/
def withoutRename : Queue → Queue
  | [] => []
  | n :: q =>
    match n.signal with
    | .renamed _ => q
    | _ => n :: withoutRename q

end Queue

/-- **The queues of all places.** -/
abbrev Queues := Table Location Queue

namespace Queues

/-- Add a notice. Nothing that happens right after a file appeared is worth
another one. -/
def push (qs : Queues) (n : Notice) : Queues :=
  match qs.get? n.place with
  | none => qs.insert n.place [n]
  | some q =>
    if Queue.wasCreated q && (n.signal = .created || n.signal = .modified) then qs
    else qs.insert n.place (q ++ [n])

/-- A file goes away: all that was known of it is settled. -/
def pushRemoved (qs : Queues) (l : Location) (time : Nat) : Queues :=
  let qs : Queues := qs.filter fun p _ => p = l || !Location.isBelow p l
  match qs.get? l with
  | none => qs.push ⟨.removed, l, time⟩
  | some q => if Queue.wasCreated q then qs.erase l else qs.insert l [⟨.removed, l, time⟩]

/-- A file gets another name and takes its queue along. -/
def pushRenamed (qs : Queues) (source target : Location) (time : Nat) : Queues :=
  let queue : Queue := (qs.get? source).getD []
  let (original, since) := queue.origin?.getD (source, time)
  let queue := queue.withoutRename
  let kept := if queue.wasRemoved then queue.take 1 else []
  let queue : Queue := (queue.drop kept.length).map fun n => { n with place := target }
  let queue := if queue.wasCreated then queue else ⟨.renamed original, target, since⟩ :: queue
  let qs := kept.foldl (fun qs n => qs.insert n.place [n]) (qs.erase source)
  let queue := match qs.get? target with
    | some replaced => if Queue.wasCreated replaced then queue else ⟨.removed, target, since⟩ :: queue
    | none => queue
  qs.insert target queue

end Queues

/-! ## Noticing -/

/-- **A watched disk.** -/
structure Watch where
  disk : Disk
  /-- Where the paths of actions start. -/
  cwd : Location
  /-- What is below here is watched. -/
  root : Location
  queues : Queues
  time : Nat

namespace Watch

/-- Begin to watch. -/
def start (d : Disk) (cwd root : Location) : Watch := ⟨d, cwd, root, ∅, 0⟩

/-- Whether something at a place is noticed. -/
def notices (w : Watch) (l : Location) : Bool :=
  w.root.length < l.length && Location.isBelow l w.root

/-- The disk changes, and something is noticed at a place. -/
def note (w : Watch) (d : Disk) (l : Location) (change : Queues → Queues) : Watch :=
  { w with
    disk := d
    queues := if w.notices l then change w.queues else w.queues
    time := w.time + 1 }

/-- The place where putting something takes effect: behind a link, unless a link
is put. -/
def destination (w : Watch) (d : Disk) (path : Path) (node : Inode) : Except DiskFault Location :=
  match node with
  | .link _ => d.locate { follow := false } w.cwd path
  | _ => d.resolve w.cwd path

/-- **Do something.** What fails changes nothing and is not noticed. -/
def act (w : Watch) : Action → Watch
  | .put path node =>
    match w.disk.place w.cwd path node with
    | .error _ => w
    | .ok d =>
      match w.destination d path node with
      | .error _ => w
      | .ok l =>
        let signal : Signal := if (w.disk.at? l).isSome then .modified else .created
        w.note d l fun qs => qs.push ⟨signal, l, w.time⟩
  | .remove path =>
    match w.disk.locate { follow := false } w.cwd path, w.disk.remove w.cwd path with
    | .ok l, .ok d => w.note d l fun qs => qs.pushRemoved l w.time
    | _, _ => w
  | .rename source target =>
    match w.disk.locate { follow := false } w.cwd source,
        w.disk.locate { follow := false, create := true } w.cwd target,
        w.disk.rename w.cwd source target with
    | .ok a, .ok b, .ok d =>
      if a = b then w
      else if w.notices a && w.notices b then
        w.note d b fun qs => qs.pushRenamed a b w.time
      else if w.notices a then w.note d a fun qs => qs.push ⟨.movedOut, a, w.time⟩
      else w.note d b fun qs => qs.push ⟨.movedIn, b, w.time⟩
    | _, _, _ => w

end Watch

/-! ## Events -/

namespace Notice

/-- The places that a notice is about. -/
def places (n : Notice) : List Location :=
  match n.signal with
  | .renamed source => [source, n.place]
  | _ => [n.place]

/-- What happened to a place, as the disk shows it now. -/
def kind (d : Disk) (n : Notice) (l : Location) : ChangeKind :=
  match n.signal with
  | .created => .created
  | .removed => .deleted
  | _ => if d.present [] l.path then .modified else .deleted

/-- **The events of a notice**: those about declaration files. -/
def events (d : Disk) (s : Selection) (n : Notice) : List Event :=
  (n.places.filter fun l => !d.isDirectory [] l.path && s.selects l.path).map
    fun l => ⟨l.path, n.kind d l, n.time⟩

end Notice

/-- **Net changes since watching began.** -/
def Watch.changes (w : Watch) (s : Selection) : List Event :=
  Event.coalesce (w.queues.values.flatten.flatMap (Notice.events w.disk s))

/-- Actions on a watched disk, and what a workspace makes of them. -/
def Workspace.watched (w : Workspace) (s : Selection) (d : Disk) (cwd root : Location)
    (actions : List Action) (user : Walk.UserRules := fun _ _ => none) :
    Workspace × ChangeCounts × Disk :=
  let watch := actions.foldl Watch.act (.start d cwd root)
  let (w, counts) := w.process (s.source watch.disk cwd user) (watch.changes s)
  (w, counts, watch.disk)

end PcdCatalog

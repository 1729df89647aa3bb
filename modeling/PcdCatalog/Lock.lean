import PcdCatalog.Path
import PcdCatalog.Table

/-!
# Document locks

Updates of one document run one at a time, in the order in which they asked
for it; updates of different documents do not wait for each other. `Locks`
keeps one lock per document. A lock is made when it is first asked for and is
kept until `prune` finds that nobody holds it or waits for it.

A `Claim` remembers which lock it is for, so that two claims exclude each
other because of the lock and not because of the name of the document. That
claims of one document always share one lock is a property of the operations.
-/

namespace PcdCatalog

/-- A request for a lock that has not been given back. -/
structure Claim (η : Type) where
  handle : η
  document : Path
  lock : Nat

/-- **One lock per document.** -/
structure Locks (η : Type) where
  /-- The lock of each document that has one. -/
  lockOf : Table Path.Key Nat
  /-- The live claims, earliest first. -/
  claims : List (Claim η)
  /-- The number that the next new lock gets. -/
  next : Nat

namespace Locks

variable {η : Type}

/-- No lock has been made yet. -/
def empty : Locks η := ⟨∅, [], 0⟩

instance : Inhabited (Locks η) := ⟨empty⟩

/-- Ask for the lock of a document. -/
def acquire (l : Locks η) (handle : η) (doc : Path) : Locks η :=
  match l.lockOf.get? doc.key with
  | some lock => { l with claims := l.claims ++ [⟨handle, doc, lock⟩] }
  | none =>
    { lockOf := l.lockOf.insert doc.key l.next
      claims := l.claims ++ [⟨handle, doc, l.next⟩]
      next := l.next + 1 }

/-- Give a lock back, or stop waiting for it. -/
def release [DecidableEq η] (l : Locks η) (handle : η) : Locks η :=
  { l with claims := l.claims.filter fun c => c.handle ≠ handle }

/-- Whether somebody holds a lock or waits for it. -/
def inUse (l : Locks η) (lock : Nat) : Bool := l.claims.any fun c => c.lock == lock

/-- Forget the locks that nobody holds or waits for. -/
def prune (l : Locks η) : Locks η :=
  { l with lockOf := l.lockOf.filter fun _ lock => l.inUse lock }

/-- Who holds a lock: the earliest of its live claims. -/
def holder? (l : Locks η) (lock : Nat) : Option η :=
  (l.claims.find? fun c => c.lock == lock).map Claim.handle

/-- Whether a claim holds its lock. -/
def holds [DecidableEq η] (l : Locks η) (c : Claim η) : Bool :=
  l.holder? c.lock = some c.handle

/-- Whether a handle holds a lock. -/
def isHeldBy [DecidableEq η] (l : Locks η) (handle : η) : Bool :=
  l.claims.any fun c => c.handle = handle && l.holds c

/-- How many locks are kept. -/
def size (l : Locks η) : Nat := l.lockOf.size

/-- Whether no lock is kept. -/
def isEmpty (l : Locks η) : Bool := l.lockOf.isEmpty

end Locks

end PcdCatalog

import Mathlib.Data.List.Dedup
import Mathlib.Data.List.Nodup
import Mathlib.Data.List.Perm.Subperm
import PcdCatalog.Proofs.LockLaws

/-!
# A family of locks serves its documents

Handles come and go: they ask for the lock of a document, give it back or
stop waiting for it, and every now and then the locks that nobody needs are
forgotten. This module says what the family of locks owes them after any such
steps (`Locks.Serves`): of the live handles of one document the earliest holds
the lock and the others wait, handles of different documents never wait for
each other, and as many locks are kept as there are documents with a live
handle, or more until idle ones are forgotten.

Who is live, and since when, is read off the steps alone (`Step.live`), so that
the locks are held against something they have no part in. What ties the two
together is that the queue of a coherent family is that list
(`Coherent.run`); forgetting a lock is harmless because one that has a claim
is in use, whoever else stopped waiting in the meantime.
-/

namespace PcdCatalog

namespace Locks

variable {η : Type}

/-! ## Steps -/

/-- What can happen to a family of locks. -/
inductive Step (η : Type) where
  /-- A handle asks for the lock of a document. -/
  | acquire (handle : η) (document : Path)
  /-- A handle gives its lock back, or stops waiting for it. -/
  | release (handle : η)
  /-- The idle locks are forgotten. -/
  | prune

section

variable [DecidableEq η]

/-- The locks after a step. -/
def step (l : Locks η) : Step η → Locks η
  | .acquire handle doc => l.acquire handle doc
  | .release handle => l.release handle
  | .prune => l.prune

/-- The locks after some steps. -/
def run (l : Locks η) (steps : List (Step η)) : Locks η := steps.foldl step l

/-- **The live handles after a step**, each with its document, earliest first. -/
def Step.live (live : List (η × Path)) : Step η → List (η × Path)
  | .acquire handle doc => live ++ [(handle, doc)]
  | .release handle => live.filter fun e => e.1 ≠ handle
  | .prune => live

/-- The live handles after some steps. -/
def liveAfter (live : List (η × Path)) (steps : List (Step η)) : List (η × Path) :=
  steps.foldl Step.live live

/-- Only a handle that is not live asks for a lock. -/
def Step.Fresh (live : List (η × Path)) : Step η → Prop
  | .acquire handle _ => handle ∉ live.map Prod.fst
  | .release _ => True
  | .prune => True

instance (live : List (η × Path)) : (a : Step η) → Decidable (a.Fresh live)
  | .acquire handle _ => inferInstanceAs (Decidable (handle ∉ live.map Prod.fst))
  | .release _ => inferInstanceAs (Decidable True)
  | .prune => inferInstanceAs (Decidable True)

/-- Every handle that asks for a lock is fresh at that moment. -/
def Fresh : List (η × Path) → List (Step η) → Prop
  | _, [] => True
  | live, a :: rest => a.Fresh live ∧ Fresh (a.live live) rest

instance decidableFresh : (live : List (η × Path)) → (steps : List (Step η)) →
    Decidable (Fresh live steps)
  | _, [] => inferInstanceAs (Decidable True)
  | live, a :: rest =>
    have _ := decidableFresh (a.live live) rest
    inferInstanceAs (Decidable (_ ∧ _))

/-! ## What the locks owe -/

/-- A handle waits for another one: both have a claim on one lock, and it does
not hold it. -/
def WaitsFor (l : Locks η) (handle other : η) : Prop :=
  l.isHeldBy handle = false ∧ ∃ c ∈ l.claims, ∃ d ∈ l.claims,
    c.handle = handle ∧ d.handle = other ∧ c.lock = d.lock

/-- The documents of the live handles, each once. -/
def documentsOf (live : List (η × Path)) : List Path.Key := (live.map fun e => e.2.key).dedup

/-- **A family of locks serves the live handles.** -/
structure Serves (live : List (η × Path)) (l : Locks η) : Prop where
  /-- The claims are those of the live handles, in the order of asking. -/
  claims : l.queue = live
  /-- If a document has a live handle, exactly one holds its lock, and it is the
  earliest of them. -/
  held : ∀ doc : Path, (∃ e ∈ live, e.2.same doc) →
    ∃ first, live.find? (fun e => e.2.same doc) = some first
      ∧ ∀ e ∈ live, e.2.same doc → (l.isHeldBy e.1 = true ↔ e = first)
  /-- Handles of different documents do not wait for each other. -/
  apart : ∀ e ∈ live, ∀ e' ∈ live, ¬ e.2.same e'.2 → ¬ l.WaitsFor e.1 e'.1
  /-- Handles of one document share one lock. -/
  shared : ∀ c ∈ l.claims, ∀ d ∈ l.claims, c.document.same d.document → c.lock = d.lock
  /-- The lock of a document with a live handle is not forgotten. -/
  kept : ∀ e ∈ live, ∃ lock, l.lockOf.get? e.2.key = some lock
    ∧ l.prune.lockOf.get? e.2.key = some lock
  /-- There are at least as many locks as documents with a live handle. -/
  enough : (documentsOf live).length ≤ l.size
  /-- Once idle locks are forgotten there are exactly as many. -/
  tight : l.prune.size = (documentsOf live).length

/-! ## Counting locks -/

omit [DecidableEq η] in
/-- A document with a claim has a lock. -/
theorem Coherent.documentsOf_subset {l : Locks η} (hl : l.Coherent) :
    documentsOf l.queue ⊆ l.lockOf.keys := by
  intro k hk
  obtain ⟨e, he, rfl⟩ := List.mem_map.1 (List.mem_dedup.1 hk)
  obtain ⟨c, hc, rfl⟩ := List.mem_map.1 he
  exact Table.mem_keys.2 ⟨c.lock, hl.known c hc⟩

omit [DecidableEq η] in
/-- A lock that is not forgotten is that of a document with a claim. -/
theorem Coherent.keys_prune_subset {l : Locks η} (hl : l.Coherent) :
    l.prune.lockOf.keys ⊆ documentsOf l.queue := by
  intro k hk
  obtain ⟨lock, hlock⟩ := Table.mem_keys.1 hk
  have hkept : (l.lockOf.filter fun _ lock => l.inUse lock).get? k = some lock := hlock
  rw [Table.get?_filter, Option.filter_eq_some_iff] at hkept
  obtain ⟨hget, huse⟩ := hkept
  obtain ⟨c, hc, hlc⟩ := List.any_eq_true.1 huse
  have hknown := hl.known c hc
  rw [beq_iff_eq.1 hlc] at hknown
  rw [hl.apart k c.document.key lock hget hknown]
  exact List.mem_dedup.2 (List.mem_map.2 ⟨_, List.mem_map_of_mem hc, rfl⟩)

omit [DecidableEq η] in
/-- **There is a lock for every document with a claim.** -/
theorem Coherent.length_documentsOf_le {l : Locks η} (hl : l.Coherent) :
    (documentsOf l.queue).length ≤ l.size := by
  have hlen := ((List.nodup_dedup _).subperm hl.documentsOf_subset).length_le
  rwa [Table.keys, List.length_map] at hlen

omit [DecidableEq η] in
/-- **After idle locks are forgotten there is none beyond these.** -/
theorem Coherent.size_prune {l : Locks η} (hl : l.Coherent) :
    l.prune.size = (documentsOf l.queue).length := by
  refine Nat.le_antisymm ?_ hl.prune.length_documentsOf_le
  have hlen := (l.prune.lockOf.nodup_keys.subperm hl.keys_prune_subset).length_le
  rwa [Table.keys, List.length_map] at hlen

/-! ## Every reachable state -/

/-- **A coherent family serves its claims.** -/
theorem Coherent.serves {l : Locks η} (hl : l.Coherent) (hn : (l.queue.map Prod.fst).Nodup) :
    l.Serves l.queue where
  claims := rfl
  held := by
    intro doc hex
    obtain ⟨first, hfirst⟩ := Option.isSome_iff_exists.1 (List.find?_isSome.2 hex)
    refine ⟨first, hfirst, fun e he hdoc => ?_⟩
    -- documents that are the same as one document are found at the same place
    have hcongr : l.queue.find? (fun e' => e'.2.same e.2) = some first := by
      rw [← hfirst]
      refine List.find?_congr fun e' _ => ?_
      rw [Bool.eq_iff_iff, Path.same_iff, Path.same_iff, Path.same_iff.1 hdoc]
    rw [hl.isHeldBy_iff hn he, hcongr, Option.some.injEq]
    exact eq_comm
  apart := by
    rintro e he e' he' hne ⟨-, c, hc, d, hd, hce, hde, hlock⟩
    have hc' := List.inj_on_of_nodup_map hn (List.mem_map_of_mem hc) he hce
    have hd' := List.inj_on_of_nodup_map hn (List.mem_map_of_mem hd) he' hde
    refine hne ?_
    rw [← hc', ← hd']
    exact (hl.lock_eq_iff hc hd).1 hlock
  shared := fun c hc d hd h => (hl.lock_eq_iff hc hd).2 h
  kept := by
    intro e he
    obtain ⟨c, hc, rfl⟩ := List.mem_map.1 he
    exact ⟨c.lock, hl.known c hc, hl.prune.known c hc⟩
  enough := hl.length_documentsOf_le
  tight := hl.size_prune

/-- One step keeps a family coherent, its queue that of the live handles, and
their names distinct. -/
theorem Coherent.step {l : Locks η} (hl : l.Coherent) (hn : (l.queue.map Prod.fst).Nodup)
    {a : Step η} (ha : a.Fresh l.queue) :
    (l.step a).Coherent ∧ (l.step a).queue = a.live l.queue
      ∧ ((l.step a).queue.map Prod.fst).Nodup := by
  cases a with
  | acquire handle doc =>
    refine ⟨hl.acquire handle doc, queue_acquire l handle doc, ?_⟩
    show ((l.acquire handle doc).queue.map Prod.fst).Nodup
    rw [queue_acquire, List.map_append]
    exact hn.append (List.nodup_singleton handle) (List.disjoint_singleton.2 ha)
  | release handle =>
    refine ⟨hl.release handle, queue_release l handle, ?_⟩
    show ((l.release handle).queue.map Prod.fst).Nodup
    rw [queue_release]
    exact hn.sublist (List.filter_sublist.map Prod.fst)
  | prune => exact ⟨hl.prune, queue_prune l, hn⟩

/-- **What any steps leave**: a coherent family whose queue are the live
handles. -/
theorem Coherent.run {steps : List (Step η)} {l : Locks η} (hl : l.Coherent)
    (hn : (l.queue.map Prod.fst).Nodup) (h : Fresh l.queue steps) :
    (l.run steps).Coherent ∧ (l.run steps).queue = liveAfter l.queue steps
      ∧ ((l.run steps).queue.map Prod.fst).Nodup := by
  induction steps generalizing l with
  | nil => exact ⟨hl, rfl, hn⟩
  | cons a steps ih =>
    obtain ⟨hco, hqueue, hnodup⟩ := hl.step hn h.1
    have hrest : Fresh (l.step a).queue steps := hqueue ▸ h.2
    obtain ⟨hco', hqueue', hnodup'⟩ := ih hco hnodup hrest
    refine ⟨hco', hqueue'.trans ?_, hnodup'⟩
    rw [hqueue]
    rfl

/-- **Document locks are a family of first-come first-served locks**, whatever
handles ask for them, give them back or stop waiting, and whenever idle locks
are forgotten. -/
theorem run_serves (steps : List (Step η)) (h : Fresh [] steps) :
    ((empty : Locks η).run steps).Serves (liveAfter [] steps) := by
  obtain ⟨hco, hqueue, hnodup⟩ := coherent_empty.run (l := (empty : Locks η)) List.nodup_nil h
  rw [queue_empty] at hqueue
  rw [← hqueue]
  exact hco.serves hnodup

end

/-- Two handles wait behind a third under another spelling; one of them gives
up in mid-queue, the lock of a document is forgotten and made again, and idle
locks are forgotten while the last handle still waits. -/
def comingAndGoing : List (Step Nat) :=
  [.acquire 0 ⟨"a.dec"⟩, .acquire 1 ⟨"a.dec/"⟩, .acquire 2 ⟨"./b.dec"⟩, .acquire 3 ⟨"a.dec"⟩,
    .release 1, .release 2, .prune, .acquire 2 ⟨"./b.dec"⟩, .release 0, .acquire 4 ⟨"a.dec"⟩,
    .prune]

theorem run_serves_comingAndGoing :
    Fresh [] comingAndGoing
      ∧ ((empty : Locks Nat).run comingAndGoing).Serves
        [(3, ⟨"a.dec"⟩), (2, ⟨"./b.dec"⟩), (4, ⟨"a.dec"⟩)] :=
  ⟨by decide, run_serves comingAndGoing (by decide)⟩

end Locks

end PcdCatalog

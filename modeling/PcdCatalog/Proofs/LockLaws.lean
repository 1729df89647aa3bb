import Mathlib.Data.List.Find
import Mathlib.Data.List.Nodup
import PcdCatalog.Lock
import PcdCatalog.Proofs.TableLaws

/-!
# Laws of document locks

A claim excludes others through the number of its lock, and the operations see
to it that this comes to the same as excluding by document. `Locks.Coherent`
says what makes it so: every claim has the lock that its document has now, and
no two documents have one lock. Asking for a lock, giving one back and
forgetting idle locks all keep it – the last because a lock with a claim is
not idle.

Seen from outside a family of locks is then one queue, of handles with their
documents (`Locks.queue`), and a handle holds its lock exactly when it is the
first of its document in the queue (`isHeldBy_iff`).
-/

namespace PcdCatalog

namespace Locks

variable {η : Type}

/-! ## One lock per document -/

/-- **Claims of one document share its lock**, and different documents never
share one. -/
structure Coherent (l : Locks η) : Prop where
  /-- A claim is for the lock that its document has. -/
  known : ∀ c ∈ l.claims, l.lockOf.get? c.document.key = some c.lock
  /-- No two documents have one lock. -/
  apart : ∀ k k' lock, l.lockOf.get? k = some lock → l.lockOf.get? k' = some lock → k = k'
  /-- New locks are new. -/
  fresh : ∀ k lock, l.lockOf.get? k = some lock → lock < l.next

theorem coherent_empty : (empty : Locks η).Coherent where
  known := fun c hc => absurd hc List.not_mem_nil
  apart := fun k k' lock h => absurd h (by simp [empty, EmptyCollection.emptyCollection])
  fresh := fun k lock h => absurd h (by simp [empty, EmptyCollection.emptyCollection])

/-- The lock of each document after one was asked for. -/
theorem get?_lockOf_acquire (l : Locks η) (handle : η) (doc : Path) (k : Path.Key) :
    (l.acquire handle doc).lockOf.get? k
      = if k = doc.key then some ((l.lockOf.get? doc.key).getD l.next) else l.lockOf.get? k := by
  unfold acquire
  cases h : l.lockOf.get? doc.key with
  | some lock =>
    show l.lockOf.get? k = if k = doc.key then some lock else l.lockOf.get? k
    split
    next hk => rw [hk, h]
    next => rfl
  | none =>
    show (l.lockOf.insert doc.key l.next).get? k = _
    rw [Table.get?_insert]
    by_cases hk : k = doc.key
    · rw [if_pos hk, if_pos (by rw [hk]; exact Std.ReflCmp.compare_self)]
      rfl
    · rw [if_neg hk, if_neg fun he => hk (Std.LawfulEqCmp.eq_of_compare he)]

/-- The claim that asking for a lock adds. -/
theorem claims_acquire (l : Locks η) (handle : η) (doc : Path) :
    (l.acquire handle doc).claims
      = l.claims ++ [⟨handle, doc, (l.lockOf.get? doc.key).getD l.next⟩] := by
  unfold acquire
  cases l.lockOf.get? doc.key <;> rfl

theorem next_acquire (l : Locks η) (handle : η) (doc : Path) :
    (l.acquire handle doc).next
      = if (l.lockOf.get? doc.key).isSome then l.next else l.next + 1 := by
  unfold acquire
  cases l.lockOf.get? doc.key <;> rfl

theorem Coherent.acquire {l : Locks η} (hl : l.Coherent) (handle : η) (doc : Path) :
    (l.acquire handle doc).Coherent where
  known := by
    intro c hc
    rw [claims_acquire, List.mem_append, List.mem_singleton] at hc
    rw [get?_lockOf_acquire]
    rcases hc with hc | rfl
    · split
      next hk => rw [← hk, hl.known c hc]; rfl
      next => exact hl.known c hc
    · exact if_pos rfl
  apart := by
    -- a document with the lock of `doc` had it before, and so did `doc`
    have hother : ∀ k lock, k ≠ doc.key → l.lockOf.get? k = some lock →
        (l.lockOf.get? doc.key).getD l.next ≠ lock := by
      intro k lock hk hlock he
      cases hd : l.lockOf.get? doc.key with
      | none =>
        rw [hd] at he
        exact absurd he (Nat.ne_of_gt (hl.fresh k lock hlock))
      | some lock' =>
        rw [hd] at he
        have he' : lock' = lock := he
        exact hk (hl.apart k doc.key lock hlock (he' ▸ hd))
    intro k k' lock h h'
    rw [get?_lockOf_acquire] at h h'
    split at h <;> split at h'
    next hk hk' => rw [hk, hk']
    next hk hk' => exact absurd (Option.some.inj h) (hother k' lock hk' h')
    next hk hk' => exact absurd (Option.some.inj h') (hother k lock hk h)
    next => exact hl.apart k k' lock h h'
  fresh := by
    intro k lock h
    rw [get?_lockOf_acquire] at h
    rw [next_acquire]
    cases hd : l.lockOf.get? doc.key with
    | none =>
      rw [hd] at h
      show lock < l.next + 1
      split at h
      next => exact Nat.lt_succ_of_le (Nat.le_of_eq (Option.some.inj h).symm)
      next => exact Nat.lt_succ_of_lt (hl.fresh k lock h)
    | some lock' =>
      rw [hd] at h
      show lock < l.next
      split at h
      next => exact hl.fresh doc.key lock (hd.trans h)
      next => exact hl.fresh k lock h

theorem Coherent.release [DecidableEq η] {l : Locks η} (hl : l.Coherent) (handle : η) :
    (l.release handle).Coherent :=
  ⟨fun c hc => hl.known c (List.mem_filter.1 hc).1, hl.apart, hl.fresh⟩

theorem Coherent.prune {l : Locks η} (hl : l.Coherent) : l.prune.Coherent where
  known := by
    intro c hc
    show (l.lockOf.filter _).get? _ = _
    rw [Table.get?_filter, hl.known c hc]
    refine Option.filter_some_pos (List.any_eq_true.2 ⟨c, hc, ?_⟩)
    exact beq_self_eq_true c.lock
  apart := by
    intro k k' lock h h'
    exact hl.apart k k' lock (mem_of_prune h) (mem_of_prune h')
  fresh := fun k lock h => hl.fresh k lock (mem_of_prune h)
where
  /-- What is kept was there. -/
  mem_of_prune {l : Locks η} {k : Path.Key} {lock : Nat}
      (h : l.prune.lockOf.get? k = some lock) : l.lockOf.get? k = some lock := by
    have h' : (l.lockOf.filter fun _ lock => l.inUse lock).get? k = some lock := h
    rw [Table.get?_filter] at h'
    exact (Option.filter_eq_some_iff.1 h').1

/-- **Two claims are for one lock exactly when they are for one document.** -/
theorem Coherent.lock_eq_iff {l : Locks η} (hl : l.Coherent) {c d : Claim η} (hc : c ∈ l.claims)
    (hd : d ∈ l.claims) : c.lock = d.lock ↔ c.document.same d.document = true := by
  rw [Path.same_iff]
  constructor
  · intro h
    exact hl.apart _ _ c.lock (hl.known c hc) (h ▸ hl.known d hd)
  · intro h
    have hk := hl.known c hc
    rw [h, hl.known d hd] at hk
    exact (Option.some.inj hk).symm

/-! ## The queue -/

/-- **Who holds or waits for the lock of which document**, earliest first. -/
def queue (l : Locks η) : List (η × Path) := l.claims.map fun c => (c.handle, c.document)

@[simp] theorem queue_empty : (empty : Locks η).queue = [] := rfl

@[simp] theorem queue_acquire (l : Locks η) (handle : η) (doc : Path) :
    (l.acquire handle doc).queue = l.queue ++ [(handle, doc)] := by
  unfold queue
  rw [claims_acquire, List.map_append]
  rfl

@[simp] theorem queue_release [DecidableEq η] (l : Locks η) (handle : η) :
    (l.release handle).queue = l.queue.filter fun e => e.1 ≠ handle := by
  unfold queue release
  rw [List.filter_map]
  rfl

@[simp] theorem queue_prune (l : Locks η) : l.prune.queue = l.queue := rfl

/-- The first claim of a lock is the first of its document. -/
theorem Coherent.find?_lock {l : Locks η} (hl : l.Coherent) {c : Claim η} (hc : c ∈ l.claims) :
    l.claims.find? (fun d => d.lock == c.lock)
      = l.claims.find? (fun d => d.document.same c.document) := by
  refine List.find?_congr fun d hd => ?_
  rw [Bool.eq_iff_iff, beq_iff_eq]
  exact hl.lock_eq_iff hd hc

/-- **A handle holds its lock exactly when it is the first of its document in
the queue.** -/
theorem Coherent.isHeldBy_iff [DecidableEq η] {l : Locks η} (hl : l.Coherent)
    (hn : (l.queue.map Prod.fst).Nodup) {handle : η} {doc : Path} (hmem : (handle, doc) ∈ l.queue) :
    l.isHeldBy handle = true
      ↔ l.queue.find? (fun e => e.2.same doc) = some (handle, doc) := by
  have hqueue : l.queue.find? (fun e => e.2.same doc)
      = (l.claims.find? fun c => c.document.same doc).map fun c => (c.handle, c.document) := by
    unfold queue
    rw [List.find?_map]
    rfl
  unfold isHeldBy
  rw [List.any_eq_true, hqueue]
  constructor
  · rintro ⟨c, hc, hholds⟩
    rw [Bool.and_eq_true, decide_eq_true_eq] at hholds
    obtain ⟨rfl, hholds⟩ := hholds
    have hdoc : (c.handle, c.document) = (c.handle, doc) :=
      List.inj_on_of_nodup_map hn (List.mem_map_of_mem hc) hmem rfl
    obtain ⟨d, hfirst, hd⟩ := Option.map_eq_some_iff.1 (of_decide_eq_true hholds)
    have hdc : d = c := by
      unfold queue at hn
      rw [List.map_map] at hn
      exact List.inj_on_of_nodup_map hn (List.mem_of_find?_eq_some hfirst) hc hd
    rw [← (Prod.mk.inj hdoc).2, ← hl.find?_lock hc, hfirst, hdc]
    rfl
  · intro h
    obtain ⟨c, hfirst, hc⟩ := Option.map_eq_some_iff.1 h
    obtain ⟨rfl, rfl⟩ := Prod.mk.inj hc
    have hmem := List.mem_of_find?_eq_some hfirst
    refine ⟨c, hmem, Bool.and_eq_true_iff.2 ⟨decide_eq_true rfl, ?_⟩⟩
    unfold holds holder?
    rw [hl.find?_lock hmem, hfirst]
    exact decide_eq_true rfl

/-- Only who is in the queue holds a lock. -/
theorem mem_queue_of_isHeldBy [DecidableEq η] {l : Locks η} {handle : η}
    (h : l.isHeldBy handle = true) : ∃ doc, (handle, doc) ∈ l.queue := by
  obtain ⟨c, hc, hholds⟩ := List.any_eq_true.1 h
  obtain ⟨rfl, -⟩ : c.handle = handle ∧ _ := by
    simpa using hholds
  exact ⟨c.document, List.mem_map_of_mem hc⟩

end Locks

end PcdCatalog

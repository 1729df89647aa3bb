import Mathlib.Data.List.Induction
import PcdCatalog.Overlap
import PcdCatalog.Proofs.LockLaws

/-!
# Overlapping updates take effect in some order

Updates that are issued together overlap while they read, but each acts on the
index in one go. `overlap_linearises` says that they might as well have run
one at a time: there is an order of them, the one in which they acted, that
keeps the order of issue for every document and leads to the same workspace
and the same counts.

The invariant is `Schedule.Explained`. It splits the tasks into those that have
been applied, in their order, and those that are pending, in the order of
issue. The index is that of the former in turn, the queue of the locks is that
of the latter, and a read belongs to a task that is first in line for its
document. Only `finish` touches the index, and it takes the first in line, so
the order within a document is kept.

That everything completes needs more: in a pass every task acts once, in the
order of issue, so whoever moves up in a queue acts after the task that made
way. Behind a pass (`Swept`) everybody who is first in line is reading and no
read has ended, and at the moment at which the next read ends a task
completes.
-/

namespace PcdCatalog

/-! ## One at a time -/

namespace Workspace

/-- **Updates one at a time**: the workspace behind them, and the counts of each
under its number. -/
def inTurn (w : Workspace) (src : Source) (ts : List Task) :
    Workspace × List (Nat × UpdateCounts) :=
  ts.foldl (fun s t =>
    let (w, n) := s.1.update src t.update t.document
    (w, s.2 ++ [(t.id, n)])) (w, [])

theorem inTurn_concat (w : Workspace) (src : Source) (ts : List Task) (t : Task) :
    w.inTurn src (ts ++ [t])
      = (((w.inTurn src ts).1.update src t.update t.document).1,
        (w.inTurn src ts).2
          ++ [(t.id, ((w.inTurn src ts).1.update src t.update t.document).2)]) := by
  unfold inTurn
  rw [List.foldl_concat]

/-- Every update is counted once, in turn. -/
theorem map_fst_inTurn (w : Workspace) (src : Source) (ts : List Task) :
    (w.inTurn src ts).2.map Prod.fst = ts.map Task.id := by
  induction ts using List.reverseRecOn with
  | nil => rfl
  | append_singleton ts t ih =>
    rw [inTurn_concat, List.map_append, ih, List.map_append]
    rfl

/-- Updates change nothing but the index. -/
theorem fst_inTurn (w : Workspace) (src : Source) (ts : List Task) :
    (w.inTurn src ts).1 = { w with index := (w.inTurn src ts).1.index } := by
  induction ts using List.reverseRecOn with
  | nil => rfl
  | append_singleton ts t ih =>
    rw [inTurn_concat]
    generalize (w.inTurn src ts).1 = v at ih ⊢
    rw [ih]
    rfl

/-- The last of several updates in turn looks with the extractor they all
share. -/
theorem update_inTurn (w : Workspace) (src : Source) (ts : List Task) (t : Task) :
    (w.inTurn src (ts ++ [t])).1.index
        = (t.update.apply t.document (t.update.look w.extractor src t.document)
            (w.inTurn src ts).1.index).1
      ∧ (w.inTurn src (ts ++ [t])).2
        = (w.inTurn src ts).2 ++ [(t.id, (t.update.apply t.document
            (t.update.look w.extractor src t.document) (w.inTurn src ts).1.index).2)] := by
  have hx : (w.inTurn src ts).1.extractor = w.extractor := by
    rw [fst_inTurn]
  rw [inTurn_concat, ← hx]
  exact ⟨rfl, rfl⟩

end Workspace

/-! ## First in line -/

namespace Task

/-- **A task is first in line** if no task of its document is pending before
it. -/
def Heads (t : Task) (pending : List Task) : Prop :=
  pending.find? (fun u => u.document.same t.document) = some t

theorem Heads.mem {t : Task} {pending : List Task} (h : t.Heads pending) : t ∈ pending :=
  List.mem_of_find?_eq_some h

/-- What is pending before the first in line is of other documents. -/
theorem Heads.exists_split {t : Task} {pending : List Task} (h : t.Heads pending) :
    ∃ front back, pending = front ++ t :: back
      ∧ ∀ u ∈ front, u.document.same t.document = false := by
  obtain ⟨-, front, back, hp, hfront⟩ := List.find?_eq_some_iff_append.1 h
  exact ⟨front, back, hp, fun u hu => by simpa using hfront u hu⟩

/-- The very first is first in line. -/
theorem heads_cons (t : Task) (rest : List Task) : t.Heads (t :: rest) :=
  List.find?_cons_of_pos (Path.same_self t.document)

/-- Who is first in line stays so when another task goes. -/
theorem Heads.of_other_gone {t u : Task} {front back : List Task} (hne : u ≠ t)
    (h : u.Heads (front ++ t :: back)) : u.Heads (front ++ back) := by
  unfold Heads at h ⊢
  rw [List.find?_append] at h ⊢
  cases hf : front.find? (fun v => v.document.same u.document) with
  | some v =>
    rw [hf] at h
    exact h
  | none =>
    rw [hf, Option.none_or, List.find?_cons] at h
    split at h
    next => exact absurd (Option.some.inj h).symm hne
    next => exact h

/-- A task that is not first in line does not become it when a later one goes. -/
theorem Heads.of_later_gone {t u : Task} {front back : List Task}
    (hsorted : (front ++ t :: back).Pairwise (fun a b => a.id < b.id)) (hlt : u.id < t.id)
    (h : u.Heads (front ++ back)) : u.Heads (front ++ t :: back) := by
  unfold Heads at h ⊢
  rw [List.find?_append] at h ⊢
  cases hf : front.find? (fun v => v.document.same u.document) with
  | some v =>
    rw [hf] at h
    exact h
  | none =>
    rw [hf, Option.none_or] at h
    have hback : t.id < u.id :=
      (List.pairwise_cons.1 (List.pairwise_append.1 hsorted).2.1).1 u (List.mem_of_find?_eq_some h)
    exact absurd hlt (Nat.lt_asymm hback)

end Task

/-! ## The order of a schedule -/

namespace Schedule

/-- **A schedule is explained** by the tasks that have taken effect, in their
order, and those that are pending, in the order of issue. The index and the
counts are those of the former one at a time, the locks are queued for by the
latter, and only who is first in line is reading. -/
structure Explained (w : Workspace) (src : Source) (tasks applied pending : List Task)
    (s : Schedule) : Prop where
  index : s.index = (w.inTurn src applied).1.index
  done : s.done = (w.inTurn src applied).2
  coherent : s.locks.Coherent
  queue : s.locks.queue = pending.map fun t => (t.id, t.document)
  numbered : tasks.Pairwise fun a b => a.id < b.id
  sublist : pending.Sublist tasks
  perm : (applied ++ pending).Perm tasks
  order : ∀ doc : Path, (applied ++ pending).filter (fun t => t.document.same doc)
    = tasks.filter fun t => t.document.same doc
  reads : ∀ r ∈ s.readings, ∃ t : Task, t.Heads pending ∧ r.id = t.id
    ∧ r.found = t.update.look w.extractor src t.document
  once : s.readings.Pairwise fun a b => a.id ≠ b.id

section

variable {w : Workspace} {src : Source} {tasks applied pending : List Task} {s : Schedule}

/-- Numbers in order are apart. -/
theorem nodup_id (hsorted : tasks.Pairwise fun a b => a.id < b.id) : (tasks.map Task.id).Nodup :=
  List.pairwise_map.2 (hsorted.imp Nat.ne_of_lt)

/-- A number belongs to one task. -/
theorem eq_of_id (hsorted : tasks.Pairwise fun a b => a.id < b.id) {t u : Task} (ht : t ∈ tasks)
    (hu : u ∈ tasks) (h : t.id = u.id) : t = u :=
  List.inj_on_of_nodup_map (nodup_id hsorted) ht hu h

/-- **Who queues for a lock holds it exactly when first in line.** -/
theorem isHeldBy_iff_heads {l : Locks Nat} (hl : l.Coherent)
    (hqueue : l.queue = pending.map fun t => (t.id, t.document))
    (hsorted : pending.Pairwise fun a b => a.id < b.id) {t : Task} (ht : t ∈ pending) :
    l.isHeldBy t.id = true ↔ t.Heads pending := by
  have hnodup : (l.queue.map Prod.fst).Nodup := by
    rw [hqueue, List.map_map]
    exact nodup_id hsorted
  have hmem : (t.id, t.document) ∈ l.queue := by
    rw [hqueue]
    exact List.mem_map_of_mem ht
  rw [hl.isHeldBy_iff hnodup hmem, hqueue, List.find?_map, Option.map_eq_some_iff]
  constructor
  · rintro ⟨u, hu, he⟩
    have hsame := eq_of_id hsorted (List.mem_of_find?_eq_some hu) ht (Prod.mk.inj he).1
    exact hsame ▸ hu
  · intro h
    exact ⟨t, h, rfl⟩

/-- A pending task holds its lock exactly when it is first in line. -/
theorem Explained.isHeldBy_iff (hs : s.Explained w src tasks applied pending) {t : Task}
    (ht : t ∈ pending) : s.locks.isHeldBy t.id = true ↔ t.Heads pending :=
  isHeldBy_iff_heads hs.coherent hs.queue (hs.numbered.sublist hs.sublist) ht

/-- Who holds a lock is pending. -/
theorem Explained.mem_of_isHeldBy (hs : s.Explained w src tasks applied pending) {t : Task}
    (ht : t ∈ tasks) (h : s.locks.isHeldBy t.id = true) : t ∈ pending := by
  obtain ⟨doc, hmem⟩ := Locks.mem_queue_of_isHeldBy h
  rw [hs.queue] at hmem
  obtain ⟨u, hu, he⟩ := List.mem_map.1 hmem
  rw [← eq_of_id hs.numbered (hs.sublist.subset hu) ht (Prod.mk.inj he).1]
  exact hu

/-- What is pending is not done. -/
theorem Explained.isDone_eq_false (hs : s.Explained w src tasks applied pending) {t : Task}
    (ht : t ∈ pending) : s.isDone t = false := by
  unfold isDone
  rw [List.any_eq_false]
  intro d hd he
  have hid : t.id ∈ applied.map Task.id := by
    rw [← w.map_fst_inTurn src applied, ← hs.done, ← beq_iff_eq.1 he]
    exact List.mem_map_of_mem hd
  have hapart := (hs.perm.map Task.id).nodup_iff.2 (nodup_id hs.numbered)
  rw [List.map_append] at hapart
  exact List.disjoint_of_nodup_append hapart hid (List.mem_map_of_mem ht)

/-! ### Reading -/

/-- Starting a task can only add its read. -/
theorem start_cases (x : Extractor) (src : Source) (ticks : Path → Nat) (s : Schedule)
    (t : Task) :
    s.start x src ticks t = s
      ∨ (s.reading? t = none ∧ s.locks.isHeldBy t.id = true ∧ ∃ due,
          s.start x src ticks t
            = { s with
                readings := s.readings ++ [⟨t.id, t.update.look x src t.document, due⟩] }) := by
  unfold start
  split
  next => exact Or.inl rfl
  next h =>
    obtain ⟨⟨-, hread⟩, hheld⟩ :
        (s.isDone t = false ∧ s.reading? t = none) ∧ s.locks.isHeldBy t.id = true := by
      simpa using h
    exact Or.inr ⟨hread, hheld, _, rfl⟩

/-- **Starting a read changes nothing that has been explained.** -/
theorem Explained.start (hs : s.Explained w src tasks applied pending) {t : Task}
    (ht : t ∈ tasks) (ticks : Path → Nat) :
    (s.start w.extractor src ticks t).Explained w src tasks applied pending := by
  rcases start_cases w.extractor src ticks s t with h | ⟨hnone, hheld, due, h⟩
  · rw [h]
    exact hs
  · rw [h]
    have hheads := (hs.isHeldBy_iff (hs.mem_of_isHeldBy ht hheld)).1 hheld
    refine { hs with reads := fun r hr => ?_, once := ?_ }
    · rcases List.mem_append.1 hr with hr | hr
      · exact hs.reads r hr
      · obtain rfl := List.mem_singleton.1 hr
        exact ⟨t, hheads, rfl, rfl⟩
    · refine List.pairwise_append.2 ⟨hs.once, List.pairwise_singleton _ _, fun a ha b hb => ?_⟩
      obtain rfl := List.mem_singleton.1 hb
      intro he
      exact absurd (beq_iff_eq.2 he) (List.find?_eq_none.1 hnone a ha)

/-- A task that is first in line is reading once it was started. -/
theorem Explained.isSome_reading?_start (hs : s.Explained w src tasks applied pending) {t : Task}
    (ht : t.Heads pending) (ticks : Path → Nat) :
    ((s.start w.extractor src ticks t).reading? t).isSome = true := by
  unfold Schedule.start
  cases hread : (s.reading? t).isSome with
  | true =>
    rw [if_pos (by simp)]
    exact hread
  | false =>
    rw [if_neg (by rw [hs.isDone_eq_false ht.mem, (hs.isHeldBy_iff ht.mem).2 ht]; simp)]
    unfold reading?
    rw [List.find?_isSome]
    exact ⟨_, List.mem_append_right _ List.mem_cons_self, beq_self_eq_true t.id⟩

/-- Who reads is first in line. -/
theorem Explained.heads_of_reading? (hs : s.Explained w src tasks applied pending) {t : Task}
    (ht : t ∈ tasks) {r : Reading} (hr : s.reading? t = some r) :
    t.Heads pending ∧ r.found = t.update.look w.extractor src t.document := by
  have hid : r.id = t.id := by simpa using List.find?_some hr
  obtain ⟨u, hu, hru, hfound⟩ := hs.reads r (List.mem_of_find?_eq_some hr)
  obtain rfl := eq_of_id hs.numbered (hs.sublist.subset hu.mem) ht (hru.symm.trans hid)
  exact ⟨hu, hfound⟩

/-! ### Taking effect -/

/-- Giving a lock back leaves the queue without the task. -/
theorem queue_unlock (l : Locks Nat) (t : Task) :
    (unlock l t).queue = l.queue.filter fun e => e.1 ≠ t.id := by
  unfold unlock
  split
  · exact (Locks.queue_prune _).trans (Locks.queue_release l t.id)
  · exact Locks.queue_release l t.id

theorem coherent_unlock {l : Locks Nat} (hl : l.Coherent) (t : Task) : (unlock l t).Coherent := by
  unfold unlock
  split
  · exact (hl.release t.id).prune
  · exact hl.release t.id

/-- Of tasks in order a number takes out one. -/
theorem filter_id_ne {t : Task} {front back : List Task}
    (hsorted : (front ++ t :: back).Pairwise fun a b => a.id < b.id) :
    (front ++ t :: back).filter (fun u => u.id ≠ t.id) = front ++ back := by
  obtain ⟨-, hback, hfront⟩ := List.pairwise_append.1 hsorted
  have hf : front.filter (fun u => u.id ≠ t.id) = front :=
    List.filter_eq_self.2 fun u hu =>
      decide_eq_true (Nat.ne_of_lt (hfront u hu t List.mem_cons_self))
  have hb : back.filter (fun u => u.id ≠ t.id) = back :=
    List.filter_eq_self.2 fun u hu =>
      decide_eq_true (Nat.ne_of_gt ((List.pairwise_cons.1 hback).1 u hu))
  rw [List.filter_append, List.filter_cons_of_neg (by simp), hf, hb]

/-- **The first in line takes effect in its turn**: behind everything that has
taken effect, and before everything of its document that is pending. -/
theorem filter_same_of_heads {t : Task} {front back : List Task}
    (hfront : ∀ u ∈ front, u.document.same t.document = false) (doc : Path) :
    (applied ++ [t] ++ (front ++ back)).filter (fun u => u.document.same doc)
      = (applied ++ (front ++ t :: back)).filter fun u => u.document.same doc := by
  simp only [List.filter_append, List.append_assoc]
  refine congrArg (applied.filter (fun u => u.document.same doc) ++ ·) ?_
  by_cases ht : t.document.same doc = true
  · have hnone : front.filter (fun u => u.document.same doc) = [] := by
      rw [List.filter_eq_nil_iff]
      intro u hu hdoc
      have hkey := (Path.same_iff.1 hdoc).trans (Path.same_iff.1 ht).symm
      exact absurd (Path.same_iff.2 hkey) (by rw [hfront u hu]; simp)
    rw [hnone, List.filter_cons, List.filter_cons, if_pos ht, if_pos ht]
    rfl
  · rw [List.filter_cons, List.filter_cons, if_neg ht, if_neg ht]
    rfl

/-- What a task does when its read has ended. -/
theorem finish_eq {t : Task} {r : Reading} (hr : s.reading? t = some r) (hdue : ¬ s.now < r.due) :
    s.finish t = { s with
      index := (t.update.apply t.document r.found s.index).1
      locks := unlock s.locks t
      readings := s.readings.filter fun r => r.id != t.id
      done := s.done ++ [(t.id, (t.update.apply t.document r.found s.index).2)] } := by
  unfold Schedule.finish
  rw [hr]
  exact if_neg hdue

/-- **A read that has ended takes effect.** Its task leaves the pending ones and
is the last that has been applied. -/
theorem Explained.finish (hs : s.Explained w src tasks applied pending) {t : Task}
    (ht : t ∈ tasks) {r : Reading} (hr : s.reading? t = some r) (hdue : ¬ s.now < r.due) :
    ∃ front back, pending = front ++ t :: back
      ∧ (s.finish t).Explained w src tasks (applied ++ [t]) (front ++ back)
      ∧ (s.finish t).readings = s.readings.filter (fun r => r.id != t.id)
      ∧ (s.finish t).now = s.now := by
  obtain ⟨hheads, hfound⟩ := hs.heads_of_reading? ht hr
  obtain ⟨front, back, rfl, hfront⟩ := hheads.exists_split
  obtain ⟨hindex, hdone⟩ := w.update_inTurn src applied t
  rw [finish_eq hr hdue]
  refine ⟨front, back, rfl, ?_, rfl, rfl⟩
  constructor
  case index => rw [hindex, ← hfound, ← hs.index]
  case done => rw [hdone, ← hfound, ← hs.index, ← hs.done]
  case coherent => exact coherent_unlock hs.coherent t
  case queue =>
    show (unlock s.locks t).queue = _
    rw [queue_unlock, hs.queue, List.filter_map]
    exact congrArg (List.map _) (filter_id_ne (hs.numbered.sublist hs.sublist))
  case numbered => exact hs.numbered
  case sublist =>
    refine List.Sublist.trans ?_ hs.sublist
    exact (List.sublist_cons_self t back).append_left front
  case perm =>
    have hmove : (t :: (front ++ back)).Perm (front ++ t :: back) := List.perm_middle.symm
    refine List.Perm.trans ?_ hs.perm
    rw [List.append_assoc]
    exact hmove.append_left applied
  case order =>
    intro doc
    rw [filter_same_of_heads hfront, hs.order doc]
  case reads =>
    intro r' hr'
    obtain ⟨hmem, hne⟩ := List.mem_filter.1 hr'
    obtain ⟨u, hu, hid, hlook⟩ := hs.reads r' hmem
    refine ⟨u, hu.of_other_gone ?_, hid, hlook⟩
    rintro rfl
    exact absurd hid (by simpa using hne)
  case once => exact hs.once.sublist List.filter_sublist

/-! ### A task acts -/

/-- A task starts its read, if it can, and takes effect, if the read has
ended. -/
def act (x : Extractor) (src : Source) (ticks : Path → Nat) (s : Schedule) (t : Task) : Schedule :=
  (s.start x src ticks t).finish t

/-- **What a task leaves that has not taken effect**: if it is first in line it
is reading, and its read has not ended. -/
structure Waits (t : Task) (pending : List Task) (s s' : Schedule) : Prop where
  now : s'.now = s.now
  reads : t.Heads pending → ∃ r ∈ s'.readings, r.id = t.id
  late : ∀ r ∈ s'.readings, r.id = t.id → s'.now < r.due
  keeps : ∀ r ∈ s.readings, r ∈ s'.readings
  adds : ∀ r ∈ s'.readings, r ∈ s.readings ∨ r.id = t.id

theorem waits_start (hs : s.Explained w src tasks applied pending) {t : Task}
    (ticks : Path → Nat)
    (hlate : ∀ r ∈ (s.start w.extractor src ticks t).readings, r.id = t.id → s.now < r.due) :
    Waits t pending s (s.start w.extractor src ticks t) := by
  have hreads : t.Heads pending →
      ∃ r ∈ (s.start w.extractor src ticks t).readings, r.id = t.id := by
    intro ht
    have hsome := hs.isSome_reading?_start ht ticks
    unfold reading? at hsome
    simpa using List.find?_isSome.1 hsome
  rcases start_cases w.extractor src ticks s t with h | ⟨-, -, due, h⟩
  · rw [h] at hlate hreads ⊢
    exact ⟨rfl, hreads, hlate, fun r hr => hr, fun r hr => Or.inl hr⟩
  · rw [h] at hlate hreads ⊢
    refine ⟨rfl, hreads, hlate, fun r hr => List.mem_append_left _ hr, fun r hr => ?_⟩
    rcases List.mem_append.1 hr with hr | hr
    · exact Or.inl hr
    · obtain rfl := List.mem_singleton.1 hr
      exact Or.inr rfl

/-- **A task that acts waits or takes effect.** -/
theorem Explained.act (hs : s.Explained w src tasks applied pending) {t : Task}
    (ht : t ∈ tasks) (ticks : Path → Nat) :
    ((s.act w.extractor src ticks t).Explained w src tasks applied pending
        ∧ Waits t pending s (s.act w.extractor src ticks t))
      ∨ ∃ front back, pending = front ++ t :: back
        ∧ (s.act w.extractor src ticks t).Explained w src tasks (applied ++ [t]) (front ++ back)
        ∧ (s.act w.extractor src ticks t).readings = s.readings.filter (fun r => r.id != t.id)
        ∧ (s.act w.extractor src ticks t).now = s.now := by
  have hstart := hs.start ht ticks
  have hnow : (s.start w.extractor src ticks t).now = s.now := by
    rcases start_cases w.extractor src ticks s t with h | ⟨-, -, due, h⟩ <;> rw [h]
  have hfilter : (s.start w.extractor src ticks t).readings.filter (fun r => r.id != t.id)
      = s.readings.filter (fun r => r.id != t.id) := by
    rcases start_cases w.extractor src ticks s t with h | ⟨-, -, due, h⟩
    · rw [h]
    · rw [h, List.filter_append, List.filter_cons_of_neg (by simp)]
      exact List.append_nil _
  unfold Schedule.act
  cases hr : (s.start w.extractor src ticks t).reading? t with
  | none =>
    have hstay : (s.start w.extractor src ticks t).finish t = s.start w.extractor src ticks t := by
      unfold Schedule.finish
      rw [hr]
    rw [hstay]
    refine Or.inl ⟨hstart, waits_start hs ticks fun r hmem hid => ?_⟩
    exact absurd (beq_iff_eq.2 hid) (List.find?_eq_none.1 hr r hmem)
  | some r =>
    by_cases hdue : (s.start w.extractor src ticks t).now < r.due
    · have hstay : (s.start w.extractor src ticks t).finish t
          = s.start w.extractor src ticks t := by
        unfold Schedule.finish
        rw [hr]
        exact if_pos hdue
      rw [hstay]
      refine Or.inl ⟨hstart, waits_start hs ticks fun r' hmem hid => ?_⟩
      -- a task has one read, the one that was found
      have hid' : r.id = t.id := by simpa using List.find?_some hr
      have hsame : r' = r := List.inj_on_of_nodup_map (List.pairwise_map.2 hstart.once) hmem
        (List.mem_of_find?_eq_some hr) (hid.trans hid'.symm)
      rw [hsame, ← hnow]
      exact hdue
    · obtain ⟨front, back, hp, hex, hreadings, hnow'⟩ := hstart.finish ht hr hdue
      exact Or.inr ⟨front, back, hp, hex, hreadings.trans hfilter, hnow'.trans hnow⟩

/-! ### A pass -/

/-- Where the tasks of `passed` have acted: who of them is first in line is
reading, and no read of theirs has ended. -/
structure Swept (passed pending : List Task) (s : Schedule) : Prop where
  busy : ∀ t ∈ passed, t.Heads pending → ∃ r ∈ s.readings, r.id = t.id
  late : ∀ t ∈ passed, ∀ r ∈ s.readings, r.id = t.id → s.now < r.due

/-- One schedule comes out of another at the same moment: tasks are left, and
those that stay keep their reads. -/
structure Advances (pending pending' : List Task) (s s' : Schedule) : Prop where
  shrinks : pending'.Sublist pending
  now : s'.now = s.now
  keeps : ∀ r ∈ s.readings, ∀ t ∈ pending', r.id = t.id → r ∈ s'.readings

theorem Advances.refl (pending : List Task) (s : Schedule) : Advances pending pending s s :=
  ⟨List.Sublist.refl pending, rfl, fun _ hr _ _ _ => hr⟩

theorem Advances.trans {p p' p'' : List Task} {s s' s'' : Schedule} (h : Advances p p' s s')
    (h' : Advances p' p'' s' s'') : Advances p p'' s s'' :=
  ⟨h'.shrinks.trans h.shrinks, h'.now.trans h.now, fun r hr t ht hid =>
    h'.keeps r (h.keeps r hr t (h'.shrinks.subset ht) hid) t ht hid⟩

/-- **One task of a pass.** -/
theorem Explained.swept_act (hs : s.Explained w src tasks applied pending) {passed rest : List Task}
    {t : Task} (htasks : tasks = passed ++ t :: rest) (hsw : Swept passed pending s)
    (ticks : Path → Nat) :
    ∃ applied' pending', (s.act w.extractor src ticks t).Explained w src tasks applied' pending'
      ∧ Swept (passed ++ [t]) pending' (s.act w.extractor src ticks t)
      ∧ Advances pending pending' s (s.act w.extractor src ticks t) := by
  have ht : t ∈ tasks := htasks ▸ List.mem_append_right _ List.mem_cons_self
  have hlt : ∀ u ∈ passed, u.id < t.id := by
    have hnumbered := hs.numbered
    rw [htasks] at hnumbered
    exact fun u hu => (List.pairwise_append.1 hnumbered).2.2 u hu t List.mem_cons_self
  rcases hs.act ht ticks with ⟨hex, hw⟩ | ⟨front, back, rfl, hex, hreadings, hnow⟩
  · refine ⟨applied, pending, hex, ⟨fun u hu hheads => ?_, fun u hu r hr hid => ?_⟩,
      ⟨List.Sublist.refl pending, hw.now, fun r hr _ _ _ => hw.keeps r hr⟩⟩
    · -- `t` may have added its own read, which concerns no task before it
      rcases List.mem_append.1 hu with hu | hu
      · obtain ⟨r, hr, hid⟩ := hsw.busy u hu hheads
        exact ⟨r, hw.keeps r hr, hid⟩
      · obtain rfl := List.mem_singleton.1 hu
        exact hw.reads hheads
    · rcases List.mem_append.1 hu with hu | hu
      · rcases hw.adds r hr with hr | hr
        · rw [hw.now]
          exact hsw.late u hu r hr hid
        · exact absurd (hid.symm.trans hr) (Nat.ne_of_lt (hlt u hu))
      · obtain rfl := List.mem_singleton.1 hu
        exact hw.late r hr hid
  · -- `t` is gone, and no task that acted before it has moved up
    have hp := hs.numbered.sublist hs.sublist
    have hne : ∀ u ∈ front ++ back, u.id ≠ t.id := by
      intro u hu
      rw [← filter_id_ne hp] at hu
      exact of_decide_eq_true (List.mem_filter.1 hu).2
    have hkeep : ∀ r ∈ s.readings, r.id ≠ t.id → r ∈ (s.act w.extractor src ticks t).readings := by
      intro r hr hid
      rw [hreadings]
      exact List.mem_filter.2 ⟨hr, bne_iff_ne.2 hid⟩
    refine ⟨applied ++ [t], front ++ back, hex, ⟨fun u hu hheads => ?_, fun u hu r hr hid => ?_⟩,
      ⟨(List.sublist_cons_self t back).append_left front, hnow, fun r hr u hu hid => ?_⟩⟩
    · have hut := hne u hheads.mem
      rcases List.mem_append.1 hu with hu | hu
      · obtain ⟨r, hr, hid⟩ := hsw.busy u hu (hheads.of_later_gone hp (hlt u hu))
        exact ⟨r, hkeep r hr (hid ▸ hut), hid⟩
      · obtain rfl := List.mem_singleton.1 hu
        exact absurd rfl hut
    · rw [hreadings] at hr
      obtain ⟨hr, hrt⟩ := List.mem_filter.1 hr
      rcases List.mem_append.1 hu with hu | hu
      · rw [hnow]
        exact hsw.late u hu r hr hid
      · obtain rfl := List.mem_singleton.1 hu
        exact absurd hid (bne_iff_ne.1 hrt)
    · exact hkeep r hr (hid ▸ hne u hu)

/-- **A pass lets everybody act that can.** -/
theorem Explained.pass (hs : s.Explained w src tasks applied pending) (ticks : Path → Nat) :
    ∃ applied' pending',
      (s.pass w.extractor src ticks tasks).Explained w src tasks applied' pending'
        ∧ Swept tasks pending' (s.pass w.extractor src ticks tasks)
        ∧ Advances pending pending' s (s.pass w.extractor src ticks tasks) := by
  have hfold : ∀ (rest passed : List Task), tasks = passed ++ rest →
      ∀ {s : Schedule} {applied pending : List Task}, s.Explained w src tasks applied pending →
      Swept passed pending s → ∃ applied' pending',
        (rest.foldl (Schedule.act w.extractor src ticks) s).Explained w src tasks applied' pending'
          ∧ Swept tasks pending' (rest.foldl (Schedule.act w.extractor src ticks) s)
          ∧ Advances pending pending' s (rest.foldl (Schedule.act w.extractor src ticks) s) := by
    intro rest
    induction rest with
    | nil =>
      intro passed htasks s applied pending hs hsw
      rw [List.append_nil] at htasks
      exact ⟨applied, pending, hs, htasks ▸ hsw, Advances.refl pending s⟩
    | cons t rest ih =>
      intro passed htasks s applied pending hs hsw
      obtain ⟨applied', pending', hs', hsw', hadv⟩ := hs.swept_act htasks hsw ticks
      obtain ⟨applied'', pending'', hs'', hsw'', hadv'⟩ :=
        ih (passed ++ [t]) (by rw [htasks, List.append_assoc]; rfl) hs' hsw'
      exact ⟨applied'', pending'', hs'', hsw'', hadv.trans hadv'⟩
  exact hfold tasks [] rfl hs ⟨fun t ht => absurd ht List.not_mem_nil,
    fun t ht => absurd ht List.not_mem_nil⟩

/-! ### A run -/

/-- While tasks are pending a read is under way. -/
theorem Swept.exists_reading (hs : s.Explained w src tasks applied pending)
    (hsw : Swept tasks pending s) (hne : pending ≠ []) : s.readings ≠ [] := by
  obtain ⟨t, rest, rfl⟩ := List.exists_cons_of_ne_nil hne
  obtain ⟨r, hr, -⟩ := hsw.busy t (hs.sublist.subset List.mem_cons_self) (t.heads_cons rest)
  exact List.ne_nil_of_mem hr

/-- **Each moment at which a read ends completes a task.** -/
theorem Explained.pass_due (hs : s.Explained w src tasks applied pending) {due : Nat}
    (hdue : s.nextDue? = some due) (ticks : Path → Nat) :
    ∃ applied' pending',
      ({ s with now := due }.pass w.extractor src ticks tasks).Explained w src tasks
          applied' pending'
        ∧ Swept tasks pending' ({ s with now := due }.pass w.extractor src ticks tasks)
        ∧ pending'.length < pending.length := by
  have hnow : ({ s with now := due } : Schedule).Explained w src tasks applied pending :=
    { hs with }
  obtain ⟨applied', pending', hs', hsw, hadv⟩ := hnow.pass ticks
  refine ⟨applied', pending', hs', hsw, ?_⟩
  refine Nat.lt_of_le_of_ne hadv.shrinks.length_le fun hlen => ?_
  -- otherwise the read that ends now would still be there
  obtain rfl := hadv.shrinks.eq_of_length hlen
  obtain ⟨r, hr, rfl⟩ := List.mem_map.1 (List.min?_mem hdue)
  obtain ⟨t, ht, hid, -⟩ := hs.reads r hr
  have hlate := hsw.late t (hs.sublist.subset ht.mem) r (hadv.keeps r hr t ht.mem hid) hid
  rw [hadv.now] at hlate
  exact Nat.lt_irrefl _ hlate

/-- **A run with enough moments completes everything.** -/
theorem Explained.run (ticks : Path → Nat) {fuel : Nat}
    (hs : s.Explained w src tasks applied pending) (hsw : Swept tasks pending s)
    (hfuel : pending.length ≤ fuel) :
    ∃ order, (s.run w.extractor src ticks tasks fuel).Explained w src tasks order [] := by
  induction fuel generalizing s applied pending with
  | zero =>
    obtain rfl := List.eq_nil_of_length_eq_zero (Nat.le_zero.1 hfuel)
    exact ⟨applied, hs⟩
  | succ fuel ih =>
    rw [Schedule.run]
    split
    next hnone =>
      have hread : s.readings = [] := List.map_eq_nil_iff.1 (List.min?_eq_none_iff.1 hnone)
      have hempty : pending = [] := by
        refine Decidable.of_not_not fun hne => ?_
        exact hsw.exists_reading hs hne hread
      exact ⟨applied, hempty ▸ hs⟩
    next due hdue =>
      obtain ⟨applied', pending', hs', hsw', hlt⟩ := hs.pass_due hdue ticks
      exact ih hs' hsw' (by omega)

end

/-! ### Issuing -/

/-- Tasks queue for their locks in the order of issue. -/
theorem queue_foldl_acquire (ts : List Task) {l : Locks Nat} (hl : l.Coherent) :
    (ts.foldl (fun l t => l.acquire t.id t.document) l).Coherent
      ∧ (ts.foldl (fun l t => l.acquire t.id t.document) l).queue
        = l.queue ++ ts.map fun t => (t.id, t.document) := by
  induction ts generalizing l with
  | nil => exact ⟨hl, (List.append_nil _).symm⟩
  | cons t ts ih =>
    obtain ⟨hco, hqueue⟩ := ih (hl.acquire t.id t.document)
    refine ⟨hco, hqueue.trans ?_⟩
    rw [Locks.queue_acquire, List.append_assoc]
    rfl

/-- In the beginning everything is pending. -/
theorem explained_issue (w : Workspace) (src : Source) {tasks : List Task}
    (hsorted : tasks.Pairwise fun a b => a.id < b.id) :
    (issue w.index tasks).Explained w src tasks [] tasks := by
  obtain ⟨hco, hqueue⟩ := queue_foldl_acquire tasks Locks.coherent_empty
  exact {
    index := rfl
    done := rfl
    coherent := hco
    queue := hqueue
    numbered := hsorted
    sublist := List.Sublist.refl tasks
    perm := List.Perm.refl tasks
    order := fun _ => rfl
    reads := fun r hr => absurd hr List.not_mem_nil
    once := List.Pairwise.nil }

end Schedule

/-! ## Updates issued together -/

namespace Workspace

/-- The numbers of tasks count them. -/
theorem map_id_tasks (updates : List (Update × Path)) :
    (tasks updates).map Task.id = List.range updates.length := by
  unfold tasks
  rw [List.map_map, List.range_eq_range']
  exact List.zipIdx_map_snd 0 updates

theorem pairwise_tasks (updates : List (Update × Path)) :
    (tasks updates).Pairwise fun a b => a.id < b.id := by
  have hrange : ((tasks updates).map Task.id).Pairwise (· < ·) := by
    rw [map_id_tasks]
    exact List.pairwise_lt_range
  exact List.pairwise_map.1 hrange

/-- **The schedule of updates issued together is explained** by some order of
all of them. -/
theorem explained_schedule (w : Workspace) (src : Source) (ticks : Path → Nat)
    (updates : List (Update × Path)) :
    ∃ order, (w.schedule src ticks updates).Explained w src (tasks updates) order [] := by
  obtain ⟨applied, pending, hs, hsw, -⟩ :=
    (Schedule.explained_issue w src (pairwise_tasks updates)).pass ticks
  exact Schedule.Explained.run ticks hs hsw hs.sublist.length_le

/-- Where no number occurs twice, counts are found by their number. -/
theorem find?_number {done : List (Nat × UpdateCounts)} (h : (done.map Prod.fst).Nodup)
    {d : Nat × UpdateCounts} (hd : d ∈ done) : done.find? (fun e => e.1 == d.1) = some d := by
  have hsome : (done.find? fun e => e.1 == d.1).isSome = true :=
    List.find?_isSome.2 ⟨d, hd, beq_self_eq_true d.1⟩
  obtain ⟨e, he⟩ := Option.isSome_iff_exists.1 hsome
  have hfst : e.1 = d.1 := by simpa using List.find?_some he
  rw [he, List.inj_on_of_nodup_map h (List.mem_of_find?_eq_some he) hd hfst]

/-- The counts of the updates issued together, read off the order in which they
took effect. -/
theorem getElem?_overlap {w : Workspace} {src : Source} {ticks : Path → Nat}
    {updates : List (Update × Path)} {order : List Task}
    (hs : (w.schedule src ticks updates).Explained w src (tasks updates) order []) (id : Nat)
    (n : UpdateCounts) :
    (w.overlap src ticks updates).2[id]? = some n ↔ (id, n) ∈ (w.inTurn src order).2 := by
  have hids : ((w.schedule src ticks updates).done.map Prod.fst).Perm
      (List.range updates.length) := by
    have hperm := hs.perm.map Task.id
    rwa [List.append_nil, map_id_tasks, ← w.map_fst_inTurn src, ← hs.done] at hperm
  rw [← hs.done]
  show ((tasks updates).map _)[id]? = some n ↔ _
  rw [List.getElem?_map, Option.map_eq_some_iff]
  generalize (w.schedule src ticks updates).done = done at hids ⊢
  have hfind : ∀ d ∈ done, done.find? (fun e => e.1 == d.1) = some d :=
    fun d hd => find?_number (hids.nodup_iff.2 List.nodup_range) hd
  have hnumber : ∀ t, (tasks updates)[id]? = some t → t.id = id ∧ id < updates.length := by
    intro t ht
    have hrange : (List.range updates.length)[id]? = some t.id := by
      rw [← map_id_tasks, List.getElem?_map, ht]
      rfl
    obtain ⟨hlt, hid⟩ := List.getElem?_eq_some_iff.1 hrange
    rw [List.getElem_range] at hid
    exact ⟨hid.symm, by simpa using hlt⟩
  constructor
  · rintro ⟨t, ht, rfl⟩
    obtain ⟨hid, hlt⟩ := hnumber t ht
    obtain ⟨d, hd, hdid⟩ := List.mem_map.1 (hids.mem_iff.2 (List.mem_range.2 hlt))
    rw [hid, ← hdid, hfind d hd]
    exact hd
  · intro hmem
    have hlt := List.mem_range.1 (hids.mem_iff.1 (List.mem_map_of_mem hmem))
    have hlen : (tasks updates).length = updates.length := by
      rw [← List.length_map Task.id, map_id_tasks, List.length_range]
    obtain ⟨t, ht⟩ : ∃ t, (tasks updates)[id]? = some t :=
      ⟨_, List.getElem?_eq_getElem (hlen ▸ hlt)⟩
    refine ⟨t, ht, ?_⟩
    rw [(hnumber t ht).1, hfind (id, n) hmem]
    rfl

/-- **Overlapping updates linearise.** Updates that are issued together, whatever
their reads take, all complete exactly once and leave no lock behind; and there
is an order of them, which keeps that of the updates of each document, such
that the workspace they leave and the counts they return are those of running
them one at a time in that order. -/
theorem overlap_linearises (w : Workspace) (src : Source) (ticks : Path → Nat)
    (updates : List (Update × Path)) :
    ((w.schedule src ticks updates).done.map Prod.fst).Perm (List.range updates.length)
    ∧ (w.schedule src ticks updates).locks.claims = []
    ∧ ∃ order : List Task, order.Perm (tasks updates)
      ∧ (∀ doc : Path, order.filter (fun t => t.document.same doc)
          = (tasks updates).filter fun t => t.document.same doc)
      ∧ (w.overlap src ticks updates).1 = (w.inTurn src order).1
      ∧ ∀ id n, (w.overlap src ticks updates).2[id]? = some n
          ↔ (id, n) ∈ (w.inTurn src order).2 := by
  obtain ⟨order, hs⟩ := w.explained_schedule src ticks updates
  have hperm := hs.perm
  rw [List.append_nil] at hperm
  refine ⟨?_, List.map_eq_nil_iff.1 hs.queue, order, hperm, fun doc => ?_, ?_,
    getElem?_overlap hs⟩
  · rw [hs.done, map_fst_inTurn, ← map_id_tasks]
    exact hperm.map Task.id
  · rw [← hs.order doc, List.append_nil]
  · rw [fst_inTurn, ← hs.index]
    rfl

end Workspace

end PcdCatalog

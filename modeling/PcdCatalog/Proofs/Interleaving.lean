import PcdCatalog.Proofs.Traffic

/-!
# A schedule is an interleaving

`Traffic` lets the steps of updates come in any order; a schedule
(`PcdCatalog.Overlap`) goes by the ticks that reads take. `schedule_interleaves`
says that the schedule of updates issued together is the end of a run of
`Traffic` over a source that nobody edits. What holds in every reachable state
of the one therefore holds of the other.

A schedule is shown as traffic by taking its pending tasks for the calls under
way (`Schedule.asTraffic`), each waiting or reading. To start a task is then to
read, and to finish one is to act and to release, with idle locks forgotten
behind a removal (`Explained.leads_start`, `Explained.leads_finish`); a pass and
a run are these two over and over.
-/

namespace PcdCatalog

namespace Traffic

variable {x : Extractor} {i : Index} {s s' s'' : Traffic}

/-! ## Steps that are taken -/

/-- A call is found where no call before it has its number. -/
theorem locate_append {front back : List Call} {c : Call}
    (hfront : ∀ b ∈ front, b.task.id ≠ c.task.id) :
    locate c.task.id (front ++ c :: back) = some (front, c, back) := by
  have hpass : ∀ b ∈ front, (b.task.id != c.task.id) = true :=
    fun b hb => bne_iff_ne.2 (hfront b hb)
  unfold locate
  rw [List.dropWhile_append_of_pos hpass, List.dropWhile_cons_of_neg (by simp)]
  show some (List.takeWhile _ (front ++ c :: back), c, back) = _
  rw [List.takeWhile_append_of_pos hpass, List.takeWhile_cons_of_neg (by simp), List.append_nil]

/-- A call under way is found by its number. -/
theorem Queued.locate {l : Locks Nat} {issued : List Task} {front back : List Call} {t : Task}
    {a : Stage} (hq : Queued l issued (front ++ ⟨t, a⟩ :: back)) :
    locate t.id (front ++ ⟨t, a⟩ :: back) = some (front, ⟨t, a⟩, back) := by
  have hsorted := hq.sorted
  rw [List.map_append, List.map_cons] at hsorted
  refine locate_append (c := ⟨t, a⟩) fun b hb => Nat.ne_of_lt ?_
  exact (List.pairwise_append.1 hsorted).2.2 b.task (List.mem_map_of_mem hb) t List.mem_cons_self

/-- **A move is the step that it belongs to.** -/
theorem Sound.step_eq (hs : s.Sound x i) {a : Step} (h : Move x s a s') : s.step x a = s' := by
  cases h with
  | edit src => rfl
  | issue u doc => rfl
  | prune => rfl
  | read hcalls hheld =>
    have hfound := (hcalls ▸ hs.queued).locate
    rw [← hcalls] at hfound
    simp only [step, hfound]
    exact if_pos hheld
  | apply hcalls =>
    have hfound := (hcalls ▸ hs.queued).locate
    rw [← hcalls] at hfound
    simp only [step, hfound]
  | release hcalls =>
    have hfound := (hcalls ▸ hs.queued).locate
    rw [← hcalls] at hfound
    simp only [step, hfound]

/-- Whether a step edits the source. -/
def Step.isEdit : Step → Bool
  | .edit _ => true
  | _ => false

/-- **One state leads to another** over a source that nobody edits. -/
def Leads (x : Extractor) (s s' : Traffic) : Prop :=
  ∃ steps : List Step, (∀ a ∈ steps, a.isEdit = false) ∧ s.run x steps = s'

theorem Leads.trans (h : Leads x s s') (h' : Leads x s' s'') : Leads x s s'' := by
  obtain ⟨steps, hedit, rfl⟩ := h
  obtain ⟨steps', hedit', rfl⟩ := h'
  exact ⟨steps ++ steps', List.forall_mem_append.2 ⟨hedit, hedit'⟩, run_append x s steps steps'⟩

theorem Leads.sound (h : Leads x s s') (hs : s.Sound x i) : s'.Sound x i := by
  obtain ⟨steps, -, rfl⟩ := h
  exact hs.run steps

/-- One move further. -/
theorem Leads.move (h : Leads x s s') (hs : s.Sound x i) {a : Step} (ha : a.isEdit = false)
    (hm : Move x s' a s'') : Leads x s s'' :=
  h.trans ⟨[a], List.forall_mem_singleton.2 ha, (h.sound hs).step_eq hm⟩

end Traffic

/-! ## Schedules as traffic -/

namespace Schedule

open Traffic

/-- How far a pending task has come. -/
def stage (s : Schedule) (t : Task) : Stage :=
  match s.reading? t with
  | none => .waiting
  | some r => .read r.found

/-- Pending tasks as calls. -/
def calls (s : Schedule) (pending : List Task) : List Call :=
  pending.map fun t => ⟨t, s.stage t⟩

/-- **A schedule as traffic**: its pending tasks are under way. -/
def asTraffic (src : Source) (tasks pending : List Task) (log : List Effect) (s : Schedule) :
    Traffic :=
  ⟨src, s.index, s.locks, tasks, s.calls pending, log⟩

section

variable {w : Workspace} {src : Source} {tasks applied pending : List Task} {s : Schedule}
  {log : List Effect}

theorem calls_append (s : Schedule) (front back : List Task) :
    s.calls (front ++ back) = s.calls front ++ s.calls back :=
  List.map_append

/-- Calls are what they were where the reads are. -/
theorem calls_congr {s' : Schedule} (h : ∀ u ∈ pending, s'.reading? u = s.reading? u) :
    s'.calls pending = s.calls pending := by
  refine List.map_congr_left fun u hu => ?_
  unfold stage
  rw [h u hu]

/-- A read that is added is found by its own task only. -/
theorem reading?_append (s : Schedule) (r : Reading) (u : Task) :
    ({ s with readings := s.readings ++ [r] } : Schedule).reading? u
      = (s.reading? u).or (if r.id = u.id then some r else none) := by
  unfold reading?
  rw [List.find?_append, List.find?_singleton]
  simp only [beq_iff_eq]

/-- A read that is taken out is missed by its own task only. -/
theorem reading?_of_filter {s' : Schedule} {t u : Task}
    (hs' : s'.readings = s.readings.filter fun r => r.id != t.id) (h : u.id ≠ t.id) :
    s'.reading? u = s.reading? u := by
  unfold reading?
  rw [hs', List.find?_filter]
  refine List.find?_congr fun r _ => ?_
  by_cases hr : r.id = u.id
  · simp [hr, h]
  · simp [hr]

/-- The numbers of pending tasks are apart. -/
theorem Explained.id_ne {t : Task} {front back : List Task}
    (hs : s.Explained w src tasks applied (front ++ t :: back)) :
    (∀ u ∈ front, u.id ≠ t.id) ∧ ∀ u ∈ back, u.id ≠ t.id := by
  obtain ⟨-, hback, hfront⟩ := List.pairwise_append.1 (hs.numbered.sublist hs.sublist)
  exact ⟨fun u hu => Nat.ne_of_lt (hfront u hu t List.mem_cons_self),
    fun u hu => Nat.ne_of_gt ((List.pairwise_cons.1 hback).1 u hu)⟩

/-- **To start a task is to read.** -/
theorem Explained.leads_start (hs : s.Explained w src tasks applied pending) {t : Task}
    (ht : t ∈ tasks) (ticks : Path → Nat)
    (h : Leads w.extractor (.start w.index src) (s.asTraffic src tasks pending log)) :
    Leads w.extractor (.start w.index src)
      ((s.start w.extractor src ticks t).asTraffic src tasks pending log) := by
  rcases start_cases w.extractor src ticks s t with hstay | ⟨hnone, hheld, due, hstart⟩
  · rw [hstay]
    exact h
  · obtain ⟨front, back, rfl⟩ := List.append_of_mem (hs.mem_of_isHeldBy ht hheld)
    obtain ⟨hfront, hback⟩ := hs.id_ne
    have hbefore : s.calls (front ++ t :: back)
        = s.calls front ++ ⟨t, .waiting⟩ :: s.calls back := by
      rw [calls_append]
      simp only [calls, List.map_cons, stage, hnone]
    have hafter : (s.start w.extractor src ticks t).calls (front ++ t :: back)
        = s.calls front ++ ⟨t, .read (t.update.look w.extractor src t.document)⟩
            :: s.calls back := by
      have hother : ∀ u, u.id ≠ t.id →
          (s.start w.extractor src ticks t).reading? u = s.reading? u := by
        intro u hu
        rw [hstart, reading?_append, if_neg hu.symm, Option.or_none]
      have hreading : (s.start w.extractor src ticks t).reading? t
          = some ⟨t.id, t.update.look w.extractor src t.document, due⟩ := by
        rw [hstart, reading?_append, hnone, if_pos rfl]
        rfl
      rw [calls_append, calls_congr fun u hu => hother u (hfront u hu),
        ← calls_congr fun u hu => hother u (hback u hu)]
      simp only [calls, List.map_cons, stage, hreading]
    have hread := h.move (sound_start _ _ _) rfl (.read hbefore hheld)
    unfold asTraffic
    rw [hafter, hstart]
    exact hread

/-- **To finish a task is to act and to release**, and behind a removal to forget
idle locks. -/
theorem Explained.leads_finish {t : Task} {front back : List Task}
    (hs : s.Explained w src tasks applied (front ++ t :: back)) {r : Reading}
    (hr : s.reading? t = some r) (hdue : ¬ s.now < r.due)
    (h : Leads w.extractor (.start w.index src) (s.asTraffic src tasks (front ++ t :: back) log)) :
    Leads w.extractor (.start w.index src) ((s.finish t).asTraffic src tasks (front ++ back)
      (log ++ [⟨t, r.found, (t.update.apply t.document r.found s.index).2⟩])) := by
  obtain ⟨hfront, hback⟩ := hs.id_ne
  have hbefore : s.calls (front ++ t :: back)
      = s.calls front ++ ⟨t, .read r.found⟩ :: s.calls back := by
    rw [calls_append]
    simp only [calls, List.map_cons, stage, hr]
  have hafter : (s.finish t).calls (front ++ back) = s.calls front ++ s.calls back := by
    have hreadings : (s.finish t).readings = s.readings.filter fun r => r.id != t.id := by
      rw [finish_eq hr hdue]
    rw [calls_append, calls_congr fun u hu => reading?_of_filter hreadings (hfront u hu),
      calls_congr fun u hu => reading?_of_filter hreadings (hback u hu)]
  have hact := h.move (sound_start _ _ _) rfl (.apply hbefore)
  have hrelease := hact.move (sound_start _ _ _) rfl (.release rfl)
  unfold asTraffic
  rw [hafter, finish_eq hr hdue]
  unfold unlock
  by_cases hu : t.update = .deleted
  · rw [if_pos hu]
    exact hrelease.move (sound_start _ _ _) rfl .prune
  · rw [if_neg hu]
    exact hrelease

/-- **A schedule is reached** from a state in which nothing was issued, with the
counts of its completed tasks in the log. -/
def Reached (w : Workspace) (src : Source) (tasks : List Task) (s : Schedule) : Prop :=
  ∃ applied pending log, s.Explained w src tasks applied pending
    ∧ Leads w.extractor (.start w.index src) (s.asTraffic src tasks pending log)
    ∧ log.map (fun e => (e.task.id, e.counts)) = s.done

theorem Reached.start (h : s.Reached w src tasks) {t : Task} (ht : t ∈ tasks)
    (ticks : Path → Nat) : (s.start w.extractor src ticks t).Reached w src tasks := by
  obtain ⟨applied, pending, log, hs, hleads, hdone⟩ := h
  refine ⟨applied, pending, log, hs.start ht ticks, hs.leads_start ht ticks hleads, ?_⟩
  rcases start_cases w.extractor src ticks s t with hstart | ⟨-, -, due, hstart⟩
  · rw [hstart, hdone]
  · rw [hstart, hdone]

theorem Reached.finish (h : s.Reached w src tasks) {t : Task} (ht : t ∈ tasks) :
    (s.finish t).Reached w src tasks := by
  cases hr : s.reading? t with
  | none =>
    have hstay : s.finish t = s := by
      unfold Schedule.finish
      rw [hr]
    rw [hstay]
    exact h
  | some r =>
    by_cases hdue : s.now < r.due
    · have hstay : s.finish t = s := by
        unfold Schedule.finish
        rw [hr]
        exact if_pos hdue
      rw [hstay]
      exact h
    · obtain ⟨applied, pending, log, hs, hleads, hdone⟩ := h
      obtain ⟨front, back, rfl, hs', -, -⟩ := hs.finish ht hr hdue
      refine ⟨applied ++ [t], front ++ back, _, hs', hs.leads_finish hr hdue hleads, ?_⟩
      rw [finish_eq hr hdue, List.map_append, hdone]
      rfl

/-- A pass goes on task by task. -/
theorem Reached.pass (h : s.Reached w src tasks) (ticks : Path → Nat) :
    (s.pass w.extractor src ticks tasks).Reached w src tasks := by
  unfold Schedule.pass
  refine List.foldlRecOn tasks _ h fun s hs t ht => ?_
  exact (hs.start ht ticks).finish ht

/-- A run goes on pass by pass. -/
theorem Reached.run (h : s.Reached w src tasks) (ticks : Path → Nat) (fuel : Nat) :
    (s.run w.extractor src ticks tasks fuel).Reached w src tasks := by
  induction fuel generalizing s with
  | zero => exact h
  | succ fuel ih =>
    rw [Schedule.run]
    split
    next => exact h
    next due hdue =>
      obtain ⟨applied, pending, log, hs, hleads, hdone⟩ := h
      -- time passes, and traffic knows no time
      have hnow : ({ s with now := due } : Schedule).Reached w src tasks :=
        ⟨applied, pending, log, { hs with }, hleads, hdone⟩
      exact ih (hnow.pass ticks)

end

end Schedule

/-! ## Updates issued together -/

namespace Workspace

open Traffic

/-- One more update makes one more task. -/
theorem tasks_concat (updates : List (Update × Path)) (e : Update × Path) :
    tasks (updates ++ [e]) = tasks updates ++ [⟨updates.length, e.1, e.2⟩] := by
  unfold tasks
  rw [List.zipIdx_append, List.map_append]
  simp

/-- **To issue updates together is to issue one after the other.** -/
theorem run_issue (x : Extractor) (i : Index) (src : Source) (updates : List (Update × Path)) :
    (Traffic.start i src).run x (updates.map fun e => .issue e.1 e.2)
      = (Schedule.issue i (tasks updates)).asTraffic src (tasks updates) (tasks updates) [] := by
  induction updates using List.reverseRecOn with
  | nil => rfl
  | append_singleton updates e ih =>
    have hlen : (tasks updates).length = updates.length := by simp [tasks]
    rw [List.map_append, run_append, ih, tasks_concat]
    show Traffic.issue _ e.1 e.2 = _
    unfold Traffic.issue Schedule.asTraffic Schedule.issue
    rw [hlen, Schedule.calls_append, List.foldl_concat]
    rfl

/-- **The schedule of updates issued together is an interleaving of them**: steps
of traffic over a source that nobody edits lead to its index, its locks and
its counts, with every update issued and none under way. -/
theorem schedule_interleaves (w : Workspace) (src : Source) (ticks : Path → Nat)
    (updates : List (Update × Path)) :
    ∃ steps log, (∀ a ∈ steps, a.isEdit = false)
      ∧ (Traffic.start w.index src).run w.extractor steps
        = ⟨src, (w.schedule src ticks updates).index, (w.schedule src ticks updates).locks,
            tasks updates, [], log⟩
      ∧ log.map (fun e => (e.task.id, e.counts)) = (w.schedule src ticks updates).done := by
  have hissue : (Schedule.issue w.index (tasks updates)).Reached w src (tasks updates) := by
    refine ⟨[], tasks updates, [], Schedule.explained_issue w src (pairwise_tasks updates),
      ⟨updates.map fun e => .issue e.1 e.2, ?_, run_issue w.extractor w.index src updates⟩, rfl⟩
    intro a ha
    obtain ⟨e, -, rfl⟩ := List.mem_map.1 ha
    rfl
  obtain ⟨applied, pending, log, hs, ⟨steps, hedit, hrun⟩, hdone⟩ :=
    (hissue.pass ticks).run ticks (tasks updates).length
  -- the queue of the locks is empty in the end, so nothing is pending
  obtain ⟨order, hend⟩ := w.explained_schedule src ticks updates
  have hpending : pending = [] := List.map_eq_nil_iff.1 (hs.queue.symm.trans hend.queue)
  subst hpending
  exact ⟨steps, log, hedit, hrun, hdone⟩

end Workspace

end PcdCatalog

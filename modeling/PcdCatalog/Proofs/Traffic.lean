import PcdCatalog.Proofs.IndexLaws
import PcdCatalog.Proofs.Linearisation
import PcdCatalog.Proofs.SourceLaws

/-!
# Updates in any interleaving

An update takes four steps: it asks for the lock of its document, it reads the
document once it has the lock, it acts on the index in one go, and it gives the
lock back. `Traffic` lets the steps of any number of updates come in any order,
with edits of the source and the forgetting of idle locks between them. A
schedule (`PcdCatalog.Overlap`) is one such order, picked by how long each read
takes, over a source that stands still (`Workspace.schedule_interleaves`); here
reads take as long as they like, and what they bring may be out of date by the
time it is used.

`Traffic.run` follows a list of steps, and a step that cannot be taken – a read
without the lock, say – changes nothing; so every list of steps is a run, and
the states of all runs are the reachable ones. `Traffic.Move` says what a step
does that can be taken.

`Traffic.Sound` is what holds in every reachable state. The calls under way
queue for their locks in the order of issue, and only the first in line of a
document has got past waiting. The index is what the logged calls made of it,
one after the other, and for each document the log and the calls still to act
are together the calls issued, in their order.
-/

namespace PcdCatalog

/-- How far a call has come. -/
inductive Stage where
  /-- It has asked for the lock. -/
  | waiting
  /-- It has the lock and has read its document. A removal reads nothing. -/
  | read (found : Found)
  /-- It has acted on the index, and still has the lock. -/
  | applied

/-- A call under way. -/
structure Call where
  task : Task
  stage : Stage

/-- Whether a call has yet to act on the index. -/
def Call.isDue (c : Call) : Bool :=
  match c.stage with
  | .waiting | .read _ => true
  | .applied => false

/-- What a call did: what it had found, and the counts that it returns. -/
structure Effect where
  task : Task
  found : Found
  counts : UpdateCounts

namespace Effect

/-- The index after a call has acted. -/
def apply (i : Index) (e : Effect) : Index :=
  (e.task.update.apply e.task.document e.found i).1

/-- The declaration of a symbol in what a call had found. -/
def declared? (e : Effect) (s : String) : Option Span := e.found.bind (·.get? s)

/-- What a call had found is what its document said at some time. -/
def Looked (x : Extractor) (e : Effect) : Prop :=
  ∃ src, e.found = e.task.update.look x src e.task.document

end Effect

/-- **Calls under way on one index.** -/
structure Traffic where
  source : Source
  index : Index
  locks : Locks Nat
  /-- Every call issued so far, in the order of issue. -/
  issued : List Task
  /-- The calls that have not given their locks back, in the order of issue. -/
  calls : List Call
  /-- What the calls did that have acted, in the order in which they acted. -/
  log : List Effect

namespace Traffic

/-! ## Steps -/

/-- What can happen next. -/
inductive Step where
  /-- The source is edited. -/
  | edit (source : Source)
  /-- A call asks for the lock of its document. -/
  | issue (update : Update) (document : Path)
  /-- The call with this number reads. -/
  | read (id : Nat)
  /-- The call with this number acts on the index. -/
  | apply (id : Nat)
  /-- The call with this number gives its lock back. -/
  | release (id : Nat)
  /-- Idle locks are forgotten. -/
  | prune

/-- Whether a step issues a call for a document. -/
def Step.issuesFor (doc : Path) : Step → Bool
  | .issue _ d => d.same doc
  | _ => false

/-- No call has been issued. -/
def start (i : Index) (src : Source) : Traffic := ⟨src, i, .empty, [], [], []⟩

/-- The calls before the one with a number, that call, and those behind it. -/
def locate (id : Nat) (calls : List Call) : Option (List Call × Call × List Call) :=
  match calls.dropWhile fun c => c.task.id != id with
  | [] => none
  | c :: back => some (calls.takeWhile fun c => c.task.id != id, c, back)

/-- A new call asks for the lock of its document. Calls are numbered as they
come. -/
def issue (s : Traffic) (u : Update) (doc : Path) : Traffic :=
  { s with
    locks := s.locks.acquire s.issued.length doc
    issued := s.issued ++ [⟨s.issued.length, u, doc⟩]
    calls := s.calls ++ [⟨⟨s.issued.length, u, doc⟩, .waiting⟩] }

/-- The state after a step. A step that cannot be taken changes nothing. -/
def step (x : Extractor) (s : Traffic) : Step → Traffic
  | .edit src => { s with source := src }
  | .issue u doc => s.issue u doc
  | .read id =>
    match locate id s.calls with
    | some (front, ⟨t, .waiting⟩, back) =>
      if s.locks.isHeldBy t.id then
        { s with calls := front ++ ⟨t, .read (t.update.look x s.source t.document)⟩ :: back }
      else s
    | _ => s
  | .apply id =>
    match locate id s.calls with
    | some (front, ⟨t, .read found⟩, back) =>
      { s with
        index := (t.update.apply t.document found s.index).1
        calls := front ++ ⟨t, .applied⟩ :: back
        log := s.log ++ [⟨t, found, (t.update.apply t.document found s.index).2⟩] }
    | _ => s
  | .release id =>
    match locate id s.calls with
    | some (front, ⟨t, .applied⟩, back) =>
      { s with locks := s.locks.release t.id, calls := front ++ back }
    | _ => s
  | .prune => { s with locks := s.locks.prune }

/-- **The state after some steps.** -/
def run (x : Extractor) (s : Traffic) (steps : List Step) : Traffic := steps.foldl (step x) s

/-- **What a step does that can be taken.** -/
inductive Move (x : Extractor) (s : Traffic) : Step → Traffic → Prop where
  | edit (src : Source) : Move x s (.edit src) { s with source := src }
  | issue (u : Update) (doc : Path) : Move x s (.issue u doc) (s.issue u doc)
  | read {front back : List Call} {t : Task} (hcalls : s.calls = front ++ ⟨t, .waiting⟩ :: back)
      (hheld : s.locks.isHeldBy t.id = true) :
      Move x s (.read t.id)
        { s with calls := front ++ ⟨t, .read (t.update.look x s.source t.document)⟩ :: back }
  | apply {front back : List Call} {t : Task} {found : Found}
      (hcalls : s.calls = front ++ ⟨t, .read found⟩ :: back) :
      Move x s (.apply t.id)
        { s with
          index := (t.update.apply t.document found s.index).1
          calls := front ++ ⟨t, .applied⟩ :: back
          log := s.log ++ [⟨t, found, (t.update.apply t.document found s.index).2⟩] }
  | release {front back : List Call} {t : Task}
      (hcalls : s.calls = front ++ ⟨t, .applied⟩ :: back) :
      Move x s (.release t.id) { s with locks := s.locks.release t.id, calls := front ++ back }
  | prune : Move x s .prune { s with locks := s.locks.prune }

section

variable {x : Extractor} {s : Traffic}

/-- Where a call is found the calls split. -/
theorem locate_eq_some {id : Nat} {calls front back : List Call} {c : Call}
    (h : locate id calls = some (front, c, back)) :
    calls = front ++ c :: back ∧ c.task.id = id := by
  unfold locate at h
  have hsplit := List.takeWhile_append_dropWhile (p := fun c : Call => c.task.id != id) (l := calls)
  have hhead := List.head?_dropWhile_not (fun c : Call => c.task.id != id) calls
  cases hdrop : calls.dropWhile (fun c => c.task.id != id) with
  | nil =>
    rw [hdrop] at h
    exact absurd h (by simp)
  | cons d rest =>
    rw [hdrop] at h hsplit hhead
    obtain ⟨rfl, rfl, rfl⟩ : _ = front ∧ d = c ∧ rest = back := by simpa using h
    exact ⟨hsplit.symm, by simpa using hhead⟩

/-- **A step changes nothing or moves.** -/
theorem step_cases (x : Extractor) (s : Traffic) (a : Step) :
    s.step x a = s ∨ Move x s a (s.step x a) := by
  cases a with
  | edit src => exact Or.inr (.edit src)
  | issue u doc => exact Or.inr (.issue u doc)
  | prune => exact Or.inr .prune
  | read id =>
    simp only [step]
    split
    next front t back h =>
      obtain ⟨hcalls, rfl⟩ := locate_eq_some h
      split
      next hheld => exact Or.inr (.read hcalls hheld)
      next => exact Or.inl rfl
    next => exact Or.inl rfl
  | apply id =>
    simp only [step]
    split
    next front t found back h =>
      obtain ⟨hcalls, rfl⟩ := locate_eq_some h
      exact Or.inr (.apply hcalls)
    next => exact Or.inl rfl
  | release id =>
    simp only [step]
    split
    next front t back h =>
      obtain ⟨hcalls, rfl⟩ := locate_eq_some h
      exact Or.inr (.release hcalls)
    next => exact Or.inl rfl

/-- **What every move keeps, a run keeps.** Only the moves of the steps at hand
count. -/
theorem run_induction {P : Traffic → Prop} {steps : List Step} (hs : P s)
    (hmove : ∀ a ∈ steps, ∀ s s', P s → Move x s a s' → P s') : P (s.run x steps) := by
  induction steps generalizing s with
  | nil => exact hs
  | cons a steps ih =>
    have hstep : P (s.step x a) := by
      rcases step_cases x s a with h | h
      · rw [h]
        exact hs
      · exact hmove a List.mem_cons_self s _ hs h
    exact ih hstep fun b hb => hmove b (List.mem_cons_of_mem a hb)

theorem run_append (x : Extractor) (s : Traffic) (before after : List Step) :
    s.run x (before ++ after) = (s.run x before).run x after :=
  List.foldl_append

/-! ## The queue of calls -/

/-- **Calls queue for their locks in the order of issue**, and only the first in
line of a document has got past waiting. -/
structure Queued (l : Locks Nat) (issued : List Task) (calls : List Call) : Prop where
  coherent : l.Coherent
  queue : l.queue = (calls.map Call.task).map fun t => (t.id, t.document)
  numbered : issued.Pairwise fun a b => a.id < b.id
  below : ∀ t ∈ issued, t.id < issued.length
  sublist : (calls.map Call.task).Sublist issued
  first : ∀ c ∈ calls, c.stage ≠ .waiting → c.task.Heads (calls.map Call.task)

section

variable {l : Locks Nat} {issued : List Task} {calls front back : List Call} {t : Task}

/-- Only the call that goes on to another stage is not as it was. -/
theorem mem_of_mem_stage (a : Stage) {b : Stage} {c : Call} (h : c ∈ front ++ ⟨t, b⟩ :: back) :
    c = ⟨t, b⟩ ∨ c ∈ front ++ ⟨t, a⟩ :: back := by
  rcases List.mem_append.1 h with h | h
  · exact Or.inr (List.mem_append_left _ h)
  · rcases List.mem_cons.1 h with h | h
    · exact Or.inl h
    · exact Or.inr (List.mem_append_right _ (List.mem_cons_of_mem _ h))

theorem map_task_stage (front back : List Call) (t : Task) (a b : Stage) :
    (front ++ ⟨t, a⟩ :: back).map Call.task = (front ++ ⟨t, b⟩ :: back).map Call.task := by
  simp only [List.map_append, List.map_cons]

theorem Queued.sorted (hq : Queued l issued calls) :
    (calls.map Call.task).Pairwise fun a b => a.id < b.id :=
  hq.numbered.sublist hq.sublist

/-- A new call has the highest number, and is last in the queue. -/
theorem Queued.issue (hq : Queued l issued calls) (u : Update) (doc : Path) :
    Queued (l.acquire issued.length doc) (issued ++ [⟨issued.length, u, doc⟩])
      (calls ++ [⟨⟨issued.length, u, doc⟩, .waiting⟩]) where
  coherent := hq.coherent.acquire _ doc
  queue := by
    rw [Locks.queue_acquire, hq.queue]
    simp only [List.map_append, List.map_cons, List.map_nil]
  numbered := by
    refine List.pairwise_append.2 ⟨hq.numbered, List.pairwise_singleton _ _, fun t ht t' ht' => ?_⟩
    rw [List.mem_singleton.1 ht']
    exact hq.below t ht
  below := by
    intro t ht
    rw [List.length_append, List.length_singleton]
    rcases List.mem_append.1 ht with ht | ht
    · exact Nat.lt_succ_of_lt (hq.below t ht)
    · rw [List.mem_singleton.1 ht]
      exact Nat.lt_succ_self _
  sublist := by
    rw [List.map_append]
    exact hq.sublist.append (List.Sublist.refl _)
  first := by
    intro c hc hstage
    rcases List.mem_append.1 hc with hc | hc
    · unfold Task.Heads
      rw [List.map_append, List.find?_append]
      exact Option.or_eq_some_iff.2 (Or.inl (hq.first c hc hstage))
    · rw [List.mem_singleton.1 hc] at hstage
      exact absurd rfl hstage

/-- **Who has the lock is first in line.** -/
theorem Queued.heads_of_isHeldBy {a : Stage} (hq : Queued l issued (front ++ ⟨t, a⟩ :: back))
    (hheld : l.isHeldBy t.id = true) : t.Heads ((front ++ ⟨t, a⟩ :: back).map Call.task) := by
  have hmem : t ∈ (front ++ ⟨t, a⟩ :: back).map Call.task :=
    List.mem_map.2 ⟨_, List.mem_append_right front List.mem_cons_self, rfl⟩
  exact (Schedule.isHeldBy_iff_heads hq.coherent hq.queue hq.sorted hmem).1 hheld

/-- The first in line may go on to another stage. -/
theorem Queued.stage {a : Stage} (hq : Queued l issued (front ++ ⟨t, a⟩ :: back))
    (ht : t.Heads ((front ++ ⟨t, a⟩ :: back).map Call.task)) (b : Stage) :
    Queued l issued (front ++ ⟨t, b⟩ :: back) := by
  have htasks := map_task_stage front back t b a
  refine { hq with queue := ?_, sublist := ?_, first := fun c hc hstage => ?_ }
  · rw [htasks]
    exact hq.queue
  · rw [htasks]
    exact hq.sublist
  · rw [htasks]
    rcases mem_of_mem_stage a hc with rfl | hc
    · exact ht
    · exact hq.first c hc hstage

/-- A call leaves the queue when it gives its lock back. -/
theorem Queued.release {a : Stage} (hq : Queued l issued (front ++ ⟨t, a⟩ :: back)) :
    Queued (l.release t.id) issued (front ++ back) := by
  have hsplit : ∀ b, (front ++ ⟨t, b⟩ :: back).map Call.task
      = front.map Call.task ++ t :: back.map Call.task := by
    intro b
    rw [List.map_append, List.map_cons]
  have hsorted := hq.sorted
  have hfirst := hq.first
  have hsub := hq.sublist
  rw [hsplit] at hsorted hfirst hsub
  have hgone : (front.map Call.task ++ t :: back.map Call.task).filter (fun u => u.id ≠ t.id)
      = front.map Call.task ++ back.map Call.task := Schedule.filter_id_ne hsorted
  refine { hq with coherent := hq.coherent.release t.id, queue := ?_, sublist := ?_,
                   first := fun c hc hstage => ?_ }
  · rw [Locks.queue_release, hq.queue, hsplit, List.filter_map, List.map_append, ← hgone]
    rfl
  · rw [List.map_append]
    exact ((List.sublist_cons_self t _).append_left _).trans hsub
  · have hmem : c.task ∈ front.map Call.task ++ back.map Call.task := by
      rw [← List.map_append]
      exact List.mem_map_of_mem hc
    have hne : c.task ≠ t := by
      rw [← hgone] at hmem
      rintro rfl
      simpa using (List.mem_filter.1 hmem).2
    rw [List.map_append]
    refine (hfirst c ?_ hstage).of_other_gone hne
    exact ((List.sublist_cons_self _ back).append_left front).subset hc

/-- What stands before the first in line is of other documents. -/
theorem Queued.front_other {a : Stage} (hq : Queued l issued (front ++ ⟨t, a⟩ :: back))
    (ht : t.Heads ((front ++ ⟨t, a⟩ :: back).map Call.task)) {c : Call} (hc : c ∈ front) :
    c.task.document.same t.document = false := by
  have hsorted := hq.sorted
  unfold Task.Heads at ht
  rw [List.map_append, List.map_cons] at ht hsorted
  rw [List.find?_append] at ht
  have hlt : ∀ u ∈ front.map Call.task, u.id < t.id :=
    fun u hu => (List.pairwise_append.1 hsorted).2.2 u hu t List.mem_cons_self
  cases hf : (front.map Call.task).find? (fun u => u.document.same t.document) with
  | some u =>
    rw [hf] at ht
    have hut : u = t := Option.some.inj ht
    exact absurd (hlt u (List.mem_of_find?_eq_some hf)) (by rw [hut]; exact Nat.lt_irrefl _)
  | none => simpa using List.find?_eq_none.1 hf c.task (List.mem_map_of_mem hc)

end

/-! ## What holds in every reachable state -/

/-- The tasks of the calls that have yet to act. -/
def dueOf (calls : List Call) : List Task := (calls.filter Call.isDue).map Call.task

theorem dueOf_append (a b : List Call) : dueOf (a ++ b) = dueOf a ++ dueOf b := by
  simp only [dueOf, List.filter_append, List.map_append]

theorem dueOf_cons (c : Call) (calls : List Call) :
    dueOf (c :: calls) = if c.isDue then c.task :: dueOf calls else dueOf calls := by
  unfold dueOf
  rw [List.filter_cons]
  split <;> rfl

/-- The index that logged calls make of one, in turn. -/
def replay (i : Index) (log : List Effect) : Index := log.foldl Effect.apply i

/-- **The invariant of calls under way.** -/
structure Sound (x : Extractor) (i : Index) (s : Traffic) : Prop where
  queued : Queued s.locks s.issued s.calls
  /-- The index is what the logged calls made of the first one. -/
  index : s.index = replay i s.log
  /-- What a call has read is what its document said at some time. -/
  looked : ∀ c ∈ s.calls, ∀ found, c.stage = .read found →
    ∃ src, found = c.task.update.look x src c.task.document
  logged : ∀ e ∈ s.log, e.Looked x
  /-- The calls of a document act in the order of issue. -/
  order : ∀ doc : Path,
    (s.log.map Effect.task ++ dueOf s.calls).filter (fun t => t.document.same doc)
      = s.issued.filter fun t => t.document.same doc

theorem sound_start (x : Extractor) (i : Index) (src : Source) : (start i src).Sound x i where
  queued := {
    coherent := Locks.coherent_empty
    queue := rfl
    numbered := List.Pairwise.nil
    below := fun _ ht => absurd ht List.not_mem_nil
    sublist := List.Sublist.refl []
    first := fun _ hc => absurd hc List.not_mem_nil }
  index := rfl
  looked := fun _ hc => absurd hc List.not_mem_nil
  logged := fun _ he => absurd he List.not_mem_nil
  order := fun _ => rfl

variable {i : Index}

/-- **Every move keeps the invariant.** -/
theorem Sound.move {a : Step} {s' : Traffic} (hs : s.Sound x i) (h : Move x s a s') :
    s'.Sound x i := by
  cases h with
  | edit src => exact { hs with }
  | prune => exact { hs with queued := { hs.queued with coherent := hs.queued.coherent.prune } }
  | issue u doc =>
    refine { queued := hs.queued.issue u doc, index := hs.index, logged := hs.logged,
             looked := fun c hc found hread => ?_, order := fun doc' => ?_ }
    · rcases List.mem_append.1 hc with hc | hc
      · exact hs.looked c hc found hread
      · rw [List.mem_singleton.1 hc] at hread
        exact absurd hread (by simp)
    · show (s.log.map Effect.task ++ dueOf (s.calls ++ [_])).filter _ = (s.issued ++ [_]).filter _
      rw [dueOf_append, ← List.append_assoc, List.filter_append, hs.order doc', List.filter_append]
      rfl
  | @read front back t hcalls hheld =>
    have hq := hs.queued
    have hlooked := hs.looked
    have horder := hs.order
    rw [hcalls] at hq hlooked horder
    refine { hs with queued := hq.stage (hq.heads_of_isHeldBy hheld) _,
                     looked := fun c hc found hread => ?_, order := fun doc => ?_ }
    · rcases mem_of_mem_stage .waiting hc with rfl | hc
      · cases hread
        exact ⟨s.source, rfl⟩
      · exact hlooked c hc found hread
    · rw [← horder doc]
      simp only [dueOf_append, dueOf_cons, Call.isDue]
  | @apply front back t found hcalls =>
    have hq := hs.queued
    have hlooked := hs.looked
    have horder := hs.order
    rw [hcalls] at hq hlooked horder
    have hmem : (⟨t, .read found⟩ : Call) ∈ front ++ ⟨t, .read found⟩ :: back :=
      List.mem_append_right front List.mem_cons_self
    have hheads := hq.first _ hmem (by simp)
    refine { queued := hq.stage hheads _, index := ?_, looked := fun c hc found' hread => ?_,
             logged := fun e he => ?_, order := fun doc => ?_ }
    · show _ = replay i (s.log ++ [_])
      unfold replay
      rw [List.foldl_concat, hs.index]
      rfl
    · rcases mem_of_mem_stage (.read found) hc with rfl | hc
      · exact absurd hread (by simp)
      · exact hlooked c hc found' hread
    · rcases List.mem_append.1 he with he | he
      · exact hs.logged e he
      · rw [List.mem_singleton.1 he]
        exact hlooked _ hmem found rfl
    · rw [← horder doc]
      -- nothing of its document is due before the first in line
      have hfront : ∀ u ∈ dueOf front, u.document.same t.document = false := by
        intro u hu
        obtain ⟨c, hc, rfl⟩ := List.mem_map.1 hu
        exact hq.front_other hheads (List.mem_filter.1 hc).1
      have hmove : (s.log.map Effect.task ++ [t] ++ (dueOf front ++ dueOf back)).filter
            (fun u => u.document.same doc)
          = (s.log.map Effect.task ++ (dueOf front ++ t :: dueOf back)).filter
            fun u => u.document.same doc := Schedule.filter_same_of_heads hfront doc
      simpa only [List.map_append, List.map_cons, List.map_nil, dueOf_append, dueOf_cons,
        Call.isDue, if_true, Bool.false_eq_true, if_false] using hmove
  | @release front back t hcalls =>
    have hq := hs.queued
    have hlooked := hs.looked
    have horder := hs.order
    rw [hcalls] at hq hlooked horder
    refine { hs with queued := hq.release, looked := fun c hc => hlooked c ?_,
                     order := fun doc => ?_ }
    · exact ((List.sublist_cons_self _ back).append_left front).subset hc
    · rw [← horder doc]
      simp only [dueOf_append, dueOf_cons, Call.isDue, Bool.false_eq_true, if_false]

/-- **Every reachable state is sound.** -/
theorem Sound.run (hs : s.Sound x i) (steps : List Step) : (s.run x steps).Sound x i :=
  run_induction hs fun _ _ _ _ hs h => hs.move h

end

end Traffic

end PcdCatalog

import PcdCatalog.Proofs.Coalescing
import PcdCatalog.Proofs.LateMerge

/-!
# Batches of changes in any interleaving

`Workspace.process` follows a batch of changes one after the other. For each it
first looks whether the document owns anything, to tell a creation that has to
drop old symbols from one that only adds, and then issues the call. It looks
before it has the lock of the document. So what it has seen may no longer be so
when its call acts, since a call that another batch issued can act in between.

A `Handling` has any number of batches over one `Traffic`, whose steps come in any
order, with edits of the source between them. A batch looks at its next change
once its last call has given the lock back. What it saw then, and when, is kept
for each call in `Handling.items`.

A batch that runs alone does what `Workspace.process` does (`exists_run_process`).
For batches that overlap, `declared_or_overtaken` says what the last call of a
document leaves: nothing but what the document declares now, except where that
call only added, and then what calls of the document brought that acted after its
batch had looked. `stale_of_overtaken` is a run in which that exception occurs.
-/

namespace PcdCatalog

/-- **A change that a batch has looked at**: what it saw, and when. -/
structure Item where
  change : Event
  /-- Whether the document owned anything. -/
  owned : Bool
  /-- How many calls had acted by then. -/
  acted : Nat
  /-- How many sources there had been before the one of then. -/
  since : Nat

/-- The update that the change calls for. -/
def Item.update (c : Item) : Update := c.change.kind.route c.owned

/-- How far a batch has come with a change. -/
inductive Phase where
  /-- It has not begun. -/
  | ready
  /-- It has looked at the change. -/
  | checked (item : Item)
  /-- It has issued the call with this number. -/
  | issued (id : Nat)

/-- A batch: the changes it has not looked at, and how far it is with the last one
that it has. -/
structure Batch where
  rest : List Event
  phase : Phase

/-- **Batches of changes under way.** -/
structure Handling where
  traffic : Traffic
  /-- Every source so far. The last one is that of the calls. -/
  sources : List Source
  batches : List Batch
  /-- The changes whose calls have been issued, by the numbers of the calls. -/
  items : List Item

namespace Handling

/-- The index that all act on. -/
def index (s : Handling) : Index := s.traffic.index

/-! ## Steps -/

/-- What can happen next. -/
inductive Step where
  /-- The source is edited. -/
  | edit (source : Source)
  /-- A batch of changes comes in. -/
  | begin (changes : List Event)
  /-- A batch, counted from the first, looks at its next change. -/
  | check (n : Nat)
  /-- A batch issues the call for the change it has looked at. -/
  | issue (n : Nat)
  /-- The call with this number reads. -/
  | read (id : Nat)
  /-- The call with this number acts on the index. -/
  | apply (id : Nat)
  /-- The call with this number gives its lock back. -/
  | release (id : Nat)
  /-- Idle locks are forgotten. -/
  | prune

/-- No batch has come in. -/
def start (i : Index) (src : Source) : Handling := ⟨.start i src, [src], [], []⟩

/-- What is seen of a change now. -/
def item (s : Handling) (change : Event) : Item :=
  ⟨change, s.index.owns change.path, s.traffic.log.length, s.sources.length - 1⟩

/-- Whether a batch can turn to its next change: its last call, if it has issued
one, is over. -/
def isReady (s : Handling) : Phase → Bool
  | .ready => true
  | .checked _ => false
  | .issued id => s.traffic.calls.all fun c => c.task.id != id

/-- A batch looks at its next change. -/
def check (s : Handling) (n : Nat) (change : Event) (rest : List Event) : Handling :=
  { s with batches := s.batches.set n ⟨rest, .checked (s.item change)⟩ }

/-- A batch issues the call for the change it has looked at. -/
def issue (s : Handling) (n : Nat) (rest : List Event) (c : Item) : Handling :=
  { s with
    traffic := s.traffic.issue c.update c.change.path
    batches := s.batches.set n ⟨rest, .issued s.traffic.issued.length⟩
    items := s.items ++ [c] }

/-- The state after a step. A step that cannot be taken changes nothing. -/
def step (x : Extractor) (s : Handling) : Step → Handling
  | .edit src =>
    { s with traffic := s.traffic.step x (.edit src), sources := s.sources ++ [src] }
  | .begin changes => { s with batches := s.batches ++ [⟨changes, .ready⟩] }
  | .check n =>
    match s.batches[n]? with
    | some ⟨change :: rest, phase⟩ => if s.isReady phase then s.check n change rest else s
    | _ => s
  | .issue n =>
    match s.batches[n]? with
    | some ⟨rest, .checked c⟩ => s.issue n rest c
    | _ => s
  | .read id => { s with traffic := s.traffic.step x (.read id) }
  | .apply id => { s with traffic := s.traffic.step x (.apply id) }
  | .release id => { s with traffic := s.traffic.step x (.release id) }
  | .prune => { s with traffic := s.traffic.step x .prune }

/-- **The state after some steps.** -/
def run (x : Extractor) (s : Handling) (steps : List Step) : Handling := steps.foldl (step x) s

theorem run_append (x : Extractor) (s : Handling) (before after : List Step) :
    s.run x (before ++ after) = (s.run x before).run x after :=
  List.foldl_append

/-! ## A batch that runs alone -/

variable {s : Handling}

/-- Nothing is under way, and a batch can turn to these changes. -/
structure Resting (src : Source) (n : Nat) (changes : List Event) (s : Handling) : Prop where
  source : s.traffic.source = src
  calls : s.traffic.calls = []
  claims : s.traffic.locks.claims = []
  batch : ∃ phase, s.batches[n]? = some ⟨changes, phase⟩ ∧ s.isReady phase = true

/-- **A call that runs alone is an update.** -/
theorem run_call_alone {t : Traffic} (hcalls : t.calls = []) (hclaims : t.locks.claims = [])
    (x : Extractor) (u : Update) (doc : Path) :
    let s := (t.issue u doc).run x
      [.read t.issued.length, .apply t.issued.length, .release t.issued.length]
    s.source = t.source ∧ s.calls = [] ∧ s.locks.claims = []
      ∧ s.index = (u.apply doc (u.look x t.source doc) t.index).1 := by
  have hheld : (t.locks.acquire t.issued.length doc).isHeldBy t.issued.length = true := by
    simp [Locks.isHeldBy, Locks.holds, Locks.holder?, Locks.claims_acquire, hclaims]
  have hfree : ((t.locks.acquire t.issued.length doc).release t.issued.length).claims = [] := by
    simp [Locks.release, Locks.claims_acquire, hclaims]
  simpa [Traffic.run, Traffic.step, Traffic.issue, Traffic.locate, hcalls, hheld] using hfree

/-- The steps of a batch that follows its next change alone. -/
def followAlone (s : Handling) (n : Nat) : List Step :=
  [.check n, .issue n, .read s.traffic.issued.length, .apply s.traffic.issued.length,
    .release s.traffic.issued.length]

/-- **A change that is followed alone is followed.** -/
theorem Resting.follow {src : Source} {n : Nat} {change : Event} {rest : List Event}
    (hs : s.Resting src n (change :: rest)) (w : Workspace) (hw : s.index = w.index) :
    (s.run w.extractor (s.followAlone n)).Resting src n rest
      ∧ (s.run w.extractor (s.followAlone n)).index = (w.follow src change).1.index := by
  obtain ⟨phase, hbatch, hready⟩ := hs.batch
  have hn : n < s.batches.length := (List.getElem?_eq_some_iff.1 hbatch).1
  have hcheck : s.step w.extractor (.check n) = s.check n change rest := by
    simp only [step, hbatch, hready, if_true]
  have hissue : (s.check n change rest).step w.extractor (.issue n)
      = (s.check n change rest).issue n rest (s.item change) := by
    simp [step, check, hn]
  obtain ⟨hsource, hcalls, hclaims, hindex⟩ := run_call_alone hs.calls hs.claims w.extractor
    (s.item change).update change.path
  have hrun : s.run w.extractor (s.followAlone n)
      = { (s.check n change rest).issue n rest (s.item change) with
          traffic := (s.traffic.issue (s.item change).update change.path).run w.extractor
            [.read s.traffic.issued.length, .apply s.traffic.issued.length,
              .release s.traffic.issued.length] } := by
    show ((s.step w.extractor (.check n)).step w.extractor (.issue n)).run w.extractor _ = _
    rw [hcheck, hissue]
    rfl
  rw [hrun]
  refine ⟨⟨hsource.trans hs.source, hcalls, hclaims, .issued s.traffic.issued.length, ?_, ?_⟩, ?_⟩
  · simp [issue, check, hn]
  · simp only [isReady, hcalls]
    rfl
  · have hupdate : (s.item change).update = change.kind.route (w.index.owns change.path) := by
      rw [← hw]
      rfl
    refine hindex.trans ?_
    rw [hs.source, hupdate, show s.traffic.index = w.index from hw]
    rfl

/-- **A batch that runs alone is processed.** -/
theorem Resting.exists_run {src : Source} {n : Nat} {changes : List Event} (w : Workspace)
    (hs : s.Resting src n changes) (hw : s.index = w.index) :
    ∃ steps, (s.run w.extractor steps).Resting src n []
      ∧ (s.run w.extractor steps).index = (w.processEach src changes).index := by
  induction changes generalizing s w with
  | nil => exact ⟨[], hs, hw⟩
  | cons change rest ih =>
    obtain ⟨hrest, hindex⟩ := hs.follow w hw
    obtain ⟨steps, hsteps⟩ := ih (w.process src [change]).1 hrest hindex
    rw [Workspace.extractor_process, ← run_append] at hsteps
    exact ⟨_, hsteps⟩

/-- **A batch that runs alone does what `Workspace.process` does.** -/
theorem exists_run_process (w : Workspace) (src : Source) (changes : List Event) :
    ∃ steps, let s := (start w.index src).run w.extractor (.begin changes :: steps)
      s.traffic.calls = [] ∧ s.index = (w.process src changes).1.index := by
  have hs : ((start w.index src).step w.extractor (.begin changes)).Resting src 0 changes :=
    ⟨rfl, rfl, rfl, .ready, rfl, rfl⟩
  obtain ⟨steps, hrest, hindex⟩ := hs.exists_run w rfl
  rw [Workspace.processEach_eq] at hindex
  exact ⟨steps, hrest.calls, hindex⟩

end Handling

/-! ## What a batch saw -/

/-- What is not a removal reads its document. -/
theorem Update.look_of_ne_deleted {u : Update} (hu : u ≠ .deleted) (x : Extractor) (src : Source)
    (doc : Path) : u.look x src doc = x.look src doc := by
  cases u with
  | created => rfl
  | changed => rfl
  | deleted => exact absurd rfl hu

/-- What a document owns after some calls it owned before them, or a call of its own
brought it. -/
theorem Traffic.get?_or_brought {x : Extractor} {i : Index} {log : List Effect} {d : Path}
    {sym : String} {span : Span} (hlooked : ∀ e ∈ log, e.Looked x)
    (hget : (Traffic.replay i log).get? sym = some span) (hown : Index.ownedBy d span = true) :
    i.get? sym = some span
      ∨ ∃ e ∈ log, e.task.document.same d = true ∧ e.declared? sym = some span := by
  induction log generalizing i with
  | nil => exact Or.inl hget
  | cons e log ih =>
    rw [List.forall_mem_cons] at hlooked
    obtain hkept | ⟨e', he', hbrought⟩ := ih hlooked.2 hget
    · rw [hlooked.1.get?_apply] at hkept
      obtain hnew | ⟨-, hold⟩ := Option.or_eq_some_iff.1 hkept
      · refine Or.inr ⟨e, List.mem_cons_self, ?_, hnew⟩
        unfold Index.ownedBy at hown
        rwa [hlooked.1.document_of_declared? hnew] at hown
      · exact Or.inl (Option.filter_eq_some_iff.1 hold).1
    · exact Or.inr ⟨e', List.mem_cons_of_mem e he', hbrought⟩

namespace Item

variable {x : Extractor} {i : Index} {log : List Effect} {sources : List Source} {c : Item}

theorem update_eq_created_iff :
    c.update = .created ↔ c.change.kind = .created ∧ c.owned = false := by
  unfold update ChangeKind.route
  cases c.change.kind <;> cases c.owned <;> simp

theorem update_eq_deleted_iff : c.update = .deleted ↔ c.change.kind = .deleted := by
  unfold update ChangeKind.route
  cases c.change.kind <;> cases c.owned <;> simp

/-- **What a batch saw was so** when the calls had acted that it counted. -/
structure Fits (i : Index) (log : List Effect) (sources : List Source) (c : Item) : Prop where
  acted : c.acted ≤ log.length
  owned : c.owned = (Traffic.replay i (log.take c.acted)).owns c.change.path
  since : c.since < sources.length

/-- Something was read in a source that there has been since the batch looked. -/
def Saw (x : Extractor) (sources : List Source) (c : Item) (found : Found) : Prop :=
  ∃ src ∈ sources.drop c.since, found = c.update.look x src c.change.path

/-- Calls that act later do not matter to it. -/
theorem Fits.act (h : c.Fits i log sources) (acts : List Effect) :
    c.Fits i (log ++ acts) sources where
  acted := by
    rw [List.length_append]
    exact Nat.le_add_right_of_le h.acted
  owned := by
    rw [List.take_append_of_le_length h.acted]
    exact h.owned
  since := h.since

/-- Nor do later edits. -/
theorem Fits.edit (h : c.Fits i log sources) (edits : List Source) :
    c.Fits i log (sources ++ edits) where
  acted := h.acted
  owned := h.owned
  since := by
    rw [List.length_append]
    exact Nat.lt_add_right _ h.since

theorem Saw.edit {found : Found} (h : c.Saw x sources found) (edits : List Source) :
    c.Saw x (sources ++ edits) found := by
  obtain ⟨src, hsrc, hfound⟩ := h
  refine ⟨src, ?_, hfound⟩
  rw [List.drop_append]
  exact List.mem_append_left _ hsrc

/-- **What only adds leaves what was brought since its batch looked.** At that time
the document owned nothing. -/
theorem Fits.brought {early late : List Effect} {d : Path} {sym : String} {span : Span}
    (hc : c.Fits i (early ++ late) sources) (hlooked : ∀ e ∈ early, e.Looked x)
    (hacted : c.acted ≤ early.length) (howned : c.owned = false)
    (hpath : c.change.path.same d = true) (hget : (Traffic.replay i early).get? sym = some span)
    (hown : Index.ownedBy d span = true) :
    ∃ e ∈ early.drop c.acted, e.task.document.same d = true ∧ e.declared? sym = some span := by
  have hnone := hc.owned
  rw [howned, List.take_append_of_le_length hacted] at hnone
  have hsplit : Traffic.replay i early
      = Traffic.replay (Traffic.replay i (early.take c.acted)) (early.drop c.acted) := by
    unfold Traffic.replay
    rw [← List.foldl_append, List.take_append_drop]
  rw [hsplit] at hget
  obtain hold | hbrought :=
    Traffic.get?_or_brought (fun e he => hlooked e (List.mem_of_mem_drop he)) hget hown
  · -- nothing can have been there, under whatever spelling
    have hpath' : Index.ownedBy c.change.path span = true :=
      Path.same_iff.2 ((Path.same_iff.1 hown).trans (Path.same_iff.1 hpath).symm)
    have howns := (Index.owns_iff _ _).2 ⟨sym, span, hold, hpath'⟩
    rw [← hnone] at howns
    exact absurd howns (by simp)
  · exact hbrought

end Item

namespace Handling

/-! ## What holds in every reachable state -/

/-- **The invariant of batches under way.** Each call is that of an item which fits;
it reads after its batch has looked, and acts after the calls that had acted by
then. -/
structure Kept (x : Extractor) (i : Index) (s : Handling) : Prop where
  sound : s.traffic.Sound x i
  now : s.sources.getLast? = some s.traffic.source
  issued : s.traffic.issued = s.items.mapIdx fun id c => ⟨id, c.update, c.change.path⟩
  items : ∀ c ∈ s.items, c.Fits i s.traffic.log s.sources
  checked : ∀ b ∈ s.batches, ∀ c, b.phase = .checked c → c.Fits i s.traffic.log s.sources
  read : ∀ k ∈ s.traffic.calls, ∀ found, k.stage = .read found →
    ∀ c, s.items[k.task.id]? = some c → c.Saw x s.sources found
  logged : ∀ (n : Nat) (e : Effect), s.traffic.log[n]? = some e →
    ∀ c, s.items[e.task.id]? = some c → c.acted ≤ n ∧ c.Saw x s.sources e.found

variable {x : Extractor} {i : Index} {s : Handling}

theorem kept_start (x : Extractor) (i : Index) (src : Source) : (start i src).Kept x i where
  sound := Traffic.sound_start x i src
  now := rfl
  issued := rfl
  items _ hc := absurd hc List.not_mem_nil
  checked _ hb := absurd hb List.not_mem_nil
  read _ hk := absurd hk List.not_mem_nil
  logged n e he := absurd he (by simp [start, Traffic.start])

/-- Every call is that of an item. -/
theorem Kept.exists_item (hs : s.Kept x i) {t : Task} (ht : t ∈ s.traffic.issued) :
    ∃ c, s.items[t.id]? = some c ∧ t.update = c.update ∧ t.document = c.change.path := by
  rw [hs.issued] at ht
  obtain ⟨id, hid, rfl⟩ := List.mem_mapIdx.1 ht
  exact ⟨s.items[id], List.getElem?_eq_getElem hid, rfl, rfl⟩

/-- The source of now is one that there has been since a batch looked. -/
theorem Kept.source_mem (hs : s.Kept x i) {c : Item} (hc : c.Fits i s.traffic.log s.sources) :
    s.traffic.source ∈ s.sources.drop c.since := by
  have hlast := List.getLast?_drop (l := s.sources) (i := c.since)
  rw [if_neg (Nat.not_le_of_lt hc.since), hs.now] at hlast
  exact List.mem_of_getLast? hlast

/-- Items that come later do not stand where those of the calls do. -/
theorem Kept.getElem?_items (hs : s.Kept x i) (c : Item) {t : Task} (ht : t ∈ s.traffic.issued) :
    (s.items ++ [c])[t.id]? = s.items[t.id]? := by
  obtain ⟨c', hc', -⟩ := hs.exists_item ht
  exact List.getElem?_append_left (List.getElem?_eq_some_iff.1 hc').1

/-- **A call that moves keeps the invariant.** -/
theorem Kept.call (hs : s.Kept x i) {a : Traffic.Step} {t : Traffic} (h : s.traffic.Move x a t)
    (hissue : ∀ u doc, a ≠ .issue u doc) (hedit : ∀ src, a ≠ .edit src) :
    Kept x i { s with traffic := t } := by
  have hsound := hs.sound.move h
  cases h with
  | edit src => exact absurd rfl (hedit src)
  | issue u doc => exact absurd rfl (hissue u doc)
  | prune => exact { hs with sound := hsound }
  | @read front back u hcalls hheld =>
    have hread := hs.read
    rw [hcalls] at hread
    have hu : u ∈ s.traffic.issued :=
      hs.sound.queued.sublist.subset (List.mem_map.2
        ⟨_, hcalls ▸ List.mem_append_right front List.mem_cons_self, rfl⟩)
    refine { hs with sound := hsound, read := fun k hk found hfound c hc => ?_ }
    obtain rfl | hk := Traffic.mem_of_mem_stage .waiting hk
    · cases hfound
      obtain ⟨c', hc', hupdate, hpath⟩ := hs.exists_item hu
      obtain rfl : c' = c := Option.some.inj (hc'.symm.trans hc)
      refine ⟨s.traffic.source, hs.source_mem (hs.items c' (List.mem_of_getElem? hc')), ?_⟩
      rw [hupdate, hpath]
    · exact hread k hk found hfound c hc
  | @apply front back u found hcalls =>
    have hread := hs.read
    rw [hcalls] at hread
    refine { hs with sound := hsound, items := fun c hc => ?_, checked := fun b hb c hc => ?_,
                     read := fun k hk found' hfound c hc => ?_, logged := fun n e he c hc => ?_ }
    · exact (hs.items c hc).act [_]
    · exact (hs.checked b hb c hc).act [_]
    · obtain rfl | hk := Traffic.mem_of_mem_stage (.read found) hk
      · exact absurd hfound (by simp)
      · exact hread k hk found' hfound c hc
    · -- what acts now acts after all that has acted, and so after what its batch had counted
      obtain hn | hn := Nat.lt_or_ge n s.traffic.log.length
      · exact hs.logged n e (by rwa [List.getElem?_append_left hn] at he) c hc
      · rw [List.getElem?_append_right hn] at he
        obtain rfl := List.mem_singleton.1 (List.mem_of_getElem? he)
        refine ⟨(hs.items c (List.mem_of_getElem? hc)).acted.trans hn, ?_⟩
        exact hread _ (List.mem_append_right front List.mem_cons_self) found rfl c hc
  | @release front back u hcalls =>
    have hread := hs.read
    rw [hcalls] at hread
    refine { hs with sound := hsound, read := fun k hk => hread k ?_ }
    exact ((List.sublist_cons_self _ back).append_left front).subset hk

/-- **A call that is issued keeps it.** -/
theorem Kept.issue (hs : s.Kept x i) {n : Nat} {rest : List Event} {c : Item}
    (hbatch : s.batches[n]? = some ⟨rest, .checked c⟩) : (s.issue n rest c).Kept x i := by
  have hc := hs.checked _ (List.mem_of_getElem? hbatch) c rfl
  have hlength : s.items.length = s.traffic.issued.length := by simp [hs.issued]
  refine { sound := hs.sound.move (.issue c.update c.change.path), now := hs.now, issued := ?_,
           items := fun c' hc' => ?_, checked := fun b hb c' hc' => ?_,
           read := fun k hk found hfound c' hc' => ?_, logged := fun n e he c' hc' => ?_ }
  · show s.traffic.issued ++ [_] = (s.items ++ [c]).mapIdx _
    rw [List.mapIdx_concat, ← hs.issued, hlength]
  · obtain hc' | hc' := List.mem_append.1 hc'
    · exact hs.items c' hc'
    · rw [List.mem_singleton.1 hc']
      exact hc
  · obtain hb | rfl := List.mem_or_eq_of_mem_set hb
    · exact hs.checked b hb c' hc'
    · exact absurd hc' (by simp)
  · obtain hk | hk := List.mem_append.1 hk
    · have ht := hs.sound.queued.sublist.subset (List.mem_map_of_mem hk)
      exact hs.read k hk found hfound c' ((hs.getElem?_items c ht).symm.trans hc')
    · rw [List.mem_singleton.1 hk] at hfound
      exact absurd hfound (by simp)
  · have ht := hs.sound.task_mem_issued (List.mem_of_getElem? he)
    exact hs.logged n e he c' ((hs.getElem?_items c ht).symm.trans hc')

/-- **A batch that looks sees what is so.** -/
theorem Kept.check (hs : s.Kept x i) (n : Nat) (change : Event) (rest : List Event) :
    (s.check n change rest).Kept x i := by
  refine { hs with checked := fun b hb c hc => ?_ }
  obtain hb | rfl := List.mem_or_eq_of_mem_set hb
  · exact hs.checked b hb c hc
  · cases hc
    have hne : s.sources ≠ [] := by
      intro hnil
      have hnow := hs.now
      rw [hnil] at hnow
      exact absurd hnow (by simp)
    refine ⟨Nat.le_refl _, ?_, Nat.sub_one_lt (mt List.length_eq_zero_iff.1 hne)⟩
    show s.traffic.index.owns change.path = _
    rw [hs.sound.index]
    exact congrArg (fun log => (Traffic.replay i log).owns change.path) (List.take_length).symm

/-- **Every step keeps it.** -/
theorem Kept.step (hs : s.Kept x i) (a : Step) : (s.step x a).Kept x i := by
  have hcall : ∀ a : Traffic.Step, (∀ u doc, a ≠ .issue u doc) → (∀ src, a ≠ .edit src) →
      Kept x i { s with traffic := s.traffic.step x a } := by
    intro a hissue hedit
    obtain h | h := Traffic.step_cases x s.traffic a
    · rw [h]
      exact hs
    · exact hs.call h hissue hedit
  cases a with
  | edit src =>
    refine { hs with sound := hs.sound.move (.edit src), now := List.getLast?_concat ..,
                     items := fun c hc => ?_, checked := fun b hb c hc => ?_,
                     read := fun k hk found hfound c hc => ?_, logged := fun n e he c hc => ?_ }
    · exact (hs.items c hc).edit [src]
    · exact (hs.checked b hb c hc).edit [src]
    · exact (hs.read k hk found hfound c hc).edit [src]
    · obtain ⟨hacted, hsaw⟩ := hs.logged n e he c hc
      exact ⟨hacted, hsaw.edit [src]⟩
  | begin changes =>
    refine { hs with checked := fun b hb c hc => ?_ }
    obtain hb | hb := List.mem_append.1 hb
    · exact hs.checked b hb c hc
    · rw [List.mem_singleton.1 hb] at hc
      exact absurd hc (by simp)
  | check n =>
    simp only [Handling.step]
    split
    next change rest phase hbatch =>
      split
      next => exact hs.check n change rest
      next => exact hs
    next => exact hs
  | issue n =>
    simp only [Handling.step]
    split
    next rest c hbatch => exact hs.issue hbatch
    next => exact hs
  | read id => exact hcall (.read id) (by simp) (by simp)
  | apply id => exact hcall (.apply id) (by simp) (by simp)
  | release id => exact hcall (.release id) (by simp) (by simp)
  | prune => exact hcall .prune (by simp) (by simp)

/-- **Every reachable state keeps it.** -/
theorem kept_run (x : Extractor) (i : Index) (src : Source) (steps : List Step) :
    ((start i src).run x steps).Kept x i :=
  List.foldlRecOn steps _ (kept_start x i src) fun _ hs a _ => hs.step a

/-! ## What the last call of a document leaves -/

/-- A call found what its document says now, if the document has not been edited since
its batch looked. -/
theorem Kept.declared?_eq (hs : s.Kept x i) {n : Nat} {e : Effect} {c : Item}
    (he : s.traffic.log[n]? = some e) (hc : s.items[e.task.id]? = some c)
    (hkind : c.change.kind ≠ .deleted)
    (hkeep : ∀ src ∈ s.sources.drop c.since,
      (src.read c.change.path).toOption = (s.traffic.source.read c.change.path).toOption)
    (sym : String) : e.declared? sym = x.declared? s.traffic.source c.change.path sym := by
  obtain ⟨-, src, hsrc, hfound⟩ := hs.logged n e he c hc
  have hlook : c.update.look x src c.change.path = x.look s.traffic.source c.change.path := by
    rw [Update.look_of_ne_deleted (mt Item.update_eq_deleted_iff.1 hkind)]
    exact x.look_congr (hkeep src hsrc)
  unfold Effect.declared? Extractor.declared?
  rw [hfound, hlook]

/-- **What the last call of a document leaves if it only added**: what it brought, and
what was brought since its batch looked. -/
theorem Kept.declared_or_brought (hs : s.Kept x i) {d : Path} {early late : List Effect}
    {e : Effect} {c : Item} (hlog : s.traffic.log = early ++ e :: late)
    (hlast : ∀ e' ∈ late, e'.task.document.same d = false) (hc : s.items[e.task.id]? = some c)
    (howned : c.owned = false) (hsame : c.change.path.same d = true) {sym : String} {span : Span}
    (hget : s.index.get? sym = some span) (hown : Index.ownedBy d span = true) :
    e.declared? sym = some span
      ∨ ∃ e' ∈ early.drop c.acted, e'.task.document.same d = true
        ∧ e'.declared? sym = some span := by
  have hlooked : ∀ e' ∈ early ++ e :: late, e'.Looked x := hlog ▸ hs.sound.logged
  rw [List.forall_mem_append, List.forall_mem_cons] at hlooked
  obtain ⟨hearly, hact, hlate⟩ := hlooked
  have hindex : s.index = Traffic.replay (e.apply (Traffic.replay i early)) late := by
    rw [index, hs.sound.index, hlog]
    exact List.foldl_append
  rw [hindex] at hget
  have hacts := Traffic.get?_of_replay hlate hlast hget hown
  rw [hact.get?_apply] at hacts
  obtain hnew | ⟨-, hold⟩ := Option.or_eq_some_iff.1 hacts
  · exact Or.inl hnew
  · obtain ⟨hacted, -⟩ := hs.logged early.length e (by simp [hlog]) c hc
    have hfits := hs.items c (List.mem_of_getElem? hc)
    rw [hlog] at hfits
    exact Or.inr
      (hfits.brought hearly hacted howned hsame (Option.filter_eq_some_iff.1 hold).1 hown)

/-- **What the last call of a document leaves is of now, or overtook it.** In every
reachable state, the call of a document `d` that acted last is that of an item. If
its change is a creation or a modification, and the document has not been edited
since its batch looked, then each entry that `d` owns is one that its text declares
now; or the change was a creation, its batch had seen that `d` owned nothing, and the
entry was brought by a call of `d` that acted after the batch had looked. -/
theorem declared_or_overtaken (x : Extractor) (i : Index) (src : Source) (steps : List Step)
    (d : Path) (early late : List Effect) (e : Effect)
    (hlog : ((start i src).run x steps).traffic.log = early ++ e :: late)
    (hdoc : e.task.document.same d = true)
    (hlast : ∀ e' ∈ late, e'.task.document.same d = false) :
    let s := (start i src).run x steps
    ∃ c, s.items[e.task.id]? = some c ∧ c.change.path.same d = true
      ∧ (c.change.kind ≠ .deleted →
        (∀ src' ∈ s.sources.drop c.since,
          (src'.read c.change.path).toOption = (s.traffic.source.read c.change.path).toOption) →
        ∀ sym span, s.index.get? sym = some span → Index.ownedBy d span = true →
          x.declared? s.traffic.source c.change.path sym = some span
            ∨ c.change.kind = .created ∧ c.owned = false
              ∧ ∃ e' ∈ early.drop c.acted, e'.task.document.same d = true
                ∧ e'.declared? sym = some span) := by
  intro s
  have hs : s.Kept x i := kept_run x i src steps
  have hlog : s.traffic.log = early ++ e :: late := hlog
  have he : s.traffic.log[early.length]? = some e := by simp [hlog]
  obtain ⟨c, hc, hupdate, hpath⟩ :=
    hs.exists_item (hs.sound.task_mem_issued (List.mem_of_getElem? he))
  have hsame : c.change.path.same d = true := hpath ▸ hdoc
  refine ⟨c, hc, hsame, fun hkind hkeep sym span hget hown => ?_⟩
  rw [← hs.declared?_eq he hc hkind hkeep sym]
  by_cases hcreated : c.update = .created
  · obtain ⟨hkind, howned⟩ := Item.update_eq_created_iff.1 hcreated
    obtain hnew | hbrought := hs.declared_or_brought hlog hlast hc howned hsame hget hown
    · exact Or.inl hnew
    · exact Or.inr ⟨hkind, howned, hbrought⟩
  · have hshare := (hs.sound.share_of_last hlog hdoc hlast).1 (by rwa [hupdate])
    exact Or.inl (hshare sym span hget hown)

/-- The documents after they were replaced. -/
def renewed : Source := ⟨[], fun _ => .ok "g.PcdNew|1"⟩

/-- Two batches about one document, a creation and another change. The call of the
first reads, the document is replaced, the second batch looks, and only then does
the first call act. -/
def overtaking (kind : ChangeKind) : List Step :=
  [.begin [⟨⟨"a.dec"⟩, .created, 0⟩], .check 0, .issue 0, .read 0, .edit renewed,
    .begin [⟨⟨"a.dec/"⟩, kind, 1⟩], .check 1, .apply 0, .release 0, .issue 1, .read 1, .apply 1,
    .release 1]

theorem declared_or_overtaken_modified :
    ((start default Traffic.stale).run .ordinary (overtaking .modified)).index.owns ⟨"a.dec"⟩ = true
      ∧ ∀ sym span, ((start default Traffic.stale).run .ordinary
            (overtaking .modified)).index.get? sym = some span →
          Index.ownedBy ⟨"a.dec"⟩ span = true →
          Extractor.ordinary.declared? renewed ⟨"a.dec/"⟩ sym = some span := by
  refine ⟨by decide +kernel, fun sym span hget hown => ?_⟩
  obtain ⟨c, hc, -, hleft⟩ := declared_or_overtaken .ordinary default Traffic.stale
    (overtaking .modified) ⟨"a.dec"⟩ [_] [] _ rfl (by decide +kernel) (by simp)
  obtain rfl := Option.some.inj hc
  obtain hnow | ⟨hcreated, -⟩ := hleft (by decide)
    (fun src' hsrc' => by rw [List.mem_singleton.1 hsrc']; rfl) sym span hget hown
  · exact hnow
  · exact absurd hcreated (by decide)

/-- **A creation that was looked at too early leaves old symbols.** The second of two
batches sees that the document owns nothing, while a call of the first has read the
document and has yet to act. In the end nothing is under way, and the call that acted
last was that of a creation which was looked at after the last edit; yet the document
owns a symbol that it does not declare. -/
theorem stale_of_overtaken :
    let s := (start default Traffic.stale).run .ordinary (overtaking .created)
    s.traffic.calls.isEmpty = true
      ∧ (∀ b ∈ s.batches, b.rest.isEmpty = true ∧ s.isReady b.phase = true)
      ∧ (∃ e c, s.traffic.log.getLast? = some e ∧ e.task.document.same ⟨"a.dec"⟩ = true
        ∧ s.items[e.task.id]? = some c ∧ c.change.kind = .created
        ∧ s.sources.drop c.since = [s.traffic.source])
      ∧ ∃ sym span, s.index.get? sym = some span ∧ Index.ownedBy ⟨"a.dec"⟩ span = true
        ∧ Extractor.ordinary.declared? s.traffic.source ⟨"a.dec"⟩ sym = none := by
  intro s
  have hstale : (s.index.get? "PcdOld").any (Index.ownedBy ⟨"a.dec"⟩) = true := by decide +kernel
  obtain ⟨span, hget, hown⟩ := (Option.any_eq_true _ _).1 hstale
  exact ⟨by decide +kernel, by decide +kernel, ⟨_, _, rfl, by decide +kernel, rfl, rfl, rfl⟩,
    "PcdOld", span, hget, hown, by decide +kernel⟩

end Handling

end PcdCatalog

import PcdCatalog.Proofs.ActionTrace
import PcdCatalog.Proofs.Building

/-!
# Calls and builds in any interleaving

`Traffic` lets the steps of calls come in any order, `Build` is a build under
way. An `Activity` has any number of both on one index, whose steps come in any
order, with edits of the source between them. A build takes no lock, so its
merges come between the steps of calls as they please. To build anew is to clear
the index and to begin a build, and other steps may come between these two.

To the index nearly all of this is silence. A step leaves it alone, or is the
one step in which a call or a document of a build acts on it, with what was read
before (`Act`, `Heard.act`); what has acted so far is kept in `Activity.effects`.
Facts about every run are therefore proved from what one `Effect` does.

An operation that runs alone is a run like any other: `exists_run_runAll` takes
a history of operations, performed one at a time with edits between them, for a
run of steps that ends with the same index and has counted the same.
-/

namespace PcdCatalog

/-- What a call had found is what its document said in one of these sources. -/
def Effect.LookedIn (x : Extractor) (seen : List Source) (e : Effect) : Prop :=
  ∃ src ∈ seen, e.found = e.task.update.look x src e.task.document

/-- **Calls and builds under way on one index.** -/
structure Activity where
  traffic : Traffic
  /-- Every build begun so far. -/
  builds : List Build

namespace Activity

/-- The index that all act on. -/
def index (s : Activity) : Index := s.traffic.index

/-- **Everything that has acted on the index**: the calls, and the documents of
the builds. -/
def effects (s : Activity) : List Effect := s.traffic.log ++ s.builds.flatMap Build.log

/-- What all that has acted has counted, in one of the numbers. -/
def total (s : Activity) (number : UpdateCounts → Nat) : Nat :=
  (s.effects.map fun e => number e.counts).sum

/-! ## Steps -/

/-- What can happen next. -/
inductive Step where
  /-- A step of a call, or an edit. -/
  | call (step : Traffic.Step)
  /-- A build begins, with so many reads at once. -/
  | begin (width : Nat)
  /-- A step of a build, counted from the first. -/
  | build (n : Nat) (step : Build.Step)
  /-- The index is cleared. -/
  | clear

/-- The source that a step brings, if it is an edit. -/
def Step.edit? : Step → Option Source
  | .call (.edit src) => some src
  | _ => none

/-- Nothing has been issued and no build has begun. -/
def start (i : Index) (src : Source) : Activity := ⟨.start i src, []⟩

/-- The state after a step. A step that cannot be taken changes nothing. -/
def step (x : Extractor) (s : Activity) : Step → Activity
  | .call a => { s with traffic := s.traffic.step x a }
  | .begin width => { s with builds := s.builds ++ [.start width s.traffic.source] }
  | .build n a =>
    match s.builds[n]? with
    | none => s
    | some b =>
      let (i, b') := Build.step x s.traffic.source (s.traffic.index, b) a
      ⟨{ s.traffic with index := i }, s.builds.set n b'⟩
  | .clear => { s with traffic := { s.traffic with index := s.traffic.index.clear } }

/-- **The state after some steps.** -/
def run (x : Extractor) (s : Activity) (steps : List Step) : Activity := steps.foldl (step x) s

/-- The sources that there have been: the first one, and what the edits brought. -/
def sources (src : Source) (steps : List Step) : List Source := src :: steps.filterMap Step.edit?

theorem run_append (x : Extractor) (s : Activity) (before after : List Step) :
    s.run x (before ++ after) = (s.run x before).run x after :=
  List.foldl_append

theorem run_concat (x : Extractor) (s : Activity) (steps : List Step) (a : Step) :
    s.run x (steps ++ [a]) = (s.run x steps).step x a :=
  List.foldl_concat _ _ _ _

theorem sources_concat (src : Source) (steps : List Step) (a : Step) :
    sources src (steps ++ [a]) = sources src steps ++ a.edit?.toList := by
  unfold sources
  rw [List.filterMap_append, List.cons_append]
  cases h : a.edit? <;> simp [h]

/-! ## What has been read -/

/-- **What has been read and has not acted yet** is what the documents said in
one of the sources that there have been. -/
structure Heard (x : Extractor) (seen : List Source) (s : Activity) : Prop where
  source : s.traffic.source ∈ seen
  calls : ∀ c ∈ s.traffic.calls, ∀ found, c.stage = .read found →
    ∃ src ∈ seen, found = c.task.update.look x src c.task.document
  fetches : ∀ b ∈ s.builds, ∀ f ∈ b.fetches, ∀ found, f.found = some found →
    ∃ src ∈ seen, found = x.look src f.document

variable {x : Extractor} {seen : List Source} {s : Activity}

theorem heard_start (x : Extractor) (i : Index) (src : Source) : (start i src).Heard x [src] where
  source := List.mem_singleton_self src
  calls _ hc := absurd hc List.not_mem_nil
  fetches _ hb := absurd hb List.not_mem_nil

/-- More sources do no harm. -/
theorem Heard.mono (hs : s.Heard x seen) (more : List Source) : s.Heard x (seen ++ more) where
  source := List.mem_append_left more hs.source
  calls c hc found hread := by
    obtain ⟨src, hsrc, hfound⟩ := hs.calls c hc found hread
    exact ⟨src, List.mem_append_left more hsrc, hfound⟩
  fetches b hb f hf found hread := by
    obtain ⟨src, hsrc, hfound⟩ := hs.fetches b hb f hf found hread
    exact ⟨src, List.mem_append_left more hsrc, hfound⟩

/-- A call that moves has read nothing, or what its document says now. -/
theorem Heard.move {a : Traffic.Step} {t : Traffic} (hs : s.Heard x seen)
    (h : s.traffic.Move x a t) :
    Heard x (seen ++ (Step.call a).edit?.toList) { s with traffic := t } := by
  cases h with
  | edit src => exact { hs.mono [src] with source := List.mem_append_right _ List.mem_cons_self }
  | prune => exact { hs.mono [] with }
  | issue u doc =>
    refine { hs.mono [] with calls := fun c hc found hread => ?_ }
    obtain hc | hc := List.mem_append.1 hc
    · exact (hs.mono []).calls c hc found hread
    · rw [List.mem_singleton.1 hc] at hread
      exact absurd hread (by simp)
  | @read front back t hcalls hheld =>
    have hold := (hs.mono []).calls
    rw [hcalls] at hold
    refine { hs.mono [] with calls := fun c hc found hread => ?_ }
    obtain rfl | hc := Traffic.mem_of_mem_stage .waiting hc
    · cases hread
      exact ⟨s.traffic.source, (hs.mono []).source, rfl⟩
    · exact hold c hc found hread
  | @apply front back t found hcalls =>
    have hold := (hs.mono []).calls
    rw [hcalls] at hold
    refine { hs.mono [] with calls := fun c hc found' hread => ?_ }
    obtain rfl | hc := Traffic.mem_of_mem_stage (.read found) hc
    · exact absurd hread (by simp)
    · exact hold c hc found' hread
  | @release front back t hcalls =>
    have hold := (hs.mono []).calls
    rw [hcalls] at hold
    refine { hs.mono [] with calls := fun c hc => hold c ?_ }
    exact ((List.sublist_cons_self _ back).append_left front).subset hc

/-- A read of a build that moves has not ended, or found what its document says
now. -/
theorem fetches_move {src : Source} {i : Index} {b : Build} {a : Build.Step} {r : Index × Build}
    (h : Build.Move x src i b a r) (hsrc : src ∈ seen)
    (hb : ∀ f ∈ b.fetches, ∀ found, f.found = some found → ∃ src ∈ seen, found = x.look src f.document) :
    ∀ f ∈ r.2.fetches, ∀ found, f.found = some found → ∃ src ∈ seen, found = x.look src f.document := by
  cases h with
  | fetch hwaiting hwidth =>
    intro f hf found hfound
    obtain hf | hf := List.mem_append.1 hf
    · exact hb f hf found hfound
    · rw [List.mem_singleton.1 hf] at hfound
      exact absurd hfound (by simp)
  | @look front back doc hfetches =>
    rw [hfetches] at hb
    intro f hf found hfound
    obtain hf | hf := List.mem_append.1 hf
    · exact hb f (List.mem_append_left _ hf) found hfound
    · obtain rfl | hf := List.mem_cons.1 hf
      · exact ⟨src, hsrc, (Option.some.inj hfound).symm⟩
      · exact hb f (List.mem_append_right _ (List.mem_cons_of_mem _ hf)) found hfound
  | merge hfetches =>
    rw [hfetches] at hb
    exact fun f hf => hb f (List.mem_cons_of_mem _ hf)

/-- **Every step keeps that.** -/
theorem Heard.step (hs : s.Heard x seen) (a : Step) :
    (s.step x a).Heard x (seen ++ a.edit?.toList) := by
  cases a with
  | call a =>
    obtain h | h := Traffic.step_cases x s.traffic a
    · show Heard x _ { s with traffic := s.traffic.step x a }
      rw [h]
      exact hs.mono _
    · exact hs.move h
  | begin width =>
    refine { hs.mono [] with fetches := fun b hb => ?_ }
    obtain hb | hb := List.mem_append.1 hb
    · exact (hs.mono []).fetches b hb
    · rw [List.mem_singleton.1 hb]
      exact fun f hf => absurd hf List.not_mem_nil
  | clear => exact { hs.mono [] with }
  | build n a =>
    simp only [Activity.step]
    split
    next => exact hs.mono []
    next b hget =>
      refine { hs.mono [] with fetches := fun b' hb' => ?_ }
      obtain hb' | rfl := List.mem_or_eq_of_mem_set hb'
      · exact (hs.mono []).fetches b' hb'
      · have hb := (hs.mono []).fetches b (List.mem_of_getElem? hget)
        obtain h | h := Build.step_cases x s.traffic.source s.traffic.index b a
        · rw [h]
          exact hb
        · exact fetches_move h (hs.mono []).source hb

theorem heard_run (x : Extractor) (i : Index) (src : Source) (steps : List Step) :
    ((start i src).run x steps).Heard x (sources src steps) := by
  induction steps using List.reverseRecOn with
  | nil => exact heard_start x i src
  | append_singleton steps a ih =>
    rw [run_concat, sources_concat]
    exact ih.step a

/-! ## What acts on the index -/

/-- **What a step does to the index**, if it does not clear it: nothing, or what a
call or a document of a build does that has been read before. -/
inductive Act (x : Extractor) (seen : List Source) (s s' : Activity) : Prop where
  | idle (hindex : s'.index = s.index) (heffects : s'.effects = s.effects)
  | acts (e : Effect) (hindex : s'.index = e.apply s.index)
      (hcounts : e.counts = (e.task.update.apply e.task.document e.found s.index).2)
      (heffects : s'.effects.Perm (e :: s.effects)) (hlooked : e.LookedIn x seen)

/-- A build that moves merges a document, or leaves the index alone. -/
theorem act_of_build {front back : List Build} {b : Build} {a : Build.Step} {r : Index × Build}
    (hs : s.Heard x seen) (hbuilds : s.builds = front ++ b :: back)
    (h : Build.Move x s.traffic.source s.traffic.index b a r) :
    Act x seen s ⟨{ s.traffic with index := r.1 }, front ++ r.2 :: back⟩ := by
  cases h with
  | fetch hwaiting hwidth => exact .idle rfl (by simp [effects, hbuilds])
  | look hfetches => exact .idle rfl (by simp [effects, hbuilds])
  | @merge doc found rest hfetches =>
    refine .acts (b.effect s.traffic.index doc found) rfl rfl ?_ ?_
    · have hmiddle : ∀ l m k : List Effect, ∀ e, (l ++ (m ++ e :: k)).Perm (e :: (l ++ (m ++ k))) := by
        intro l m k e
        rw [← List.append_assoc, ← List.append_assoc]
        exact List.perm_middle
      simpa [effects, hbuilds] using hmiddle s.traffic.log (front.flatMap Build.log ++ b.log)
        (back.flatMap Build.log) (b.effect s.traffic.index doc found)
    · have hb : b ∈ s.builds := hbuilds ▸ List.mem_append_right front List.mem_cons_self
      exact hs.fetches b hb ⟨doc, some found⟩ (hfetches ▸ List.mem_cons_self) found rfl

/-- **Every step but a clearing leaves the index alone or acts on it once.** -/
theorem Heard.act (hs : s.Heard x seen) {a : Step} (ha : a ≠ .clear) :
    Act x seen s (s.step x a) := by
  cases a with
  | clear => exact absurd rfl ha
  | begin width =>
    refine .idle rfl ?_
    show s.traffic.log ++ (s.builds ++ [_]).flatMap Build.log = _
    rw [List.flatMap_append]
    exact congrArg (s.traffic.log ++ ·) (List.append_nil _)
  | call a =>
    obtain h | h := Traffic.step_cases x s.traffic a
    · refine .idle ?_ ?_
      · show (s.traffic.step x a).index = _
        rw [h]
        rfl
      · show (s.traffic.step x a).log ++ _ = _
        rw [h]
        rfl
    · show Act x seen s { s with traffic := s.traffic.step x a }
      generalize s.traffic.step x a = t at h
      cases h with
      | edit src => exact .idle rfl rfl
      | issue u doc => exact .idle rfl rfl
      | read hcalls hheld => exact .idle rfl rfl
      | release hcalls => exact .idle rfl rfl
      | prune => exact .idle rfl rfl
      | @apply front back t found hcalls =>
        refine .acts ⟨t, found, (t.update.apply t.document found s.index).2⟩ rfl rfl ?_ ?_
        · show (s.traffic.log ++ [_] ++ s.builds.flatMap Build.log).Perm _
          rw [List.append_assoc]
          exact List.perm_middle
        · have hc : (⟨t, .read found⟩ : Call) ∈ s.traffic.calls :=
            hcalls ▸ List.mem_append_right front List.mem_cons_self
          exact hs.calls _ hc found rfl
  | build n a =>
    simp only [Activity.step]
    split
    next => exact .idle rfl rfl
    next b hget =>
      obtain ⟨front, back, hbuilds, -, hset⟩ := Build.exists_split_set hget
      rw [hset]
      obtain h | h := Build.step_cases x s.traffic.source s.traffic.index b a
      · rw [h, ← hbuilds]
        exact .idle rfl rfl
      · exact act_of_build hs hbuilds h

/-- **What every act keeps, a run keeps**, if the clearing of the index does. -/
theorem run_induction {P : Activity → Prop} {i : Index} {src : Source} {steps : List Step}
    (hs : P (start i src))
    (hact : ∀ seen s s', P s → Act x seen s s' → P s')
    (hclear : .clear ∈ steps → ∀ s, P s → P (s.step x .clear)) : P ((start i src).run x steps) := by
  induction steps using List.reverseRecOn with
  | nil => exact hs
  | append_singleton steps a ih =>
    rw [run_concat]
    have hbefore := ih fun h => hclear (List.mem_append_left _ h)
    by_cases ha : a = .clear
    · subst ha
      exact hclear (List.mem_append_right _ List.mem_cons_self) _ hbefore
    · exact hact _ _ _ hbefore ((heard_run x i src steps).act ha)

/-- **Whatever has acted was read in one of the sources** that there have been. -/
theorem lookedIn_run (x : Extractor) (i : Index) (src : Source) (steps : List Step) :
    ∀ e ∈ ((start i src).run x steps).effects, e.LookedIn x (sources src steps) := by
  induction steps using List.reverseRecOn with
  | nil => exact fun e he => absurd he List.not_mem_nil
  | append_singleton steps a ih =>
    have hmono : ∀ e : Effect, e.LookedIn x (sources src steps) →
        e.LookedIn x (sources src (steps ++ [a])) := by
      rintro e ⟨src', hsrc, hfound⟩
      rw [sources_concat]
      exact ⟨src', List.mem_append_left _ hsrc, hfound⟩
    intro e he
    refine hmono e ?_
    rw [run_concat] at he
    by_cases ha : a = .clear
    · subst ha
      exact ih e he
    · cases (heard_run x i src steps).act ha with
      | idle hindex heffects =>
        rw [heffects] at he
        exact ih e he
      | acts e' hindex hcounts heffects hlooked =>
        obtain rfl | he := List.mem_cons.1 (heffects.mem_iff.1 he)
        · exact hlooked
        · exact ih e he

/-! ## One operation at a time -/

/-- A number of the counts that adds up, as all of them do. -/
structure Additive (number : UpdateCounts → Nat) : Prop where
  zero : number {} = 0
  add : ∀ m n, number (m + n) = number m + number n

theorem additive_added : Additive UpdateCounts.added := ⟨rfl, fun _ _ => rfl⟩

theorem additive_removed : Additive UpdateCounts.removed := ⟨rfl, fun _ _ => rfl⟩

/-- The counts of a build are those of its documents together. -/
theorem Additive.counts {number : UpdateCounts → Nat} (h : Additive number) (b : Build) :
    number b.counts = (b.log.map fun e => number e.counts).sum := by
  unfold Build.counts
  induction b.log using List.reverseRecOn with
  | nil => exact h.zero
  | append_singleton log e ih =>
    rw [List.foldl_concat, h.add, ih, List.map_append, List.sum_append]
    rfl

/-- No call is under way, and no lock is held or waited for. -/
structure Idle (s : Activity) : Prop where
  calls : s.traffic.calls = []
  claims : s.traffic.locks.claims = []

/-- **Steps that perform an operation alone**: they end with its index, with
nothing under way, and have counted what it counts. -/
structure Performs (x : Extractor) (s : Activity) (steps : List Step) (i : Index)
    (n : UpdateCounts) : Prop where
  idle : (s.run x steps).Idle
  index : (s.run x steps).index = i
  total : ∀ number, Additive number → (s.run x steps).total number = s.total number + number n

/-- The steps of a call that runs alone, once the source is edited. -/
def callAlone (s : Activity) (src : Source) (u : Update) (doc : Path) : List Step :=
  [.call (.edit src), .call (.issue u doc), .call (.read s.traffic.issued.length),
    .call (.apply s.traffic.issued.length), .call (.release s.traffic.issued.length)]

/-- **A call that runs alone is an update.** -/
theorem Idle.performs_call (hs : s.Idle) (w : Workspace) (hw : s.index = w.index) (src : Source)
    (u : Update) (doc : Path) :
    Performs w.extractor s (s.callAlone src u doc) (w.update src u doc).1.index
      (w.update src u doc).2 := by
  have hheld : (s.traffic.locks.acquire s.traffic.issued.length doc).isHeldBy
      s.traffic.issued.length = true := by
    simp [Locks.isHeldBy, Locks.holds, Locks.holder?, Locks.claims_acquire, hs.claims]
  have hfree : ((s.traffic.locks.acquire s.traffic.issued.length doc).release
      s.traffic.issued.length).claims = [] := by
    simp [Locks.release, Locks.claims_acquire, hs.claims]
  have hrun : s.run w.extractor (s.callAlone src u doc)
      = { s with traffic :=
          { source := src
            index := (w.update src u doc).1.index
            locks := (s.traffic.locks.acquire s.traffic.issued.length doc).release
              s.traffic.issued.length
            issued := s.traffic.issued ++ [⟨s.traffic.issued.length, u, doc⟩]
            calls := []
            log := s.traffic.log ++ [⟨⟨s.traffic.issued.length, u, doc⟩,
              u.look w.extractor src doc, (w.update src u doc).2⟩] } } := by
    have hindex : s.traffic.index = w.index := hw
    simp [run, callAlone, step, Traffic.step, Traffic.issue, Traffic.locate, hs.calls, hheld,
      hindex, Workspace.update]
  refine ⟨?_, ?_, fun number _ => ?_⟩ <;> rw [hrun]
  · exact ⟨rfl, hfree⟩
  · rfl
  · simp only [total, effects, List.map_append, List.map_cons, List.map_nil, List.sum_append,
      List.sum_cons, List.sum_nil]
    exact Nat.add_right_comm _ _ _

/-- The steps of calls act as they do on the calls alone. -/
theorem run_map_call (x : Extractor) (s : Activity) (steps : List Traffic.Step) :
    s.run x (steps.map .call) = { s with traffic := s.traffic.run x steps } := by
  induction steps generalizing s with
  | nil => rfl
  | cons a steps ih => exact ih (s.step x (.call a))

/-- The steps of one build act as they do on that build. -/
theorem run_map_build (x : Extractor) {front back : List Build} {b : Build} (steps : List Build.Step)
    (hbuilds : s.builds = front ++ b :: back) :
    s.run x (steps.map (.build front.length))
      = ⟨{ s.traffic with index := (Build.run x s.traffic.source (s.index, b) steps).1 },
          front ++ (Build.run x s.traffic.source (s.index, b) steps).2 :: back⟩ := by
  induction steps generalizing s b with
  | nil =>
    obtain ⟨traffic, builds⟩ := s
    obtain rfl := hbuilds
    rfl
  | cons a steps ih =>
    have hstep : s.step x (.build front.length a)
        = ⟨{ s.traffic with index := (Build.step x s.traffic.source (s.index, b) a).1 },
            front ++ (Build.step x s.traffic.source (s.index, b) a).2 :: back⟩ := by
      simp [step, hbuilds, index]
    show (s.step x (.build front.length a)).run x (steps.map (.build front.length)) = _
    rw [hstep, ih rfl]
    rfl

/-- **A build that runs alone is a build.** -/
theorem Idle.exists_performs_build (hs : s.Idle) (w : Workspace) (hw : s.index = w.index)
    (src : Source) :
    ∃ steps, .clear ∉ steps
      ∧ Performs w.extractor s steps (w.build src).1.index (w.build src).2 := by
  obtain ⟨⟨steps, hdone⟩, -⟩ := Build.run_eq_build w src 1 []
  obtain ⟨hindex, hcounts⟩ := (Build.run_eq_build w src 1 steps).2 hdone
  generalize hb : (Build.run w.extractor src (w.index, .start 1 src) steps).2 = b at hcounts
  have hrun : s.run w.extractor
      ([.call (.edit src), .begin 1] ++ steps.map (.build s.builds.length))
        = ⟨{ s.traffic with source := src, index := (w.build src).1.index }, s.builds ++ [b]⟩ := by
    have hbegin : s.run w.extractor [.call (.edit src), .begin 1]
        = ⟨{ s.traffic with source := src }, s.builds ++ [.start 1 src]⟩ := rfl
    rw [run_append, hbegin, run_map_build w.extractor steps rfl]
    show (⟨{ s.traffic with source := src, index := (Build.run _ src (s.index, _) steps).1 },
      s.builds ++ [(Build.run _ src (s.index, _) steps).2]⟩ : Activity) = _
    rw [hw, hindex, hb]
  refine ⟨[.call (.edit src), .begin 1] ++ steps.map (.build s.builds.length), by simp, ?_, ?_,
    fun number h => ?_⟩ <;> rw [hrun]
  · exact ⟨hs.calls, hs.claims⟩
  · rfl
  · rw [← hcounts, h.counts b]
    simp only [total, effects, List.flatMap_append, List.flatMap_singleton, List.map_append,
      List.sum_append]
    exact (Nat.add_assoc _ _ _).symm

/-- What an operation counts, with the documents as they are then. -/
def countsOf (w : Workspace) (src : Source) : Operation → UpdateCounts
  | .build => (w.build src).2
  | .rebuild => (w.rebuild src).2
  | .created doc => (w.created src doc).2
  | .changed doc => (w.changed src doc).2
  | .deleted doc => (w.deleted src doc).2

/-- What the operations of a history count, one after the other. -/
def countsAll (w : Workspace) : List (Source × Operation) → List UpdateCounts
  | [] => []
  | o :: history => countsOf w o.1 o.2 :: countsAll (o.2.perform w o.1) history

/-- **Every operation can be performed alone**, and only one that builds anew
clears the index. -/
theorem Idle.exists_performs (hs : s.Idle) (w : Workspace) (hw : s.index = w.index) (src : Source)
    (o : Operation) :
    ∃ steps, (.clear ∈ steps → o = .rebuild)
      ∧ Performs w.extractor s steps (o.perform w src).index (countsOf w src o) := by
  have hcall : ∀ u doc, .clear ∉ s.callAlone src u doc := by simp [callAlone]
  cases o with
  | created doc => exact ⟨_, fun h => absurd h (hcall _ _), hs.performs_call w hw src .created doc⟩
  | changed doc => exact ⟨_, fun h => absurd h (hcall _ _), hs.performs_call w hw src .changed doc⟩
  | deleted doc => exact ⟨_, fun h => absurd h (hcall _ _), hs.performs_call w hw src .deleted doc⟩
  | build =>
    obtain ⟨steps, hclear, h⟩ := hs.exists_performs_build w hw src
    exact ⟨steps, fun hmem => absurd hmem hclear, h⟩
  | rebuild =>
    have hidle : (s.step w.extractor .clear).Idle := ⟨hs.calls, hs.claims⟩
    obtain ⟨steps, -, h⟩ := hidle.exists_performs_build { w with index := w.index.clear }
      (congrArg Index.clear hw) src
    exact ⟨.clear :: steps, fun _ => rfl, h.idle, h.index, h.total⟩

/-- **A history performed one operation at a time is a run**: some steps end with
the same index and have counted the same. Unless the history builds anew, none
of them clears the index. -/
theorem exists_run_runAll (w : Workspace) (src : Source) (history : List (Source × Operation)) :
    ∃ steps, ((start w.index src).run w.extractor steps).index
        = (Operation.runAll w history).index
      ∧ ((∀ o ∈ history, o.2 ≠ .rebuild) → .clear ∉ steps)
      ∧ ∀ number, Additive number →
        ((start w.index src).run w.extractor steps).total number
          = ((countsAll w history).map number).sum := by
  have hfrom : ∀ {s : Activity}, s.Idle → s.index = w.index →
      ∃ steps, (s.run w.extractor steps).index = (Operation.runAll w history).index
        ∧ ((∀ o ∈ history, o.2 ≠ .rebuild) → .clear ∉ steps)
        ∧ ∀ number, Additive number → (s.run w.extractor steps).total number
            = s.total number + ((countsAll w history).map number).sum := by
    induction history generalizing w with
    | nil => exact fun _ hw => ⟨[], hw, fun _ => List.not_mem_nil, fun _ _ => rfl⟩
    | cons o history ih =>
      intro s hs hw
      obtain ⟨steps, hclear, hone⟩ := hs.exists_performs w hw o.1 o.2
      obtain ⟨more, hmore, hnever, hrest⟩ := ih (o.2.perform w o.1) hone.idle hone.index
      rw [Operation.extractor_perform, ← run_append] at hmore hrest
      refine ⟨steps ++ more, hmore, fun h hmem => ?_, fun number hn => ?_⟩
      · obtain hmem | hmem := List.mem_append.1 hmem
        · exact h o List.mem_cons_self (hclear hmem)
        · exact hnever (fun o' ho' => h o' (List.mem_cons_of_mem o ho')) hmem
      · rw [hrest number hn, hone.total number hn, Nat.add_assoc]
        rfl
  obtain ⟨steps, hindex, hclear, htotal⟩ := hfrom (s := start w.index src) ⟨rfl, rfl⟩ rfl
  exact ⟨steps, hindex, hclear, fun number hn => (htotal number hn).trans (Nat.zero_add _)⟩

end Activity

end PcdCatalog

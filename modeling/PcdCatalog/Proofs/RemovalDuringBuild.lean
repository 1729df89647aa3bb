import PcdCatalog.Proofs.Activity
import PcdCatalog.Proofs.LateMerge

/-!
# A removal beside builds

A call holds the lock of its document from before it reads until after it has
acted, so what it brings is never out of date when a later call of the document
acts. A build reads its documents ahead and takes no lock. When a document goes
while a build has it in hand, the removal clears what the document owns, and the
build then merges what it has read.

How far that reaches is the subject here. From the moment at which the removal of
a document is issued, as the last call for it and with the document gone, builds
get hold of nothing more of it (`Build.Move.holds`), and once the removal has acted
the document owns nothing but what they then held (`Activity.Removing`). The calls
themselves are not disturbed: they go about as they would without the builds
(`Activity.Orderly`), so what is known of `Traffic` about the order in which the
calls of a document act carries over.
-/

namespace PcdCatalog

/-- A document cannot be read, however its path is spelled. -/
def Source.Lacks (src : Source) (d : Path) : Prop :=
  ∀ q : Path, q.same d = true → (src.read q).toOption = none

theorem Source.Lacks.look_eq_none {src : Source} {d q : Path} (h : src.Lacks d) (x : Extractor)
    (hq : q.same d = true) : x.look src q = none := by
  have hread := h q hq
  unfold Extractor.look
  cases hq' : src.read q with
  | ok text => simp [hq', Except.toOption] at hread
  | error failure => rfl

/-! ## The calls beside a build -/

namespace Traffic

/-- **Two states in which the same calls have come equally far**, on whatever
indexes. -/
structure Abreast (s t : Traffic) : Prop where
  source : s.source = t.source
  locks : s.locks = t.locks
  issued : s.issued = t.issued
  calls : s.calls = t.calls
  tasks : s.log.map Effect.task = t.log.map Effect.task

/-- A step takes both equally far. -/
theorem Abreast.step {s t : Traffic} (h : s.Abreast t) (x : Extractor) (a : Step) :
    (s.step x a).Abreast (t.step x a) := by
  obtain ⟨src, i, locks, issued, calls, log⟩ := s
  obtain ⟨src', i', locks', issued', calls', log'⟩ := t
  obtain ⟨rfl, rfl, rfl, rfl, htasks⟩ := h
  cases a with
  | edit src => exact ⟨rfl, rfl, rfl, rfl, htasks⟩
  | issue u doc => exact ⟨rfl, rfl, rfl, rfl, htasks⟩
  | prune => exact ⟨rfl, rfl, rfl, rfl, htasks⟩
  | read id =>
    simp only [Traffic.step]
    split
    next =>
      split
      next => exact ⟨rfl, rfl, rfl, rfl, htasks⟩
      next => exact ⟨rfl, rfl, rfl, rfl, htasks⟩
    next => exact ⟨rfl, rfl, rfl, rfl, htasks⟩
  | apply id =>
    simp only [Traffic.step]
    split
    next => exact ⟨rfl, rfl, rfl, rfl, by simpa using htasks⟩
    next => exact ⟨rfl, rfl, rfl, rfl, htasks⟩
  | release id =>
    simp only [Traffic.step]
    split
    next => exact ⟨rfl, rfl, rfl, rfl, htasks⟩
    next => exact ⟨rfl, rfl, rfl, rfl, htasks⟩

/-- **Once the last call issued for a document has acted, none is due for it.** -/
theorem Sound.not_due {x : Extractor} {i : Index} {s : Traffic} (hs : s.Sound x i) {d : Path}
    {front : List Task} {t : Task}
    (hlast : s.issued.filter (fun t => t.document.same d) = front ++ [t])
    (hacted : t ∈ s.log.map Effect.task) :
    ∀ u ∈ dueOf s.calls, u.document.same d = false := by
  intro u hu
  refine eq_false_of_ne_true fun hsame => ?_
  have horder := hs.order d
  rw [hlast, List.filter_append] at horder
  have hnodup : (front ++ [t]).Nodup := by
    rw [← hlast]
    exact ((hs.queued.numbered.imp fun h => by rintro rfl; exact Nat.lt_irrefl _ h).filter _)
  have hdue : (dueOf s.calls).filter (fun t => t.document.same d) ≠ [] :=
    List.ne_nil_of_mem (List.mem_filter.2 ⟨hu, hsame⟩)
  -- the last of the due calls is the last one issued, which has acted already
  have hmem : t ∈ (dueOf s.calls).filter fun t => t.document.same d := by
    have hget := congrArg List.getLast? horder
    rw [List.getLast?_append_of_ne_nil _ hdue, List.getLast?_concat] at hget
    exact List.mem_of_getLast? hget
  have hlogged : t ∈ (s.log.map Effect.task).filter fun t => t.document.same d :=
    List.mem_filter.2 ⟨hacted, (List.mem_filter.1 hmem).2⟩
  rw [← horder] at hnodup
  exact (List.nodup_append.1 hnodup).2.2 t hlogged t hmem rfl

end Traffic

namespace Activity

/-- **The calls go about as they would without the builds**, which take no lock and
touch nothing but the index. -/
def Orderly (x : Extractor) (s : Activity) : Prop :=
  ∃ i t, Traffic.Sound x i t ∧ s.traffic.Abreast t

theorem orderly_start (x : Extractor) (i : Index) (src : Source) : (start i src).Orderly x :=
  ⟨i, .start i src, Traffic.sound_start x i src, rfl, rfl, rfl, rfl, rfl⟩

theorem Orderly.step {x : Extractor} {s : Activity} (hs : s.Orderly x) (a : Step) :
    (s.step x a).Orderly x := by
  obtain ⟨i, t, ht, habreast⟩ := hs
  cases a with
  | call a => exact ⟨i, t.step x a, ht.run [a], habreast.step x a⟩
  | begin width => exact ⟨i, t, ht, habreast⟩
  | clear => exact ⟨i, t, ht, { habreast with }⟩
  | build n a =>
    simp only [Activity.step]
    split
    next => exact ⟨i, t, ht, habreast⟩
    next => exact ⟨i, t, ht, { habreast with }⟩

/-- Once the last call issued for a document has acted, none is due for it. -/
theorem Orderly.not_due {x : Extractor} {s : Activity} (hs : s.Orderly x) {d : Path}
    {front : List Task} {t : Task}
    (hlast : s.traffic.issued.filter (fun t => t.document.same d) = front ++ [t])
    (hacted : t ∈ s.traffic.log.map Effect.task) :
    ∀ u ∈ Traffic.dueOf s.traffic.calls, u.document.same d = false := by
  obtain ⟨i, traffic, hsound, habreast⟩ := hs
  rw [habreast.issued] at hlast
  rw [habreast.tasks] at hacted
  rw [habreast.calls]
  exact hsound.not_due hlast hacted

/-- Where no call for a document is under way, the last one issued has acted. -/
theorem Orderly.acted {x : Extractor} {s : Activity} (hs : s.Orderly x) {d : Path}
    {front : List Task} {t : Task}
    (hlast : s.traffic.issued.filter (fun t => t.document.same d) = front ++ [t])
    (hidle : ∀ c ∈ s.traffic.calls, c.task.document.same d = false) :
    t ∈ s.traffic.log.map Effect.task := by
  obtain ⟨i, traffic, hsound, habreast⟩ := hs
  rw [habreast.issued] at hlast
  rw [habreast.calls] at hidle
  obtain ⟨early, e, late, hlog, rfl, -⟩ := hsound.exists_last hidle hlast
  rw [habreast.tasks, hlog]
  exact List.mem_map_of_mem (List.mem_append_right early List.mem_cons_self)

end Activity

/-! ## What a build holds -/

/-- The declaration of a symbol in what a read of a build has found. -/
def Fetch.declared? (f : Fetch) (s : String) : Option Span :=
  f.found.bind fun found => found.bind (·.get? s)

/-- **A build holds a declaration of a document**: it has read it and has not merged
it yet. -/
def Build.Holds (b : Build) (d : Path) (s : String) (span : Span) : Prop :=
  ∃ f ∈ b.fetches, f.document.same d = true ∧ f.declared? s = some span

/-- Once the document is gone, a build gets hold of nothing more of it. -/
theorem Build.Move.holds {x : Extractor} {src : Source} {i : Index} {b : Build} {a : Build.Step}
    {r : Index × Build} (h : Build.Move x src i b a r) {d : Path} (hgone : src.Lacks d)
    {s : String} {span : Span} (hr : r.2.Holds d s span) : b.Holds d s span := by
  obtain ⟨f, hf, hsame, hdecl⟩ := hr
  cases h with
  | fetch hwaiting hwidth =>
    obtain hf | hf := List.mem_append.1 hf
    · exact ⟨f, hf, hsame, hdecl⟩
    · rw [List.mem_singleton.1 hf] at hdecl
      exact absurd hdecl (by simp [Fetch.declared?])
  | @look front back doc hfetches =>
    unfold Build.Holds
    rw [hfetches]
    obtain hf | hf := List.mem_append.1 hf
    · exact ⟨f, List.mem_append_left _ hf, hsame, hdecl⟩
    · obtain rfl | hf := List.mem_cons.1 hf
      · rw [Fetch.declared?, hgone.look_eq_none x hsame] at hdecl
        exact absurd hdecl (by simp)
      · exact ⟨f, List.mem_append_right _ (List.mem_cons_of_mem _ hf), hsame, hdecl⟩
  | merge hfetches =>
    unfold Build.Holds
    rw [hfetches]
    exact ⟨f, List.mem_cons_of_mem _ hf, hsame, hdecl⟩

namespace Activity

/-- One of the builds holds a declaration of a document. -/
def Holds (s : Activity) (d : Path) (sym : String) (span : Span) : Prop :=
  ∃ b ∈ s.builds, b.Holds d sym span

/-- **A document is gone and its removal has been issued**, as the last call for it.
Builds hold of it no more than they did, and once the removal has acted the
document owns no more than that. -/
structure Removing (x : Extractor) (s₀ : Activity) (t : Task) (d : Path) (s : Activity) :
    Prop where
  heard : ∃ seen, s.Heard x seen
  orderly : s.Orderly x
  last : ∃ front, s.traffic.issued.filter (fun t => t.document.same d) = front ++ [t]
  gone : s.traffic.source.Lacks d
  held : ∀ sym span, s.Holds d sym span → s₀.Holds d sym span
  owned : t ∈ s.traffic.log.map Effect.task → ∀ sym span, s.index.get? sym = some span →
    Index.ownedBy d span = true → s₀.Holds d sym span

variable {x : Extractor} {s₀ s : Activity} {t : Task} {d : Path}

theorem Removing.same (hs : Removing x s₀ t d s) : t.document.same d = true := by
  obtain ⟨front, hfront⟩ := hs.last
  have hmem : t ∈ s.traffic.issued.filter fun t => t.document.same d :=
    hfront ▸ List.mem_append_right front List.mem_cons_self
  exact (List.mem_filter.1 hmem).2

/-- **A call that moves keeps that.** -/
theorem Removing.call (hs : Removing x s₀ t d s) (ht : t.update = .deleted) {a : Traffic.Step}
    {r : Traffic} (hissue : a.issuesFor d = false) (hedit : ∀ src, a = .edit src → src.Lacks d)
    (horderly : Orderly x { s with traffic := r }) (h : s.traffic.Move x a r) :
    Removing x s₀ t d { s with traffic := r } := by
  have hlast := Traffic.last_move hissue hs.last h
  obtain ⟨seen, hheard⟩ := hs.heard
  have hheard' : ∃ seen, Heard x seen { s with traffic := r } := ⟨_, hheard.move h⟩
  cases h with
  | edit src => exact { hs with heard := hheard', orderly := horderly, gone := hedit src rfl }
  | issue u doc => exact { hs with heard := hheard', orderly := horderly, last := hlast }
  | read hcalls hheld => exact { hs with heard := hheard', orderly := horderly }
  | release hcalls => exact { hs with heard := hheard', orderly := horderly }
  | prune => exact { hs with heard := hheard', orderly := horderly }
  | @apply front back u found hcalls =>
    refine { hs with heard := hheard', orderly := horderly, owned := ?_ }
    intro hacted sym span hget hown
    have hmem : (⟨u, .read found⟩ : Call) ∈ s.traffic.calls :=
      hcalls ▸ List.mem_append_right front List.mem_cons_self
    have hlooked : Effect.Looked x ⟨u, found, (u.update.apply u.document found s.index).2⟩ := by
      obtain ⟨src, -, hfound⟩ := hheard.calls _ hmem found rfl
      exact ⟨src, hfound⟩
    have hacted : t ∈ s.traffic.log.map Effect.task ∨ t = u := by simpa using hacted
    obtain hacted | rfl := hacted
    · -- the removal was the last call of its document, so this one is of another
      obtain ⟨_, hfront⟩ := hs.last
      have hdue : u ∈ Traffic.dueOf s.traffic.calls :=
        List.mem_map.2 ⟨_, List.mem_filter.2 ⟨hmem, rfl⟩, rfl⟩
      have hother := hs.orderly.not_due hfront hacted u hdue
      exact hs.owned hacted sym span (hlooked.get?_of_apply hother hget hown) hown
    · -- the removal itself leaves nothing
      have hdecl := hlooked.declared?_of_apply (by simp [ht]) hs.same hget hown
      rw [hlooked.declared?_of_deleted ht] at hdecl
      exact absurd hdecl (by simp)

/-- **A build that moves keeps that.** -/
theorem Removing.build (hs : Removing x s₀ t d s) {front back : List Build} {b : Build}
    {a : Build.Step} {r : Index × Build} (hbuilds : s.builds = front ++ b :: back)
    (hheard : ∃ seen, Heard x seen ⟨{ s.traffic with index := r.1 }, front ++ r.2 :: back⟩)
    (horderly : Orderly x ⟨{ s.traffic with index := r.1 }, front ++ r.2 :: back⟩)
    (h : Build.Move x s.traffic.source s.traffic.index b a r) :
    Removing x s₀ t d ⟨{ s.traffic with index := r.1 }, front ++ r.2 :: back⟩ := by
  have hb : b ∈ s.builds := hbuilds ▸ List.mem_append_right front List.mem_cons_self
  refine { heard := hheard, orderly := horderly, last := hs.last, gone := hs.gone,
           held := ?_, owned := ?_ }
  · rintro sym span ⟨b', hb', hholds⟩
    refine hs.held sym span ?_
    obtain hb' | hb' := List.mem_append.1 hb'
    · exact ⟨b', hbuilds ▸ List.mem_append_left _ hb', hholds⟩
    · obtain rfl | hb' := List.mem_cons.1 hb'
      · exact ⟨b, hb, h.holds hs.gone hholds⟩
      · exact ⟨b', hbuilds ▸ List.mem_append_right _ (List.mem_cons_of_mem _ hb'), hholds⟩
  · intro hacted sym span hget hown
    cases h with
    | fetch hwaiting hwidth => exact hs.owned hacted sym span hget hown
    | look hfetches => exact hs.owned hacted sym span hget hown
    | @merge doc found rest hfetches =>
      have hf : (⟨doc, some found⟩ : Fetch) ∈ b.fetches := hfetches ▸ List.mem_cons_self
      have hlooked : (b.effect s.traffic.index doc found).Looked x := by
        obtain ⟨seen, hheard⟩ := hs.heard
        obtain ⟨src, -, hfound⟩ := hheard.fetches b hb _ hf found rfl
        exact ⟨src, hfound⟩
      have happly := (hlooked.get?_apply s.traffic.index sym).symm.trans hget
      obtain hnew | ⟨-, hold⟩ := Option.or_eq_some_iff.1 happly
      · -- what is merged is what the build has held until now
        have hdoc : doc.same d = true := by
          unfold Index.ownedBy at hown
          rwa [hlooked.document_of_declared? hnew] at hown
        exact hs.held sym span ⟨b, hb, _, hf, hdoc, hnew⟩
      · exact hs.owned hacted sym span (Option.filter_eq_some_iff.1 hold).1 hown

/-- **Every step keeps that** which issues no call for the document and does not bring
it back. -/
theorem Removing.step (hs : Removing x s₀ t d s) (ht : t.update = .deleted) {a : Step}
    (hissue : ∀ c, a = .call c → c.issuesFor d = false)
    (hedit : ∀ src, a = .call (.edit src) → src.Lacks d) : Removing x s₀ t d (s.step x a) := by
  obtain ⟨seen, hheard⟩ := hs.heard
  have hheard := hheard.step a
  have horderly := hs.orderly.step a
  cases a with
  | begin width =>
    refine { hs with heard := ⟨_, hheard⟩, orderly := horderly, held := ?_ }
    rintro sym span ⟨b, hb, hholds⟩
    obtain hb | hb := List.mem_append.1 hb
    · exact hs.held sym span ⟨b, hb, hholds⟩
    · obtain ⟨f, hf, -⟩ := hholds
      rw [List.mem_singleton.1 hb] at hf
      exact absurd hf List.not_mem_nil
  | clear =>
    refine { hs with heard := ⟨_, hheard⟩, orderly := horderly, owned := ?_ }
    intro hacted sym span hget
    have hnone : (s.step x .clear).index.get? sym = none := rfl
    rw [hnone] at hget
    exact absurd hget (by simp)
  | call c =>
    obtain h | h := Traffic.step_cases x s.traffic c
    · show Removing x s₀ t d { s with traffic := s.traffic.step x c }
      rw [h]
      exact hs
    · exact hs.call ht (hissue c rfl) (fun src hsrc => hedit src (hsrc ▸ rfl)) horderly h
  | build n c =>
    simp only [Activity.step] at hheard horderly ⊢
    split
    next => exact hs
    next b hget =>
      rw [hget] at hheard horderly
      obtain ⟨front, back, hbuilds, -, hset⟩ := Build.exists_split_set hget
      simp only [hset] at hheard horderly ⊢
      obtain h | h := Build.step_cases x s.traffic.source s.traffic.index b c
      · rw [h, ← hbuilds]
        exact hs
      · exact hs.build hbuilds ⟨_, hheard⟩ horderly h

/-! ## From the removal on -/

/-- The removal has just been issued, and has not acted. -/
theorem removing_issue {p : Path} (hheard : ∃ seen, s.Heard x seen) (hs : s.Orderly x)
    (hp : p.same d = true) (hgone : s.traffic.source.Lacks d) :
    Removing x s ⟨s.traffic.issued.length, .deleted, p⟩ d
      (s.step x (.call (.issue .deleted p))) := by
  have horderly := hs.step (.call (.issue .deleted p))
  obtain ⟨seen, hheard⟩ := hheard
  refine { heard := ⟨_, hheard.step _⟩, orderly := horderly, last := ?_, gone := hgone,
           held := fun _ _ h => h, owned := fun hacted => ?_ }
  · refine ⟨s.traffic.issued.filter (fun t => t.document.same d), ?_⟩
    show (s.traffic.issued ++ [_]).filter _ = _
    rw [List.filter_append, List.filter_cons_of_pos (by simpa using hp)]
    rfl
  · -- what has acted was issued before, under a lower number
    obtain ⟨i, t, ht, habreast⟩ := hs
    have hlog : (⟨s.traffic.issued.length, .deleted, p⟩ : Task) ∈ t.log.map Effect.task := by
      rw [← habreast.tasks]
      exact hacted
    obtain ⟨e, he, htask⟩ := List.mem_map.1 hlog
    have hissued := ht.task_mem_issued he
    rw [htask] at hissued
    have hbelow := ht.queued.below _ hissued
    rw [← habreast.issued] at hbelow
    exact absurd hbelow (Nat.lt_irrefl _)

theorem Orderly.run (hs : s.Orderly x) (steps : List Step) : (s.run x steps).Orderly x :=
  List.foldlRecOn steps _ hs fun _ hs a _ => hs.step a

/-- **A whole run keeps that.** -/
theorem Removing.run (hs : Removing x s₀ t d s) (ht : t.update = .deleted) {steps : List Step}
    (hissue : ∀ c, .call c ∈ steps → c.issuesFor d = false)
    (hedit : ∀ src, .call (.edit src) ∈ steps → src.Lacks d) :
    Removing x s₀ t d (s.run x steps) := by
  refine List.foldlRecOn steps _ hs fun _ hs a ha => hs.step ht ?_ ?_
  · rintro c rfl
    exact hissue c ha
  · rintro src rfl
    exact hedit src ha

/-- **A removed document owns at most what a build held of it.** A document `d` is
gone for good, its removal is issued as the last call for it, under the path `p`,
and no call for it is under way in the end. Whatever calls, builds and edits came
before, between and after, what `d` owns then some build had read, and not yet
merged, when the removal was issued. So `d` owns nothing where no build held
anything of it. -/
theorem held_of_owned_of_removed (x : Extractor) (i : Index) (src : Source)
    (before after : List Step) (p d : Path) (hp : p.same d = true)
    (hgone : ((start i src).run x before).traffic.source.Lacks d)
    (hkeep : ∀ src', .call (.edit src') ∈ after → src'.Lacks d)
    (hlast : ∀ a, .call a ∈ after → a.issuesFor d = false)
    (hidle : ∀ c ∈ ((start i src).run x
        (before ++ .call (.issue .deleted p) :: after)).traffic.calls,
      c.task.document.same d = false) :
    let s₀ := (start i src).run x before
    let s := (start i src).run x (before ++ .call (.issue .deleted p) :: after)
    (∀ sym span, s.index.get? sym = some span → Index.ownedBy d span = true →
        s₀.Holds d sym span)
      ∧ ((∀ sym span, ¬ s₀.Holds d sym span) → s.index.owns d = false) := by
  intro s₀ s
  have hrun : s = (s₀.step x (.call (.issue .deleted p))).run x after := run_append x _ before _
  have hs₀ : s₀.Orderly x := (orderly_start x i src).run before
  have hissued := removing_issue ⟨_, heard_run x i src before⟩ hs₀ hp hgone
  have hs : Removing x s₀ ⟨s₀.traffic.issued.length, .deleted, p⟩ d s := by
    rw [hrun]
    exact hissued.run rfl hlast hkeep
  obtain ⟨front, hfront⟩ := hs.last
  have hheld := hs.owned (hs.orderly.acted hfront hidle)
  refine ⟨hheld, fun hnone => eq_false_of_ne_true fun howns => ?_⟩
  obtain ⟨sym, span, hget, hown⟩ := (Index.owns_iff s.index d).1 howns
  exact hnone sym span (hheld sym span hget hown)

/-- One document with one declaration. -/
def present : Source := ⟨[⟨"a.dec"⟩], fun _ => .ok "g.PcdA|1"⟩

/-- The document is still listed, and is gone when it is read. -/
def vanished : Source := ⟨[⟨"a.dec"⟩], fun _ => .error .missing⟩

theorem lacks_vanished (d : Path) : vanished.Lacks d := fun _ _ => rfl

/-- A build reads the document and merges it, and then the document goes. -/
def mergedBefore : List Step :=
  [.begin 1, .build 0 .fetch, .build 0 (.look 0), .build 0 .merge, .call (.edit vanished)]

/-- The removal acts while another build has the document under way. -/
def duringBuild : List Step :=
  [.begin 2, .build 1 .fetch, .call (.read 0), .build 1 (.look 0), .call (.apply 0),
    .call (.release 0), .build 1 .merge, .call .prune]

theorem held_of_owned_of_removed_duringBuild :
    (∀ a, .call a ∈ duringBuild → a.issuesFor ⟨"a.dec"⟩ = false)
      ∧ ((start default present).run .ordinary mergedBefore).index.owns ⟨"a.dec"⟩ = true
      ∧ ((start default present).run .ordinary
          (mergedBefore ++ .call (.issue .deleted ⟨"a.dec/"⟩) :: duringBuild)).index.owns
            ⟨"a.dec"⟩ = false := by
  have hlast : ∀ a, .call a ∈ duringBuild → a.issuesFor ⟨"a.dec"⟩ = false := by
    intro a ha
    simp only [duringBuild, List.mem_cons, reduceCtorEq, Step.call.injEq, List.not_mem_nil,
      false_or, or_false] at ha
    obtain rfl | rfl | rfl | rfl := ha <;> rfl
  have hfetches : ∀ b ∈ ((start default present).run .ordinary mergedBefore).builds,
      b.fetches.isEmpty = true := by decide +kernel
  refine ⟨hlast, by decide +kernel, ?_⟩
  refine (held_of_owned_of_removed .ordinary default present mergedBefore duringBuild
    ⟨"a.dec/"⟩ ⟨"a.dec"⟩ (by decide) (lacks_vanished _) (fun src' hmem => ?_) hlast
    (by decide +kernel)).2 ?_
  · exact absurd hmem (by simp [duringBuild])
  · rintro sym span ⟨b, hb, f, hf, -⟩
    rw [List.isEmpty_iff.1 (hfetches b hb)] at hf
    exact absurd hf List.not_mem_nil

/-- A build reads the document, which then goes. -/
def readBefore : List Step :=
  [.begin 1, .build 0 .fetch, .build 0 (.look 0), .call (.edit vanished)]

/-- The removal acts and is over before the build merges what it has read. -/
def mergedAfter : List Step :=
  [.call (.read 0), .call (.apply 0), .call (.release 0), .call .prune, .build 0 .merge]

/-- **A build brings a removed document back.** It reads the document while it is
there and takes no lock for it, so the removal comes and goes before the build
merges what it has read. In the end the document is gone, its removal was the
last call for it, nothing is under way, and it owns what it declared. -/
theorem owns_of_merged_after_removal :
    let s₀ := (start default present).run .ordinary readBefore
    let s := (start default present).run .ordinary
      (readBefore ++ .call (.issue .deleted ⟨"a.dec"⟩) :: mergedAfter)
    s₀.traffic.source.Lacks ⟨"a.dec"⟩
      ∧ (∀ src', .call (.edit src') ∈ mergedAfter → src'.Lacks ⟨"a.dec"⟩)
      ∧ (∀ a, .call a ∈ mergedAfter → a.issuesFor ⟨"a.dec"⟩ = false)
      ∧ s.traffic.calls.isEmpty = true
      ∧ (∀ b ∈ s.builds, b.isDone = true)
      ∧ s.index.owns ⟨"a.dec"⟩ = true := by
  refine ⟨lacks_vanished _, fun src' hmem => ?_, fun a ha => ?_, by decide +kernel,
    by decide +kernel, by decide +kernel⟩
  · exact absurd hmem (by simp [mergedAfter])
  · simp only [mergedAfter, List.mem_cons, reduceCtorEq, Step.call.injEq, List.not_mem_nil,
      or_false] at ha
    obtain rfl | rfl | rfl | rfl := ha <;> rfl

end Activity

end PcdCatalog

import Mathlib.Data.List.Forall2
import PcdCatalog.Proofs.BatchEffect
import PcdCatalog.Proofs.HandoverLog
import PcdCatalog.Proofs.Spelling

/-!
# Spelling never matters

A `Session` is a workspace over documents in memory, and everything that is asked
of it comes as a `Request`: documents are put on the shelf or taken away, the
workspace is built or told about documents – one at a time, in batches, as events
or as updates that overlap – and queries are answered. Two runs whose requests
differ only in how paths are spelled (`Request.Respelled`) are compared here. They
stay in step: the states remain alike (`Session.Alike`) and so do the replies.

Where the two runs differ is what they show. A document that comes back under
another spelling keeps the spelling of its first text on the shelf, while the
index takes that of the latest update; so the spellings of one run are not a
function of those of the other, and the runs are related step by step instead.
-/

namespace PcdCatalog

/-! ## Locks and overlapping updates -/

namespace Locks

variable {η : Type} [DecidableEq η]

/-- Locks without the names of the documents that they were claimed for. -/
def unnamed (l : Locks η) : Locks η :=
  { l with claims := l.claims.map fun c => { c with document := ⟨""⟩ } }

/-- Who holds a lock does not depend on the names. -/
theorem isHeldBy_unnamed (l : Locks η) (handle : η) :
    l.unnamed.isHeldBy handle = l.isHeldBy handle := by
  simp [isHeldBy, holds, holder?, unnamed, List.find?_map, Function.comp_def]

theorem unnamed_release (l : Locks η) (handle : η) :
    (l.release handle).unnamed = l.unnamed.release handle := by
  simp [release, unnamed, List.filter_map, Function.comp_def]

omit [DecidableEq η] in
theorem unnamed_prune (l : Locks η) : l.prune.unnamed = l.unnamed.prune := by
  simp [prune, inUse, unnamed, Function.comp_def]

omit [DecidableEq η] in
/-- Asking for a lock goes by the key of the document. -/
theorem unnamed_acquire {l m : Locks η} (h : l.unnamed = m.unnamed) (handle : η) {doc doc' : Path}
    (hdoc : doc.key = doc'.key) :
    (l.acquire handle doc).unnamed = (m.acquire handle doc').unnamed := by
  -- The names of earlier claims play no part, and that of the new one is dropped.
  have hearlier : ∀ (l : Locks η) (doc : Path),
      (l.acquire handle doc).unnamed = (l.unnamed.acquire handle doc).unnamed := by
    intro l doc
    have hlocks : l.unnamed.lockOf = l.lockOf := rfl
    rw [acquire, acquire, hlocks]
    cases l.lockOf.get? doc.key <;> simp [unnamed]
  have hnew : (m.unnamed.acquire handle doc).unnamed = (m.unnamed.acquire handle doc').unnamed := by
    rw [acquire, acquire, hdoc]
    cases m.unnamed.lockOf.get? doc'.key <;> simp [unnamed]
  rw [hearlier, h, hnew, ← hearlier]

end Locks

/-- What is left of a read under way. -/
def Reading.fact (r : Reading) : Nat × Nat × Option (Table String Site) :=
  (r.id, r.due, r.found.map Declarations.sites)

/-- What is left of a task. -/
def Task.fact (t : Task) : Nat × Update × Path.Key := (t.id, t.update, t.document.key)

namespace Schedule

/-- **Schedules that differ in spelling only.** -/
structure Alike (ordered : Prop) (s t : Schedule) : Prop where
  index : s.index.Alike ordered t.index
  locks : s.locks.unnamed = t.locks.unnamed
  now : s.now = t.now
  readings : s.readings.map Reading.fact = t.readings.map Reading.fact
  done : s.done = t.done

namespace Alike

variable {ordered : Prop} {s t : Schedule} {a b : Task} {src src' : Source} {ticks ticks' : Path → Nat}

/-- The same reads are under way. -/
theorem reading? (h : s.Alike ordered t) (hab : a.fact = b.fact) :
    (s.reading? a).map Reading.fact = (t.reading? b).map Reading.fact := by
  have hplain : ∀ (s : Schedule) (a : Task), (s.reading? a).map Reading.fact
      = (s.readings.map Reading.fact).find? fun r => r.1 == a.fact.1 := by
    intro s a
    rw [List.find?_map]
    rfl
  rw [hplain, hplain, h.readings, hab]

/-- **Starting a read keeps schedules alike.** -/
theorem start (h : s.Alike ordered t) (hab : a.fact = b.fact) (x : Extractor) (hsrc : src.Alike src')
    (hticks : ∀ doc doc', doc.key = doc'.key → ticks doc = ticks' doc') :
    (s.start x src ticks a).Alike ordered (t.start x src' ticks' b) := by
  obtain ⟨hid, hrest⟩ := Prod.mk.inj hab
  obtain ⟨hupdate, hdoc⟩ := Prod.mk.inj hrest
  have hdone : s.isDone a = t.isDone b := by
    unfold isDone
    rw [h.done, hid]
  have hreading : (s.reading? a).isSome = (t.reading? b).isSome := by
    simpa using congrArg Option.isSome (h.reading? hab)
  have hheld : s.locks.isHeldBy a.id = t.locks.isHeldBy b.id := by
    rw [← Locks.isHeldBy_unnamed, ← Locks.isHeldBy_unnamed t.locks, h.locks, hid]
  unfold Schedule.start
  rw [hdone, hreading, hheld, hupdate, hticks _ _ hdoc, h.now]
  split
  · exact h
  · refine ⟨h.index, h.locks, rfl, ?_, h.done⟩
    simp only [List.map_append, h.readings, List.map_cons, List.map_nil, Reading.fact, hid,
      hsrc.look_update x b.update hdoc]

/-- Giving a lock back keeps locks alike. -/
theorem unnamed_unlock (h : s.locks.unnamed = t.locks.unnamed) (hab : a.fact = b.fact) :
    (unlock s.locks a).unnamed = (unlock t.locks b).unnamed := by
  obtain ⟨hid, hrest⟩ := Prod.mk.inj hab
  unfold unlock
  rw [hid, (Prod.mk.inj hrest).1]
  split
  · rw [Locks.unnamed_prune, Locks.unnamed_prune, Locks.unnamed_release, Locks.unnamed_release, h]
  · rw [Locks.unnamed_release, Locks.unnamed_release, h]

/-- **Acting on the index keeps schedules alike.** -/
theorem finish (h : s.Alike ordered t) (hab : a.fact = b.fact) : (s.finish a).Alike ordered (t.finish b) := by
  obtain ⟨hid, hrest⟩ := Prod.mk.inj hab
  obtain ⟨hupdate, hdoc⟩ := Prod.mk.inj hrest
  have hreading := h.reading? hab
  unfold Schedule.finish
  cases hs : s.reading? a with
  | none =>
    rw [hs] at hreading
    rw [Option.map_eq_none_iff.1 hreading.symm]
    exact h
  | some r =>
    rw [hs] at hreading
    obtain ⟨r', ht, hfact⟩ := Option.map_eq_some_iff.1 hreading.symm
    obtain ⟨-, hfact⟩ := Prod.mk.inj hfact
    obtain ⟨hdue, hfound⟩ := Prod.mk.inj hfact
    obtain ⟨hindex, hcounts⟩ := h.index.apply hdoc b.update hfound.symm
    have hfilter : ∀ (l : List Reading) (id : Nat), (l.filter fun r => r.id != id).map Reading.fact
        = (l.map Reading.fact).filter fun r => r.1 != id := by
      intro l id
      rw [List.filter_map]
      rfl
    simp only [ht, h.now, hdue, hupdate]
    split
    · exact h
    · refine ⟨hindex, unnamed_unlock h.locks hab, rfl, ?_, ?_⟩
      · show (s.readings.filter _).map _ = (t.readings.filter _).map _
        rw [hfilter, hfilter, h.readings, hid]
      · rw [h.done, hid, hcounts]

/-- **Letting every task act keeps schedules alike.** -/
theorem pass (h : s.Alike ordered t) {tasks tasks' : List Task}
    (htasks : tasks.map Task.fact = tasks'.map Task.fact) (x : Extractor) (hsrc : src.Alike src')
    (hticks : ∀ doc doc', doc.key = doc'.key → ticks doc = ticks' doc') :
    (s.pass x src ticks tasks).Alike ordered (t.pass x src' ticks' tasks') :=
  foldl_in_step (R := Alike ordered) (fun _ _ _ _ hst hab => (hst.start hab x hsrc hticks).finish hab)
    htasks h

/-- **So does going from moment to moment.** -/
theorem run (h : s.Alike ordered t) {tasks tasks' : List Task}
    (htasks : tasks.map Task.fact = tasks'.map Task.fact) (x : Extractor) (hsrc : src.Alike src')
    (hticks : ∀ doc doc', doc.key = doc'.key → ticks doc = ticks' doc') (fuel : Nat) :
    (s.run x src ticks tasks fuel).Alike ordered (t.run x src' ticks' tasks' fuel) := by
  induction fuel generalizing s t with
  | zero => exact h
  | succ fuel ih =>
    have hdue : s.nextDue? = t.nextDue? := by
      have hplain : ∀ s : Schedule, s.readings.map Reading.due
          = (s.readings.map Reading.fact).map fun r => r.2.1 := by
        intro s
        rw [List.map_map]
        rfl
      unfold nextDue?
      rw [hplain, hplain, h.readings]
    unfold Schedule.run
    rw [hdue]
    cases t.nextDue? with
    | none => exact h
    | some due =>
      have hmoved : Alike ordered { s with now := due } { t with now := due } :=
        ⟨h.index, h.locks, rfl, h.readings, h.done⟩
      exact ih (hmoved.pass htasks x hsrc hticks)

end Alike

end Schedule

namespace Workspace

/-- Updates that are alike are tasks that are alike. -/
theorem map_fact_tasks {updates updates' : List (Update × Path)}
    (h : updates.map (Prod.map id Path.key) = updates'.map (Prod.map id Path.key)) :
    (tasks updates).map Task.fact = (tasks updates').map Task.fact := by
  have hplain : ∀ updates : List (Update × Path), (tasks updates).map Task.fact
      = (updates.map (Prod.map id Path.key)).zipIdx.map fun e => (e.2, e.1.1, e.1.2) := by
    intro updates
    unfold tasks
    rw [List.zipIdx_map, List.map_map, List.map_map]
    rfl
  rw [hplain, hplain, h]

/-- **Updates issued together keep workspaces alike, and count the same**, whatever
their reads take. -/
theorem Alike.overlap {ordered : Prop} {w v : Workspace} {src src' : Source} {ticks ticks' : Path → Nat}
    (h : w.Alike ordered v) (hsrc : src.Alike src')
    (hticks : ∀ doc doc', doc.key = doc'.key → ticks doc = ticks' doc')
    {updates updates' : List (Update × Path)}
    (hupdates : updates.map (Prod.map id Path.key) = updates'.map (Prod.map id Path.key)) :
    (w.overlap src ticks updates).1.Alike ordered (v.overlap src' ticks' updates').1
      ∧ (w.overlap src ticks updates).2 = (v.overlap src' ticks' updates').2 := by
  have htasks := map_fact_tasks hupdates
  have hlength : (tasks updates).length = (tasks updates').length := by
    simpa using congrArg List.length htasks
  have hissue : (Schedule.issue w.index (tasks updates)).Alike ordered
      (Schedule.issue v.index (tasks updates')) := by
    refine ⟨h.index, ?_, rfl, rfl, rfl⟩
    refine foldl_in_step (R := fun l m : Locks Nat => l.unnamed = m.unnamed)
      (fun l m a b hlm hab => ?_) htasks rfl
    obtain ⟨hid, hrest⟩ := Prod.mk.inj hab
    rw [hid]
    exact Locks.unnamed_acquire hlm b.id (Prod.mk.inj hrest).2
  have hschedule : (w.schedule src ticks updates).Alike ordered (v.schedule src' ticks' updates') := by
    simp only [schedule, ← h.extractor, hlength]
    exact (hissue.pass htasks w.extractor hsrc hticks).run htasks w.extractor hsrc hticks _
  refine ⟨⟨h.extractor, h.mode, hschedule.index⟩, ?_⟩
  have hplain : ∀ (done : List (Nat × UpdateCounts)) (ts : List Task),
      ts.map (fun t => ((done.find? fun d => d.1 == t.id).map Prod.snd).getD {})
        = (ts.map Task.fact).map fun q => ((done.find? fun d => d.1 == q.1).map Prod.snd).getD {} := by
    intro done ts
    rw [List.map_map]
    rfl
  simp only [Workspace.overlap, hplain, hschedule.done, htasks]

end Workspace

/-! ## Shelves -/

namespace Shelf

/-- **Shelves that differ in spelling only**, and came about by putting documents
on them and taking them away. -/
structure Alike (s t : Shelf) : Prop where
  tidy : s.Tidy
  tidy' : t.Tidy
  texts : s.texts.map (fun _ => Prod.snd) = t.texts.map fun _ => Prod.snd

namespace Alike

variable {s t : Shelf} {doc doc' : Path}

theorem insert (h : s.Alike t) (hdoc : doc.key = doc'.key) (text : String) :
    (s.insert doc text).Alike (t.insert doc' text) where
  tidy := h.tidy.insert doc text
  tidy' := h.tidy'.insert doc' text
  texts := by
    show (s.texts.insert _ _).map _ = (t.texts.insert _ _).map _
    rw [Table.map_insert, Table.map_insert, h.texts, hdoc]

theorem remove (h : s.Alike t) (hdoc : doc.key = doc'.key) :
    (s.remove doc).Alike (t.remove doc') where
  tidy := h.tidy.remove doc
  tidy' := h.tidy'.remove doc'
  texts := by
    show (s.texts.erase _).map _ = (t.texts.erase _).map _
    unfold Table.erase
    rw [Table.map_filter Prod.snd fun k _ => compare doc.key k != .eq,
      Table.map_filter Prod.snd fun k _ => compare doc'.key k != .eq, h.texts, hdoc]

theorem contains (h : s.Alike t) (hdoc : doc.key = doc'.key) : s.contains doc = t.contains doc' := by
  unfold Shelf.contains
  rw [← Table.contains_map (fun _ => Prod.snd), h.texts, Table.contains_map, hdoc]

/-- **As sources they are alike**: the documents come in the order of their keys,
and a document is found under its key. -/
theorem source (h : s.Alike t) : s.source.Alike t.source where
  documents := by
    have hkeys : ∀ {s : Shelf}, s.Tidy → s.documents.map Path.key = s.texts.keys := by
      intro s hs
      rw [hs.documents_eq, List.map_map]
      exact List.map_congr_left fun e he => hs.filed e.1 e.2 ((Table.get?_eq_some_iff _).2 he)
    show s.documents.map _ = t.documents.map _
    rw [hkeys h.tidy, hkeys h.tidy', ← Table.keys_map (fun _ => Prod.snd), h.texts, Table.keys_map]
  read doc doc' hdoc := by
    have hread : ∀ {s : Shelf} (doc : Path), s.Tidy → s.read doc
        = ((s.texts.map fun _ => Prod.snd).get? doc.key).elim (.error .missing) .ok := by
      intro s doc hs
      unfold read isBroken
      rw [hs.whole, Table.get?_map]
      cases s.texts.get? doc.key <;> rfl
    show s.read doc = t.read doc'
    rw [hread doc h.tidy, hread doc' h.tidy', h.texts, hdoc]

end Alike

end Shelf

/-! ## Sessions -/

/-- **A workspace over documents in memory.** -/
structure Session where
  workspace : Workspace
  shelf : Shelf

/-- What can be asked of a session. -/
inductive Request where
  | insert (doc : Path) (text : String)
  | remove (doc : Path)
  | build
  | rebuild
  | update (kind : Update) (doc : Path)
  /-- Updates issued together, with the ticks that reading each document takes. -/
  | overlap (ticks : Path.Key → Nat) (updates : List (Update × Path))
  /-- A batch of changes. -/
  | process (changes : List Event)
  /-- Events, of which the net changes are followed. -/
  | digest (events : List Event)
  | definition (text : String)
  | definitionAt (text : String) (position : Position)
  | completions (text : String) (mode : Option CompletionMode)
  | entriesIn (doc : Path)
  | owns (doc : Path)
  | documentCount

/-- What is answered. Places are given as spans, or as what is left of them. -/
inductive Reply (σ : Type) where
  | done
  | holds (answer : Bool)
  | counts (n : UpdateCounts)
  | countsOfEach (ns : List UpdateCounts)
  | changeCounts (n : ChangeCounts)
  | place (span : Option σ)
  | names (symbols : List String)
  | entries (places : List (String × σ))
  | number (n : Nat)

/-- The same answer with its places read through a function. -/
def Reply.map {σ τ : Type} (f : σ → τ) : Reply σ → Reply τ
  | done => done
  | holds answer => holds answer
  | counts n => counts n
  | countsOfEach ns => countsOfEach ns
  | changeCounts n => changeCounts n
  | place span => place (span.map f)
  | names symbols => names symbols
  | entries places => entries (places.map (Prod.map id f))
  | number n => number n

namespace Session

/-- Nothing has been put on the shelf and nothing has been read. -/
def start (x : Extractor) (mode : CompletionMode) (limit : Nat)
    (rankings : Nat → Ranking := fun _ => .ascending) : Session :=
  ⟨.empty x mode limit rankings, .empty⟩

/-- A session goes on with what was done to its workspace. -/
def withResult {ρ : Type} (s : Session) (reply : ρ → Reply Span) (r : Workspace × ρ) :
    Session × Reply Span :=
  ({ s with workspace := r.1 }, reply r.2)

/-- **Answer a request.** -/
def serve (s : Session) : Request → Session × Reply Span
  | .insert doc text => ({ s with shelf := s.shelf.insert doc text }, .done)
  | .remove doc => ({ s with shelf := s.shelf.remove doc }, .holds (s.shelf.contains doc))
  | .build => s.withResult .counts (s.workspace.build s.shelf.source)
  | .rebuild => s.withResult .counts (s.workspace.rebuild s.shelf.source)
  | .update u doc => s.withResult .counts (s.workspace.update s.shelf.source u doc)
  | .overlap ticks updates =>
    s.withResult .countsOfEach
      (s.workspace.overlap s.shelf.source (fun doc => ticks doc.key) updates)
  | .process changes => s.withResult .changeCounts (s.workspace.process s.shelf.source changes)
  | .digest events =>
    s.withResult .changeCounts (s.workspace.process s.shelf.source (Event.coalesce events))
  | .definition text => (s, .place (s.workspace.definition text))
  | .definitionAt text p => (s, .place (s.workspace.definitionAt text p))
  | .completions text mode => (s, .names (s.workspace.completions text mode))
  | .entriesIn doc =>
    (s, .entries ((s.workspace.index.entriesIn doc).map fun e => (e.symbol, e.span)))
  | .owns doc => (s, .holds (s.workspace.index.owns doc))
  | .documentCount => (s, .number s.workspace.index.documents.length)

/-- **Answer requests one after the other.** -/
def serveAll (s : Session) : List Request → Session × List (Reply Span)
  | [] => (s, [])
  | r :: requests =>
    (((s.serve r).1.serveAll requests).1, (s.serve r).2 :: ((s.serve r).1.serveAll requests).2)

end Session

/-- **The same request, but for the spelling of paths.** -/
inductive Request.Respelled : Request → Request → Prop
  | insert {doc doc' : Path} (h : doc.key = doc'.key) (text : String) :
    Respelled (.insert doc text) (.insert doc' text)
  | remove {doc doc' : Path} (h : doc.key = doc'.key) : Respelled (.remove doc) (.remove doc')
  | build : Respelled .build .build
  | rebuild : Respelled .rebuild .rebuild
  | update {doc doc' : Path} (u : Update) (h : doc.key = doc'.key) :
    Respelled (.update u doc) (.update u doc')
  | overlap {updates updates' : List (Update × Path)} (ticks : Path.Key → Nat)
    (h : updates.map (Prod.map id Path.key) = updates'.map (Prod.map id Path.key)) :
    Respelled (.overlap ticks updates) (.overlap ticks updates')
  | process {changes changes' : List Event}
    (h : changes.map Event.fact = changes'.map Event.fact) :
    Respelled (.process changes) (.process changes')
  | digest {events events' : List Event} (h : events.map Event.fact = events'.map Event.fact) :
    Respelled (.digest events) (.digest events')
  | definition (text : String) : Respelled (.definition text) (.definition text)
  | definitionAt (text : String) (p : Position) :
    Respelled (.definitionAt text p) (.definitionAt text p)
  | completions (text : String) (mode : Option CompletionMode) :
    Respelled (.completions text mode) (.completions text mode)
  | entriesIn {doc doc' : Path} (h : doc.key = doc'.key) :
    Respelled (.entriesIn doc) (.entriesIn doc')
  | owns {doc doc' : Path} (h : doc.key = doc'.key) : Respelled (.owns doc) (.owns doc')
  | documentCount : Respelled .documentCount .documentCount

namespace Session

/-- **Sessions that differ in spelling only.** -/
structure Alike (ordered : Prop) (s t : Session) : Prop where
  workspace : s.workspace.Alike ordered t.workspace
  shelf : s.shelf.Alike t.shelf

variable {ordered : Prop} {s t : Session}

theorem alike_start (x : Extractor) (mode : CompletionMode) (limit : Nat)
    (rankings rankings' : Nat → Ranking) :
    (start x mode limit rankings).Alike (rankings = rankings') (start x mode limit rankings') where
  workspace := ⟨rfl, rfl, rfl, fun hordered => ⟨rfl, rfl, hordered⟩⟩
  shelf := ⟨Shelf.tidy_empty, Shelf.tidy_empty, rfl⟩

/-- What was done to workspaces in step, sessions go on with in step. -/
theorem Alike.withResult (h : s.Alike ordered t) {ρ : Type} (reply : ρ → Reply Span)
    {r r' : Workspace × ρ} (hr : r.1.Alike ordered r'.1 ∧ r.2 = r'.2) :
    (s.withResult reply r).1.Alike ordered (t.withResult reply r').1
      ∧ (s.withResult reply r).2.map Span.site = (t.withResult reply r').2.map Span.site :=
  ⟨⟨hr.1, h.shelf⟩, by rw [Session.withResult, Session.withResult, hr.2]⟩

/-- **One request in two spellings** keeps sessions alike, and gets one reply. -/
theorem Alike.serve (h : s.Alike ordered t) {r r' : Request} (hr : r.Respelled r') :
    (s.serve r).1.Alike ordered (t.serve r').1
      ∧ (s.serve r).2.map Span.site = (t.serve r').2.map Span.site := by
  have hw := h.workspace
  have hsrc := h.shelf.source
  cases hr with
  | insert hdoc text => exact ⟨⟨hw, h.shelf.insert hdoc text⟩, rfl⟩
  | remove hdoc => exact ⟨⟨hw, h.shelf.remove hdoc⟩, congrArg Reply.holds (h.shelf.contains hdoc)⟩
  | build => exact h.withResult .counts (hw.build hsrc)
  | rebuild => exact h.withResult .counts (hw.rebuild hsrc)
  | update u hdoc => exact h.withResult .counts (hw.update hsrc u hdoc)
  | overlap ticks hupdates =>
    exact h.withResult .countsOfEach
      (hw.overlap hsrc (fun doc doc' hdoc => congrArg ticks hdoc) hupdates)
  | process hchanges => exact h.withResult .changeCounts (hw.process hsrc hchanges)
  | digest hevents =>
    exact h.withResult .changeCounts (hw.process hsrc (Event.map_fact_coalesce hevents))
  | definition text => exact ⟨h, congrArg Reply.place (hw.definition text)⟩
  | definitionAt text p => exact ⟨h, congrArg Reply.place (hw.definitionAt text p)⟩
  | completions text mode => exact ⟨h, congrArg Reply.names (hw.completions text mode)⟩
  | entriesIn hdoc =>
    refine ⟨h, congrArg Reply.entries ?_⟩
    rw [List.map_map, List.map_map]
    exact hw.index.entriesIn hdoc
  | owns hdoc => exact ⟨h, congrArg Reply.holds (hw.index.owns hdoc)⟩
  | documentCount =>
    refine ⟨h, congrArg Reply.number ?_⟩
    simpa using congrArg List.length hw.index.documents

/-- **Two runs stay in step.** -/
theorem Alike.serveAll (h : s.Alike ordered t) {requests requests' : List Request}
    (hr : List.Forall₂ Request.Respelled requests requests') :
    (s.serveAll requests).1.Alike ordered (t.serveAll requests').1
      ∧ (s.serveAll requests).2.map (Reply.map Span.site)
        = (t.serveAll requests').2.map (Reply.map Span.site) := by
  induction hr generalizing s t with
  | nil => exact ⟨h, rfl⟩
  | cons hr _ ih =>
    obtain ⟨hnext, hreply⟩ := h.serve hr
    obtain ⟨hlast, hreplies⟩ := ih hnext
    exact ⟨hlast, congrArg₂ List.cons hreply hreplies⟩

end Session

/-! ## Updates under another spelling of the owner -/

namespace Index

/-- What is in the log after a merge was there, or took a symbol from another
document than the merged one. -/
theorem mem_handovers_foldl_placed {doc : Path} {l : List (String × Span)}
    {acc : Index × MergeCounts} {h : Handover}
    (hmem : h ∈ (l.foldl (placed doc) acc).1.handovers) :
    h ∈ acc.1.handovers ∨ h.previous.document.same doc = false := by
  induction l generalizing acc with
  | nil => exact Or.inl hmem
  | cons e l ih =>
    obtain hmem | hother := ih hmem
    · rw [handovers_placed] at hmem
      cases hh : acc.1.handover? doc e.1 e.2 with
      | none =>
        rw [hh] at hmem
        exact Or.inl hmem
      | some handover =>
        rw [hh] at hmem
        obtain hmem | rfl := mem_note hmem
        · exact Or.inl hmem
        · exact Or.inr (sides_of_handover? hh).1
    · exact Or.inr hother

/-- **A document that takes symbols from itself only is not noted.** -/
theorem handovers_foldl_placed_of_owned {doc : Path} {l : List (String × Span)}
    {acc : Index × MergeCounts} (hl : ∀ e ∈ l, ownedBy doc e.2 = true)
    (howned : ∀ e ∈ l, ∀ span, acc.1.table.get? e.1 = some span → ownedBy doc span = true) :
    (l.foldl (placed doc) acc).1.handovers = acc.1.handovers := by
  induction l generalizing acc with
  | nil => rfl
  | cons e l ih =>
    obtain ⟨he, hl⟩ := List.forall_mem_cons.1 hl
    obtain ⟨hold, howned⟩ := List.forall_mem_cons.1 howned
    have hnone : acc.1.handover? doc e.1 e.2 = none := by
      unfold handover?
      cases hget : acc.1.table.get? e.1 with
      | none => rfl
      | some previous => exact if_pos (hold previous hget)
    -- an entry that was just placed belongs to the document as well
    have hnext : ∀ e' ∈ l, ∀ span, (placed doc acc e).1.table.get? e'.1 = some span →
        ownedBy doc span = true := by
      intro e' he' span hget
      have hput : (acc.1.table.insert e.1 e.2).get? e'.1 = some span := hget
      rw [Table.get?_insert] at hput
      split at hput
      · exact Option.some.inj hput ▸ he
      · exact howned e' he' span hput
    rw [List.foldl_cons, ih hl hnext, handovers_placed, hnone]
    rfl

end Index

/-- **An update under another spelling of the owner's path**: what the owner had is
replaced or dropped, and nothing is noted that is taken from it. -/
structure Workspace.FollowsOwner (w : Workspace) (src : Source) (owner doc : Path) : Prop where
  changed : ∀ s, (w.changed src doc).1.index.get? s
    = (w.extractor.declared? src doc s).or
        ((w.index.get? s).filter fun span => !Index.ownedBy owner span)
  deleted : ∀ s, (w.deleted src doc).1.index.get? s
    = (w.index.get? s).filter fun span => !Index.ownedBy owner span
  followed : ∀ e : Event, e.path = doc → ∀ s, (w.follow src e).1.index.get? s
    = (e.declared? w.extractor src s).or
        ((w.index.get? s).filter fun span => !Index.ownedBy owner span)
  noted : ∀ u, ∀ h ∈ (w.update src u doc).1.index.handovers,
    h ∈ w.index.handovers ∨ Index.ownedBy owner h.previous = false
  quiet : (∀ s span, s ∈ w.extractor.symbolsIn src doc → w.index.get? s = some span →
      Index.ownedBy owner span = true) →
    ∀ u, (w.update src u doc).1.index.handovers = w.index.handovers

namespace Workspace

/-- The log after an update is that after a merge of what was found, if anything
was merged. -/
theorem handovers_update (w : Workspace) (src : Source) (u : Update) (doc : Path) :
    (w.update src u doc).1.index.handovers = w.index.handovers
      ∨ ∃ i : Index, i.handovers = w.index.handovers
        ∧ (∀ s span, i.get? s = some span → w.index.get? s = some span)
        ∧ (w.update src u doc).1.index.handovers
          = (i.merge doc ((w.extractor.look src doc).getD ∅)).1.handovers := by
  cases u with
  | deleted => exact Or.inl rfl
  | created =>
    cases hlook : w.extractor.look src doc with
    | none =>
      left
      show (w.index.mergedOrFailed doc (w.extractor.look src doc)).1.handovers = _
      rw [hlook]
      rfl
    | some found =>
      refine Or.inr ⟨w.index, rfl, fun _ _ h => h, ?_⟩
      show (w.index.mergedOrFailed doc (w.extractor.look src doc)).1.handovers = _
      rw [hlook]
      rfl
  | changed =>
    refine Or.inr ⟨(w.index.retain doc ((w.extractor.look src doc).getD ∅)).1, rfl, ?_, rfl⟩
    intro s span hget
    rw [Index.get?_retain] at hget
    exact (Option.filter_eq_some_iff.1 hget).1

theorem followsOwner (w : Workspace) (src : Source) {owner doc : Path} (h : doc.key = owner.key) :
    w.FollowsOwner src owner doc := by
  have howned : Index.ownedBy owner = Index.ownedBy doc := by
    funext span
    rw [Index.ownedBy_eq, Index.ownedBy_eq, h]
  refine ⟨fun s => ?_, fun s => ?_, fun e he s => ?_, fun u handover hmem => ?_, fun hall u => ?_⟩
  · rw [howned]
    exact Index.get?_replaced w.index doc (w.extractor.look src doc) s
  · rw [howned]
    exact Index.get?_removed w.index doc s
  · rw [howned, ← he]
    exact w.get?_follow src e s
  · rw [howned]
    obtain hlog | ⟨i, hlog, -, hmerge⟩ := w.handovers_update src u doc
    · exact Or.inl (hlog ▸ hmem)
    · rw [hmerge] at hmem
      exact hlog ▸ Index.mem_handovers_foldl_placed hmem
  · rw [howned] at hall
    obtain hlog | ⟨i, hlog, hget, hmerge⟩ := w.handovers_update src u doc
    · exact hlog
    · have hsymbol : ∀ e ∈ i.arranged ((w.extractor.look src doc).getD ∅),
          w.extractor.declared? src doc e.1 = some e.2 := by
        intro e he
        replace he := (Ranking.arrange_perm _ _).mem_iff.1 he
        have hfound := (Table.get?_eq_some_iff _).2 he
        unfold Extractor.declared?
        cases hlook : w.extractor.look src doc with
        | none =>
          rw [hlook] at he
          exact absurd he List.not_mem_nil
        | some found =>
          rw [hlook] at hfound
          exact hfound
      rw [hmerge, ← hlog]
      refine Index.handovers_foldl_placed_of_owned (fun e he => ?_) (fun e he span hspan => ?_)
      · have hdoc := Extractor.document_of_declared? (hsymbol e he)
        rw [Index.ownedBy, hdoc, Path.same_self]
      · exact hall e.1 span (Extractor.mem_symbolsIn.2 ⟨e.2, hsymbol e he⟩) (hget e.1 span hspan)

end Workspace

namespace Session

/-- **Path spelling never matters.** Two runs of a session whose requests differ
only in the spelling of paths get the same replies, but for the spelling of the
documents in spans; and at the end they have the same entries and the same log of
handovers, with documents compared as paths. So it is whatever orders the merges
go through their symbols in, as long as both runs come upon the same ones; and
apart from the log it is so even where the orders differ. In every state an update
under another spelling of an owner's path replaces what the owner had and never
counts as a handover from it. -/
theorem serveAll_respelled (x : Extractor) (mode : CompletionMode) (limit : Nat)
    (rankings : Nat → Ranking) {requests requests' : List Request}
    (h : List.Forall₂ Request.Respelled requests requests') :
    ((start x mode limit rankings).serveAll requests).2.map (Reply.map Span.site)
        = ((start x mode limit rankings).serveAll requests').2.map (Reply.map Span.site)
      ∧ ((start x mode limit rankings).serveAll requests).1.workspace.index.sites
        = ((start x mode limit rankings).serveAll requests').1.workspace.index.sites
      ∧ ((start x mode limit rankings).serveAll requests).1.workspace.index.handovers.map
          Handover.sites
        = ((start x mode limit rankings).serveAll requests').1.workspace.index.handovers.map
          Handover.sites
      ∧ (∀ rankings',
        ((start x mode limit rankings).serveAll requests).2.map (Reply.map Span.site)
            = ((start x mode limit rankings').serveAll requests').2.map (Reply.map Span.site)
          ∧ ((start x mode limit rankings).serveAll requests).1.workspace.index.sites
            = ((start x mode limit rankings').serveAll requests').1.workspace.index.sites)
      ∧ ∀ (w : Workspace) (src : Source) (owner doc : Path), doc.key = owner.key →
        w.FollowsOwner src owner doc := by
  have hrun := fun rankings' => (alike_start x mode limit rankings rankings').serveAll h
  obtain ⟨halike, hreplies⟩ := hrun rankings
  exact ⟨hreplies, halike.workspace.index.sites, (halike.workspace.index.log rfl).handovers,
    fun rankings' => ⟨(hrun rankings').2, (hrun rankings').1.workspace.index.sites⟩,
    fun w src owner doc hdoc => w.followsOwner src hdoc⟩

/-- Two documents that share a symbol are followed in every way there is. -/
def spelledOnce : List Request :=
  [.insert ⟨"p/a.dec"⟩ "g.PcdA|1\ng.PcdB|1", .insert ⟨"p/b.dec"⟩ "g.PcdB|2", .build,
    .update .changed ⟨"p/a.dec"⟩,
    .overlap (fun k => k.length) [(.deleted, ⟨"p/b.dec"⟩), (.created, ⟨"p/b.dec"⟩)],
    .remove ⟨"p/b.dec"⟩, .process [⟨⟨"p/b.dec"⟩, .modified, 0⟩],
    .digest [⟨⟨"p/a.dec"⟩, .created, 2⟩, ⟨⟨"p/a.dec"⟩, .deleted, 1⟩], .definition "PcdA"]

/-- The same requests, with repeated slashes, dots and slashes at the end. -/
def spelledAnew : List Request :=
  [.insert ⟨"p//a.dec"⟩ "g.PcdA|1\ng.PcdB|1", .insert ⟨"p/b.dec/"⟩ "g.PcdB|2", .build,
    .update .changed ⟨"p/./a.dec"⟩,
    .overlap (fun k => k.length) [(.deleted, ⟨"p/b.dec/."⟩), (.created, ⟨"p///b.dec"⟩)],
    .remove ⟨"p/./b.dec"⟩, .process [⟨⟨"p/b.dec//"⟩, .modified, 0⟩],
    .digest [⟨⟨"p//a.dec/"⟩, .created, 2⟩, ⟨⟨"p/a.dec/./"⟩, .deleted, 1⟩], .definition "PcdA"]

theorem serveAll_respelled_anew :
    List.Forall₂ Request.Respelled spelledOnce spelledAnew
      ∧ ((start .ordinary default 4).serveAll (spelledOnce.take 7)).1.workspace.index.documents
        = [⟨"p/a.dec"⟩]
      ∧ ((start .ordinary default 4).serveAll (spelledAnew.take 7)).1.workspace.index.documents
        = [⟨"p/./a.dec"⟩]
      ∧ ((start .ordinary default 4).serveAll spelledOnce).2.map (Reply.map Span.site)
        = ((start .ordinary default 4).serveAll spelledAnew).2.map (Reply.map Span.site)
      ∧ ((start .ordinary default 4).serveAll spelledOnce).1.workspace.FollowsOwner
        ((start .ordinary default 4).serveAll spelledOnce).1.shelf.source ⟨"p/a.dec"⟩
          ⟨"p//a.dec"⟩ := by
  have hrequests : List.Forall₂ Request.Respelled spelledOnce spelledAnew :=
    .cons (.insert (by decide) _) <| .cons (.insert (by decide) _) <| .cons .build <|
    .cons (.update _ (by decide)) <| .cons (.overlap _ (by decide)) <|
    .cons (.remove (by decide)) <| .cons (.process (by decide)) <|
    .cons (.digest (by decide)) <| .cons (.definition _) .nil
  have hrun := serveAll_respelled .ordinary default 4 (fun _ => .ascending) hrequests
  exact ⟨hrequests, by decide +kernel, by decide +kernel, hrun.1, hrun.2.2.2.2 _ _ _ _ (by decide)⟩

end Session

end PcdCatalog

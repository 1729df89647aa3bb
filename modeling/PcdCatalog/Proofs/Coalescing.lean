import Mathlib.Data.List.Perm.Basic
import PcdCatalog.Proofs.BatchEffect
import PcdCatalog.Proofs.DiskLaws

/-!
# Coalescing keeps the meaning of events

Events are not followed as they come. Those of one path are first folded into
its net change, which drops what happened in between, and the changes then
come in the order of their last events, which may move documents past each
other. `processEach_coalesce` says that the index does not notice, as long as
no symbol is associated with two documents (`Extractor.Separate`; of documents
that have no events and own nothing this need not be so): following the
changes leaves the entries that following every event in its turn would leave.

One thing is lost, though. A net change is spelled as the first event about its
path, and it is under this spelling that the document is read. A source may
tell it from that of the last event, as a disk does if there is a slash behind
the name of a file, and then the entries differ (`coalesce_retouched`).

Where symbols are separate, the entry of a symbol is a matter of one document
and of the last event about it (`get?_process_of_only`): all that an event
does is to make the share of its document what the document declares now, or
nothing if it is deleted, and doing so twice is doing it once. So nothing
counts but whether the last event was a removal – and this much survives the
folding, though it is not associative (`kind_net`).

The fold is read one path at a time: what it holds for a path is the net of
the events about that path (`get?_foldl_fold`), and there is one change for
each (`filter_coalesce`).
-/

namespace PcdCatalog

/-! ## Net changes -/

/-- **Only the last of several changes decides whether a file is gone.** -/
theorem ChangeKind.andThen_eq_deleted_iff (a b : ChangeKind) :
    a.andThen b = .deleted ↔ b = .deleted := by
  cases a <;> cases b <;> simp [andThen]

namespace Event

/-- Events by their times, equal times in the order given. -/
def inTime (events : List Event) : List Event := events.mergeSort fun a b => a.time ≤ b.time

/-- Whether an event is about a document. -/
def concerns (k : Path.Key) (e : Event) : Bool := e.path.key = k

/-- The net change of events about one document. -/
def net : List Event → Option Event
  | [] => none
  | e :: rest => some (rest.foldl absorb e)

theorem net_concat (l : List Event) (e : Event) :
    net (l ++ [e]) = some (((net l).map (absorb · e)).getD e) := by
  cases l with
  | nil => rfl
  | cons a l =>
    show some ((l ++ [e]).foldl absorb a) = _
    rw [List.foldl_append]
    rfl

/-- Folding events into a change leaves its spelling. -/
theorem path_foldl_absorb (l : List Event) (e : Event) : (l.foldl absorb e).path = e.path := by
  induction l generalizing e with
  | nil => rfl
  | cons a l ih => exact ih (e.absorb a)

/-- A net change has the spelling of the first event. -/
theorem path_net {l : List Event} {c : Event} (h : net l = some c) :
    ∃ a, l.head? = some a ∧ c.path = a.path := by
  cases l with
  | nil => exact absurd h (by simp [net])
  | cons e l =>
    obtain rfl := Option.some.inj h
    exact ⟨e, rfl, path_foldl_absorb l e⟩

/-- **A net change is a removal exactly if the last event is.** -/
theorem kind_net {l : List Event} {e c : Event} (h : net (l ++ [e]) = some c) :
    c.kind = .deleted ↔ e.kind = .deleted := by
  rw [net_concat] at h
  obtain rfl := Option.some.inj h
  cases net l with
  | none => rfl
  | some a => exact ChangeKind.andThen_eq_deleted_iff a.kind e.kind

/-! ## One change per path -/

/-- One event changes what is held for its own path. -/
theorem get?_fold (t : Table Path.Key Event) (e : Event) (k : Path.Key) :
    (fold t e).get? k
      = if e.concerns k then some (((t.get? k).map (absorb · e)).getD e) else t.get? k := by
  have hput : fold t e = t.insert e.path.key (((t.get? e.path.key).map (absorb · e)).getD e) := by
    unfold fold
    cases t.get? e.path.key <;> rfl
  rw [hput, Table.get?_insert]
  by_cases hk : e.path.key = k
  · subst hk
    rw [if_pos Std.ReflCmp.compare_self, if_pos (by simp [concerns])]
  · rw [if_neg fun h => hk (Std.LawfulEqCmp.eq_of_compare h).symm,
      if_neg (by simpa [concerns] using hk)]

/-- **The fold holds, for each path, the net of the events about it.** -/
theorem get?_foldl_fold (l : List Event) (k : Path.Key) :
    (l.foldl fold ∅).get? k = net (l.filter (concerns k)) := by
  induction l using List.reverseRecOn with
  | nil => rfl
  | append_singleton l e ih =>
    rw [List.foldl_append, List.foldl_cons, List.foldl_nil, get?_fold, ih, List.filter_append]
    cases hk : e.concerns k with
    | true =>
      rw [if_pos rfl, List.filter_cons_of_pos hk, ← net_concat]
      rfl
    | false =>
      rw [if_neg (by simp), List.filter_cons_of_neg (by simp [hk])]
      exact congrArg net (List.append_nil _).symm

/-- What is held under a key is about that path. -/
theorem key_of_get?_foldl_fold {l : List Event} {k : Path.Key} {c : Event}
    (h : (l.foldl fold ∅).get? k = some c) : c.path.key = k := by
  rw [get?_foldl_fold] at h
  obtain ⟨e, he, hpath⟩ := path_net h
  rw [hpath]
  simpa [concerns] using (List.mem_filter.1 (List.mem_of_head? he)).2

/-- The fold holds one change about a path that has an event. -/
theorem filter_values_foldl_fold (l : List Event) (k : Path.Key) :
    (l.foldl fold ∅).values.filter (concerns k) = (net (l.filter (concerns k))).toList := by
  have hconcerns : ∀ e ∈ (l.foldl fold ∅).toList,
      (concerns k ∘ Prod.snd) e = (compare k e.1 == .eq) := by
    rintro ⟨k', c⟩ hmem
    have hkey := key_of_get?_foldl_fold ((Table.get?_eq_some_iff _).2 hmem)
    rw [Bool.eq_iff_iff, beq_iff_eq, Std.compare_eq_iff_eq]
    simp only [Function.comp_apply, concerns, hkey, decide_eq_true_eq]
    exact eq_comm
  rw [← get?_foldl_fold]
  unfold Table.values
  rw [List.filter_map, List.filter_congr hconcerns, Table.filter_eq_lookup k (Table.ascending _)]
  unfold Table.get?
  cases Table.lookup k (l.foldl fold ∅).toList <;> rfl

/-- **Of the changes one is about each path that has an event**, the net of its
events. -/
theorem filter_coalesce (events : List Event) (k : Path.Key) :
    (coalesce events).filter (concerns k)
      = (net ((inTime events).filter (concerns k))).toList := by
  have hperm : ((coalesce events).filter (concerns k)).Perm
      (net ((inTime events).filter (concerns k))).toList := by
    rw [← filter_values_foldl_fold]
    exact (List.mergeSort_perm _ _).filter _
  cases hnet : net ((inTime events).filter (concerns k)) with
  | none =>
    rw [hnet] at hperm
    exact hperm.eq_nil
  | some c =>
    rw [hnet] at hperm
    exact List.perm_singleton.1 hperm

/-- A change is spelled as one of the events. -/
theorem exists_path_of_mem_coalesce {events : List Event} {c : Event}
    (h : c ∈ coalesce events) : ∃ a ∈ events, c.path = a.path := by
  have hfilter : c ∈ (coalesce events).filter (concerns c.path.key) :=
    List.mem_filter.2 ⟨h, by simp [concerns]⟩
  rw [filter_coalesce, Option.mem_toList] at hfilter
  obtain ⟨a, ha, hpath⟩ := path_net hfilter
  exact ⟨a, List.mem_mergeSort.1 (List.mem_filter.1 (List.mem_of_head? ha)).1, hpath⟩

/-- The first event about a document. -/
def firstAbout? (k : Path.Key) (events : List Event) : Option Event :=
  (events.filter (concerns k)).head?

/-- The last event about a document. -/
def lastAbout? (k : Path.Key) (events : List Event) : Option Event :=
  (events.filter (concerns k)).getLast?

theorem mem_of_firstAbout? {k : Path.Key} {events : List Event} {e : Event}
    (h : firstAbout? k events = some e) : e ∈ events ∧ e.path.key = k := by
  obtain ⟨he, hk⟩ := List.mem_filter.1 (List.mem_of_head? h)
  exact ⟨he, of_decide_eq_true hk⟩

theorem mem_of_lastAbout? {k : Path.Key} {events : List Event} {e : Event}
    (h : lastAbout? k events = some e) : e ∈ events ∧ e.path.key = k := by
  obtain ⟨he, hk⟩ := List.mem_filter.1 (List.mem_of_getLast? h)
  exact ⟨he, of_decide_eq_true hk⟩

theorem lastAbout?_concat (k : Path.Key) (events : List Event) (e : Event) :
    lastAbout? k (events ++ [e]) = if e.concerns k then some e else lastAbout? k events := by
  unfold lastAbout?
  rw [List.filter_append]
  cases hk : e.concerns k with
  | true => rw [List.filter_cons_of_pos hk, List.filter_nil, List.getLast?_concat, if_pos rfl]
  | false =>
    rw [List.filter_cons_of_neg (by simp [hk]), List.filter_nil, List.append_nil, if_neg (by simp)]

/-- **The last event about a document and its change**: both are removals or
neither is, and the change is spelled as the first event. -/
theorem lastAbout?_coalesce (events : List Event) (k : Path.Key) :
    (lastAbout? k (coalesce events) = none ∧ lastAbout? k (inTime events) = none)
      ∨ ∃ c a e, lastAbout? k (coalesce events) = some c
        ∧ firstAbout? k (inTime events) = some a ∧ lastAbout? k (inTime events) = some e
        ∧ (c.kind = .deleted ↔ e.kind = .deleted) ∧ c.path = a.path
        ∧ a.path.key = k ∧ e.path.key = k := by
  unfold lastAbout? firstAbout?
  rw [filter_coalesce]
  rcases List.eq_nil_or_concat ((inTime events).filter (concerns k)) with hnil | ⟨l, e, hl⟩
  · rw [hnil]
    exact Or.inl ⟨rfl, rfl⟩
  · rw [List.concat_eq_append] at hl
    rw [hl]
    have hkey : ∀ a ∈ l ++ [e], a.path.key = k := by
      intro a ha
      rw [← hl] at ha
      simpa [concerns] using (List.mem_filter.1 ha).2
    obtain ⟨c, hc⟩ : ∃ c, net (l ++ [e]) = some c := ⟨_, net_concat l e⟩
    obtain ⟨a, ha, hpath⟩ := path_net hc
    rw [hc]
    exact Or.inr ⟨c, a, e, rfl, ha, List.getLast?_concat, kind_net hc, hpath,
      hkey a (List.mem_of_head? ha),
      hkey e (List.mem_append_right _ (List.mem_singleton_self e))⟩

end Event

/-! ## Separate symbols -/

namespace Extractor

/-- **A symbol is associated with a document** that declares it now, or that owns
it in the index. -/
def Associated (x : Extractor) (src : Source) (i : Index) (doc : Path) (s : String) : Prop :=
  (∃ span, x.declared? src doc s = some span)
    ∨ ∃ span, i.get? s = some span ∧ Index.ownedBy doc span = true

/-- The symbols that are associated with a document: those it declares now, and
those it owns in the index. -/
def symbolsOf (x : Extractor) (src : Source) (i : Index) (doc : Path) : List String :=
  x.symbolsIn src doc
    ++ (i.entries.filter fun n => Index.ownedBy doc n.span).map Entry.symbol

theorem mem_symbolsOf {x : Extractor} {src : Source} {i : Index} {doc : Path} {s : String} :
    s ∈ x.symbolsOf src i doc ↔ x.Associated src i doc s := by
  unfold symbolsOf
  rw [List.mem_append, mem_symbolsIn, List.mem_map]
  refine or_congr Iff.rfl ⟨?_, ?_⟩
  · rintro ⟨n, hn, rfl⟩
    obtain ⟨hn, hown⟩ := List.mem_filter.1 hn
    exact ⟨n.span, Index.mem_entries.1 hn, hown⟩
  · rintro ⟨span, hget, hown⟩
    exact ⟨⟨s, span⟩, List.mem_filter.2 ⟨Index.mem_entries.2 hget, hown⟩, rfl⟩

/-- **No symbol is associated with two of these documents.** -/
def SeparateAmong (x : Extractor) (src : Source) (i : Index) (docs : List Path) : Prop :=
  ∀ d ∈ docs, ∀ e ∈ docs, ∀ s, x.Associated src i d s → x.Associated src i e s → d.same e = true

instance (x : Extractor) (src : Source) (i : Index) (docs : List Path) :
    Decidable (x.SeparateAmong src i docs) :=
  decidable_of_iff (∀ d ∈ docs, ∀ e ∈ docs, ∀ s ∈ x.symbolsOf src i d,
    s ∈ x.symbolsOf src i e → d.same e = true)
    ⟨fun h d hd e he s hds hes => h d hd e he s (mem_symbolsOf.2 hds) (mem_symbolsOf.2 hes),
      fun h d hd e he s hds hes => h d hd e he s (mem_symbolsOf.1 hds) (mem_symbolsOf.1 hes)⟩

/-- Where documents are separate, each symbol is a matter of one of them. -/
theorem SeparateAmong.exists_only {x : Extractor} {src : Source} {i : Index} {docs : List Path}
    (h : x.SeparateAmong src i docs) (s : String) :
    ∃ doc : Path, ∀ d ∈ docs, x.Associated src i d s → d.same doc = true := by
  by_cases hs : ∃ doc ∈ docs, x.Associated src i doc s
  · obtain ⟨doc, hdoc, hs⟩ := hs
    exact ⟨doc, fun d hd hds => h d hd doc hdoc s hds hs⟩
  · exact ⟨default, fun d hd hds => absurd ⟨d, hd, hds⟩ hs⟩

theorem SeparateAmong.mono {x : Extractor} {src : Source} {i : Index} {docs docs' : List Path}
    (h : x.SeparateAmong src i docs) (hsub : docs' ⊆ docs) : x.SeparateAmong src i docs' :=
  fun d hd e he => h d (hsub hd) e (hsub he)

/-- **No symbol is associated with two documents**, whichever they are. -/
def Separate (x : Extractor) (src : Source) (i : Index) : Prop :=
  ∀ s d e, x.Associated src i d s → x.Associated src i e s → d.same e = true

theorem Separate.among {x : Extractor} {src : Source} {i : Index} (h : x.Separate src i)
    (docs : List Path) : x.SeparateAmong src i docs := fun d _ e _ s => h s d e

end Extractor

namespace Workspace

/-- **The last event about the document of a symbol decides its entry**, whatever
other events come before, between and after. -/
theorem get?_process_of_only (w : Workspace) (src : Source) {s : String} {k : Path.Key}
    {events : List Event} (hevents : ∀ e ∈ events, ∀ span,
      w.extractor.declared? src e.path s = some span → e.path.key = k)
    (howns : ∀ span, w.index.get? s = some span → span.document.key = k) :
    (w.process src events).1.index.get? s
      = match Event.lastAbout? k events with
        | none => w.index.get? s
        | some e => e.declared? w.extractor src s := by
  have hdeclared : ∀ e ∈ events, ∀ span, e.declared? w.extractor src s = some span →
      e.path.key = k := by
    intro e he span h
    unfold Event.declared? at h
    split at h
    · exact absurd h (by simp)
    · exact hevents e he span h
  induction events using List.reverseRecOn with
  | nil => rfl
  | append_singleton events e ih =>
    rw [List.forall_mem_append, List.forall_mem_singleton] at hevents hdeclared
    have ih := ih hevents.1 hdeclared.1
    -- so far the entry, if there is one, belongs to the document
    have howner : ∀ span, (w.process src events).1.index.get? s = some span →
        span.document.key = k := by
      intro span hspan
      rw [ih] at hspan
      split at hspan
      next => exact howns span hspan
      next e' hlast =>
        rw [Event.document_of_declared? hspan]
        exact hdeclared.1 e' (Event.mem_of_lastAbout? hlast).1 span hspan
    have hstep : (w.process src (events ++ [e])).1.index.get? s
        = (e.declared? w.extractor src s).or
            (((w.process src events).1.index.get? s).filter
              (fun span => !Index.ownedBy e.path span)) := by
      rw [process_concat, ← extractor_process w src events]
      exact get?_follow (w.process src events).1 src e s
    rw [hstep, Event.lastAbout?_concat]
    cases hk : e.concerns k with
    | true =>
      -- an event about the document replaces what it owned
      have hgone : ((w.process src events).1.index.get? s).filter
          (fun span => !Index.ownedBy e.path span) = none := by
        rw [Option.filter_eq_none_iff]
        intro span hspan
        have hkey : span.document.key = e.path.key :=
          (howner span hspan).trans (of_decide_eq_true hk).symm
        have hown : Index.ownedBy e.path span = true := Path.same_iff.2 hkey
        rw [hown]
        simp
      rw [hgone, Option.or_none, if_pos rfl]
    | false =>
      -- an event about another document does not touch it
      have hne : e.path.key ≠ k := of_decide_eq_false hk
      have hnone : e.declared? w.extractor src s = none :=
        Option.eq_none_iff_forall_ne_some.2 fun span h => hne (hdeclared.2 span h)
      have hkept : ((w.process src events).1.index.get? s).filter
          (fun span => !Index.ownedBy e.path span) = (w.process src events).1.index.get? s := by
        cases hspan : (w.process src events).1.index.get? s with
        | none => rfl
        | some span =>
          have hother : Index.ownedBy e.path span = false :=
            eq_false_of_ne_true fun h => hne ((Path.same_iff.1 h).symm.trans (howner span hspan))
          exact Option.filter_some_pos (by rw [hother]; rfl)
      rw [hnone, Option.none_or, hkept, ih, if_neg (by simp)]

/-- Following changes looks at their documents and at nothing else. -/
theorem process_congr (w : Workspace) {src src' : Source} {events : List Event}
    (h : ∀ e ∈ events, src.read e.path = src'.read e.path) :
    w.process src events = w.process src' events := by
  refine List.foldl_ext _ _ _ fun acc e he => ?_
  have hlook : ∀ x : Extractor, x.look src e.path = x.look src' e.path :=
    fun x => x.look_congr (congrArg Except.toOption (h e he))
  unfold followCounted
  rw [follow_eq, follow_eq]
  unfold Update.look
  simp only [hlook]

/-! ## Events one at a time -/

/-- **Follow events one at a time**, each in a batch of its own. -/
def processEach (w : Workspace) (src : Source) (events : List Event) : Workspace :=
  events.foldl (fun w e => (w.process src [e]).1) w

theorem processEach_eq (w : Workspace) (src : Source) (events : List Event) :
    w.processEach src events = (w.process src events).1 := by
  induction events using List.reverseRecOn with
  | nil => rfl
  | append_singleton events e ih =>
    unfold processEach at ih ⊢
    rw [List.foldl_append, List.foldl_cons, List.foldl_nil, ih, process_concat]
    rfl

/-- **The documents that matter to events**: those the events are about, and those that
own something. -/
def involved (w : Workspace) (events : List Event) : List Path :=
  events.map Event.path ++ w.index.entries.map fun n => n.span.document

/-- Where the documents that matter are separate, a symbol is a matter of one of them. -/
theorem exists_only_of_separate {w : Workspace} {src : Source} {events : List Event}
    (hsep : w.extractor.SeparateAmong src w.index (w.involved events)) (s : String) :
    ∃ k, (∀ e ∈ events, ∀ span, w.extractor.declared? src e.path s = some span → e.path.key = k)
      ∧ ∀ span, w.index.get? s = some span → span.document.key = k := by
  obtain ⟨doc, honly⟩ := hsep.exists_only s
  refine ⟨doc.key, fun e he span hspan => ?_, fun span hspan => ?_⟩
  · exact Path.same_iff.1 (honly e.path
      (List.mem_append_left _ (List.mem_map_of_mem he)) (Or.inl ⟨span, hspan⟩))
  · have hentry : (⟨s, span⟩ : Entry) ∈ w.index.entries := Index.mem_entries.2 hspan
    exact Path.same_iff.1 (honly span.document
      (List.mem_append_right _ (List.mem_map.2 ⟨_, hentry, rfl⟩))
      (Or.inr ⟨span, hspan, Path.same_self _⟩))

/-- **The change of a document says about each symbol what its last event says**,
if its first event says so too. -/
theorem get?_process_coalesce {α : Type} (f : Option Span → α) (w : Workspace) (src : Source)
    {events : List Event}
    (hsep : w.extractor.SeparateAmong src w.index (w.involved events))
    (halike : ∀ k a e, Event.firstAbout? k (Event.inTime events) = some a →
      Event.lastAbout? k (Event.inTime events) = some e → e.kind ≠ .deleted →
      a.path.key = e.path.key → ∀ s,
        f (w.extractor.declared? src a.path s) = f (w.extractor.declared? src e.path s))
    (s : String) :
    f ((w.process src (Event.coalesce events)).1.index.get? s)
      = f ((w.processEach src (Event.inTime events)).index.get? s) := by
  obtain ⟨k, hevents, howns⟩ := exists_only_of_separate hsep s
  have hinTime : ∀ e ∈ Event.inTime events, ∀ span,
      w.extractor.declared? src e.path s = some span → e.path.key = k :=
    fun e he => hevents e (List.mem_mergeSort.1 he)
  have hcoalesce : ∀ c ∈ Event.coalesce events, ∀ span,
      w.extractor.declared? src c.path s = some span → c.path.key = k := by
    intro c hc
    obtain ⟨a, ha, hpath⟩ := Event.exists_path_of_mem_coalesce hc
    exact hpath ▸ hevents a ha
  rw [processEach_eq, get?_process_of_only w src hcoalesce howns,
    get?_process_of_only w src hinTime howns]
  rcases Event.lastAbout?_coalesce events k with
    ⟨hc, he⟩ | ⟨c, a, e, hc, ha, he, hkind, hpath, hka, hke⟩
  · rw [hc, he]
  · rw [hc, he]
    show f (c.declared? w.extractor src s) = f (e.declared? w.extractor src s)
    unfold Event.declared?
    by_cases hd : e.kind = .deleted
    · rw [if_pos hd, if_pos (hkind.2 hd)]
    · rw [if_neg hd, if_neg fun h => hd (hkind.1 h), hpath]
      exact halike k a e ha he hd (hka.trans hke.symm) s

/-- **Coalescing keeps the meaning of events.** Where no symbol is associated with two of
the documents that matter, following the net changes of events leaves the entries that
following the events one at a time leaves, in the order of their times. A change is
spelled as the first event about its path, so this asks that the source reads the first
spelling like the last. Then the spelling of a document is all that may differ, and it
does not if the two are one. -/
theorem processEach_coalesce (w : Workspace) (src : Source) (events : List Event)
    (hsep : w.extractor.SeparateAmong src w.index (w.involved events)) :
    ((∀ k a e, Event.firstAbout? k (Event.inTime events) = some a →
        Event.lastAbout? k (Event.inTime events) = some e → e.kind ≠ .deleted →
        (src.read a.path).toOption = (src.read e.path).toOption) →
      (w.process src (Event.coalesce events)).1.index.sites
        = (w.processEach src (Event.inTime events)).index.sites)
    ∧ ((∀ k a e, Event.firstAbout? k (Event.inTime events) = some a →
        Event.lastAbout? k (Event.inTime events) = some e → e.kind ≠ .deleted →
        a.path = e.path) →
      (w.process src (Event.coalesce events)).1.index.table
        = (w.processEach src (Event.inTime events)).index.table) := by
  refine ⟨fun htext => Table.ext_get? fun s => ?_, fun hspelling => Table.ext_get? fun s => ?_⟩
  · rw [Index.get?_sites, Index.get?_sites]
    refine get?_process_coalesce (Option.map Span.site) w src hsep ?_ s
    intro k a e ha he hd hkey s
    exact w.extractor.site_declared?_of_text hkey (htext k a e ha he hd) s
  · refine get?_process_coalesce id w src hsep ?_ s
    intro k a e ha he hd _ s
    rw [hspelling k a e ha he hd]

/-- A document is deleted and made anew at one time, under two spellings, and
another one that cannot be read is reported in between. -/
def replacing : List Event :=
  [⟨⟨"a.dec"⟩, .modified, 1⟩, ⟨⟨"a.dec/"⟩, .created, 3⟩, ⟨⟨"b.dec"⟩, .modified, 2⟩,
    ⟨⟨"a.dec/"⟩, .deleted, 2⟩, ⟨⟨"a.dec/"⟩, .created, 2⟩]

/-- What the document said at first. -/
def aged : Source := ⟨[], fun _ => .ok "g.PcdOld|1"⟩

/-- What it says in the end; no other document can be read. -/
def remade : Source :=
  ⟨[], fun p => if p.same ⟨"a.dec"⟩ then .ok "g.PcdNew|1" else .error .missing⟩

theorem processEach_coalesce_replacing :
    let w := ((default : Workspace).created aged ⟨"a.dec"⟩).1
    w.extractor.SeparateAmong remade w.index (w.involved replacing)
      ∧ (w.process remade (Event.coalesce replacing)).1.index.sites
        = (w.processEach remade (Event.inTime replacing)).index.sites := by
  intro w
  have hsep : w.extractor.SeparateAmong remade w.index (w.involved replacing) := by
    decide +kernel
  have hread : ∀ p q : Path, p.key = q.key → remade.read p = remade.read q := by
    intro p q h
    show (if p.same ⟨"a.dec"⟩ then _ else _) = if q.same ⟨"a.dec"⟩ then _ else _
    rw [Path.same, Path.same, h]
  refine ⟨hsep, (processEach_coalesce w remade replacing hsep).1 fun k a e ha he _ => ?_⟩
  rw [hread a.path e.path
    ((Event.mem_of_firstAbout? ha).2.trans (Event.mem_of_lastAbout? he).2.symm)]

/-- A source that tells two spellings apart: with a slash behind it the name of a file
leads nowhere. -/
def slashed : Source :=
  ⟨[⟨"/a.dec"⟩], fun p => if p = ⟨"/a.dec"⟩ then .ok "g.PcdA|1"
    else .error (.refused "Not a directory (os error 20)")⟩

/-- A disk with the file. -/
def slashedDisk : Disk where
  nodes := { toList := [(["a.dec"], .file "g.PcdA|1".toUTF8)], ascending := by simp }

/-- Two events about the file, under both spellings. -/
def retouched : List Event := [⟨⟨"/a.dec/"⟩, .modified, 1⟩, ⟨⟨"/a.dec"⟩, .created, 2⟩]

/-- A disk tells them apart in this way. -/
theorem read_slashedDisk : ∀ e ∈ retouched,
    (Selection.source ⟨⟨"/"⟩, ["dec"], []⟩ slashedDisk []).read e.path = slashed.read e.path := by
  have hslash : slashedDisk.resolve [] ⟨"/a.dec/"⟩ = .error .notDirectory := by
    have hpieces : Disk.pieces "/a.dec/" = ["a.dec", "."] := by decide +kernel
    have hpath : ¬ "/a.dec/".utf8ByteSize ≥ Disk.pathLimit := by decide +kernel
    have hname : ¬ "a.dec".utf8ByteSize > Disk.nameLimit := by decide +kernel
    have hroot : slashedDisk.isDirectoryAt [] = true := rfl
    have hfile : slashedDisk.isDirectoryAt ["a.dec"] = false := rfl
    have hat : slashedDisk.at? ["a.dec"] = some (.file "g.PcdA|1".toUTF8) := rfl
    unfold Disk.resolve Disk.locate
    rw [if_neg (by decide), if_neg (by decide +kernel), if_neg hpath, if_pos (by decide),
      hpieces, Disk.pursue]
    simp [hroot, hname, hat, hfile, Disk.pursue]
  have hjoin : (⟨"/a.dec"⟩ : Path) = Path.join ⟨"/"⟩ ⟨"a.dec"⟩ := by decide +kernel
  simp only [retouched, List.forall_mem_cons]
  refine ⟨?_, ?_, fun e he => absurd he List.not_mem_nil⟩
  · unfold Selection.source Disk.readText
    dsimp only
    rw [hslash]
    rfl
  · rw [hjoin]
    exact Selection.read_source_of_root _ _ (by decide +kernel) rfl

/-- **Coalescing loses what a later spelling reads**, where the first one reads nothing. -/
theorem coalesce_retouched :
    let w := ((default : Workspace).build slashed).1
    let onDisk := Selection.source ⟨⟨"/"⟩, ["dec"], []⟩ slashedDisk []
    w.extractor.Separate slashed w.index
      ∧ (w.process slashed (Event.coalesce retouched)).1.index.symbols = []
      ∧ (w.processEach slashed (Event.inTime retouched)).index.symbols = ["PcdA"]
      ∧ (w.process onDisk (Event.coalesce retouched)).1.index.symbols = []
      ∧ (w.processEach onDisk (Event.inTime retouched)).index.symbols = ["PcdA"] := by
  intro w onDisk
  have howned : ∀ n ∈ w.index.entries, n.span.document = ⟨"/a.dec"⟩ := by decide +kernel
  have hdocument : ∀ doc s, w.extractor.Associated slashed w.index doc s →
      doc.key = (⟨"/a.dec"⟩ : Path).key := by
    rintro doc s (⟨span, hspan⟩ | ⟨span, hspan, hown⟩)
    · obtain ⟨text, hread, -⟩ := Extractor.declared?_eq_some_iff.1 hspan
      unfold slashed at hread
      simp only at hread
      split at hread
      next heq => rw [heq]
      next => exact absurd hread (by simp)
    · have hkey := Path.same_iff.1 hown
      rw [← hkey, howned ⟨s, span⟩ (Index.mem_entries.2 hspan)]
  have hinTime : Event.inTime retouched = retouched := List.mergeSort_of_pairwise (by decide)
  have hcoalesce : Event.coalesce retouched = [⟨⟨"/a.dec/"⟩, .modified, 2⟩] := by
    show ((Event.inTime retouched).foldl Event.fold ∅).values.mergeSort Event.before = _
    have hvalues : (retouched.foldl Event.fold ∅).values = [⟨⟨"/a.dec/"⟩, .modified, 2⟩] := by
      decide +kernel
    rw [hinTime, hvalues, List.mergeSort_singleton]
  have hlost : (w.process slashed (Event.coalesce retouched)).1.index.symbols = [] := by
    rw [hcoalesce]
    decide +kernel
  have hkept : (w.processEach slashed (Event.inTime retouched)).index.symbols = ["PcdA"] := by
    rw [hinTime]
    decide +kernel
  refine ⟨fun s d e hd he => ?_, hlost, hkept, ?_, ?_⟩
  · exact Path.same_iff.2 ((hdocument d s hd).trans (hdocument e s he).symm)
  · have hread : ∀ e ∈ Event.coalesce retouched, onDisk.read e.path = slashed.read e.path := by
      intro e he
      obtain ⟨a, ha, hpath⟩ := Event.exists_path_of_mem_coalesce he
      exact hpath ▸ read_slashedDisk a ha
    rw [w.process_congr hread, hlost]
  · have hread : ∀ e ∈ Event.inTime retouched, onDisk.read e.path = slashed.read e.path :=
      fun e he => read_slashedDisk e (List.mem_mergeSort.1 he)
    rw [processEach_eq, w.process_congr hread, ← processEach_eq, hkept]

end Workspace

end PcdCatalog

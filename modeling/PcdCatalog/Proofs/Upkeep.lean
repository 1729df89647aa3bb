import Mathlib.Data.List.Pairwise
import PcdCatalog.Proofs.BatchEffect

/-!
# Upkeep equals a rebuild

A workspace is built once and from then on follows its source one document at
a time: a document is put on the shelf, replaced or taken away, and one change
is reported for it. What the index then holds should not depend on that
history – it should be what building anew from the shelf as it stands would
give.

That holds as long as no two documents declare one symbol. The invariant that
carries it ties every entry to the text its owner has *now* (`Mirrors`): the
index answers a site for a symbol exactly when some document declares the
symbol there. A build establishes it, since it merges every document that can
be read; and a round keeps it, whatever the change is called, because a change
in closed form (`Workspace.get?_follow`) replaces the share of one document
and leaves the shares of the others, which the edit did not touch either.

Where two documents do declare one symbol there is nothing to prove: a build
lets the last one listed own it, upkeep the last one changed.
-/

namespace PcdCatalog

/-! ## What a build holds -/

namespace Workspace

/-- Reading documents one after the other puts what they declare in front, the
last one first. -/
theorem get?_foldl_absorb (x : Extractor) (src : Source) (docs : List Path)
    (acc : Index × UpdateCounts) (s : String) :
    (docs.foldl (absorb x src) acc).1.get? s
      = (docs.reverse.findSome? (fun doc => x.declared? src doc s)).or (acc.1.get? s) := by
  induction docs generalizing acc with
  | nil => rfl
  | cons doc docs ih =>
    have hone : (absorb x src acc doc).1.get? s = (x.declared? src doc s).or (acc.1.get? s) :=
      Index.get?_mergedOrFailed acc.1 doc (x.look src doc) s
    rw [List.foldl_cons, ih, hone, List.reverse_cons, List.findSome?_append, Option.or_assoc,
      List.findSome?_singleton]

/-- **A build lets the last document that declares a symbol own it.** -/
theorem get?_build (w : Workspace) (src : Source) (s : String) :
    (w.build src).1.index.get? s
      = (src.documents.reverse.findSome? (fun doc => w.extractor.declared? src doc s)).or
          (w.index.get? s) :=
  get?_foldl_absorb w.extractor src src.documents (w.index, {}) s

end Workspace

/-! ## The invariant -/

namespace Extractor

/-- **No two documents of a source declare one symbol.** -/
def Unshared (x : Extractor) (src : Source) : Prop :=
  src.documents.Pairwise (fun d e => ∀ s ∈ x.symbolsIn src d, s ∉ x.symbolsIn src e)

instance (x : Extractor) (src : Source) : Decidable (x.Unshared src) :=
  inferInstanceAs (Decidable (List.Pairwise _ _))

/-- **The index mirrors the source**: a symbol has an entry exactly where some
document declares it. -/
def Mirrors (x : Extractor) (src : Source) (i : Index) : Prop :=
  ∀ s site, (i.get? s).map Span.site = some site
    ↔ ∃ doc, (x.declared? src doc s).map Span.site = some site

/-- All indexes that mirror one source have the same entries. -/
theorem Mirrors.sites_eq {x : Extractor} {src : Source} {i j : Index} (hi : x.Mirrors src i)
    (hj : x.Mirrors src j) : i.sites = j.sites := by
  refine Table.ext_get? (fun s => Option.ext (fun site => ?_))
  rw [Index.get?_sites, Index.get?_sites, hi s site, hj s site]

/-- What a document on a shelf declares does not depend on its spelling. -/
theorem site_declared?_congr (x : Extractor) (s : Shelf) {doc doc' : Path}
    (h : doc.key = doc'.key) (symbol : String) :
    (x.declared? s.source doc symbol).map Span.site
      = (x.declared? s.source doc' symbol).map Span.site := by
  refine x.site_declared?_of_text h ?_ symbol
  rw [show s.source.read doc = s.source.read doc' from s.read_congr h]

/-- What a document declares has the key of that document in its site. -/
theorem key_of_site_declared? {x : Extractor} {src : Source} {doc : Path} {s : String}
    {site : Site} (h : (x.declared? src doc s).map Span.site = some site) :
    site.document = doc.key := by
  obtain ⟨span, hspan, rfl⟩ := Option.map_eq_some_iff.1 h
  exact congrArg Path.key (document_of_declared? hspan)

/-- A document that declares a symbol is listed, perhaps in another
spelling. -/
theorem exists_mem_documents {x : Extractor} {s : Shelf} (h : s.Tidy) {doc : Path}
    {symbol : String} {span : Span} (hd : x.declared? s.source doc symbol = some span) :
    ∃ doc' ∈ s.source.documents, doc'.key = doc.key := by
  obtain ⟨text, hr, -⟩ := declared?_eq_some_iff.1 hd
  obtain ⟨spelling, hg⟩ := h.read_eq_ok_iff.1 hr
  have hkey : spelling.key = doc.key := h.filed _ _ hg
  exact ⟨spelling, h.mem_documents.2 ⟨text, by rw [hkey]; exact hg⟩, hkey⟩

/-- Where no symbol is shared, documents that declare one symbol are the
same. -/
theorem Unshared.key_eq {x : Extractor} {s : Shelf} (hu : x.Unshared s.source) (h : s.Tidy)
    {d e : Path} {symbol : String} {site site' : Site}
    (hd : (x.declared? s.source d symbol).map Span.site = some site)
    (he : (x.declared? s.source e symbol).map Span.site = some site') : d.key = e.key := by
  obtain ⟨_, hdspan, -⟩ := Option.map_eq_some_iff.1 hd
  obtain ⟨_, hespan, -⟩ := Option.map_eq_some_iff.1 he
  obtain ⟨d', hd', hdk⟩ := exists_mem_documents h hdspan
  obtain ⟨e', he', hek⟩ := exists_mem_documents h hespan
  rw [← x.site_declared?_congr s hdk, Option.map_eq_some_iff] at hd
  rw [← x.site_declared?_congr s hek, Option.map_eq_some_iff] at he
  obtain ⟨dspan, hdspan, -⟩ := hd
  obtain ⟨espan, hespan, -⟩ := he
  have _ : Std.Symm (fun d e => ∀ t ∈ x.symbolsIn s.source d, t ∉ x.symbolsIn s.source e) :=
    ⟨fun a b hab t hb ha => hab t ha hb⟩
  by_cases heq : d' = e'
  · rw [← hdk, ← hek, heq]
  · exact absurd (mem_symbolsIn.2 ⟨espan, hespan⟩)
      (List.Pairwise.forall hu hd' he' heq symbol (mem_symbolsIn.2 ⟨dspan, hdspan⟩))

/-- **A build from nothing mirrors its source.** -/
theorem mirrors_build {x : Extractor} {s : Shelf} (h : s.Tidy) (hu : x.Unshared s.source)
    (mode : CompletionMode) (limit : Nat) (rankings : Nat → Ranking) :
    x.Mirrors s.source ((Workspace.empty x mode limit rankings).build s.source).1.index := by
  intro symbol site
  rw [Workspace.get?_build]
  show ((s.source.documents.reverse.findSome? (fun doc => x.declared? s.source doc symbol)).or
    none).map Span.site = some site ↔ _
  rw [Option.or_none]
  constructor
  · intro hsite
    obtain ⟨span, hfind, rfl⟩ := Option.map_eq_some_iff.1 hsite
    obtain ⟨doc, -, hd⟩ := List.exists_of_findSome?_eq_some hfind
    exact ⟨doc, by rw [hd]; rfl⟩
  · rintro ⟨doc, hd⟩
    obtain ⟨span, hspan, -⟩ := Option.map_eq_some_iff.1 hd
    obtain ⟨doc', hmem, hkey⟩ := exists_mem_documents h hspan
    cases hfind : s.source.documents.reverse.findSome?
        (fun doc => x.declared? s.source doc symbol) with
    | none =>
      have hnone := List.findSome?_eq_none_iff.1 hfind doc' (List.mem_reverse.2 hmem)
      rw [← x.site_declared?_congr s hkey, hnone] at hd
      exact absurd hd (by simp)
    | some found =>
      -- whichever document is found last, it is the one at hand
      obtain ⟨last, -, hlast⟩ := List.exists_of_findSome?_eq_some hfind
      have hlast' : (x.declared? s.source last symbol).map Span.site = some found.site := by
        rw [hlast]
        rfl
      rw [← hd, x.site_declared?_congr s (hu.key_eq h hd hlast'), hlast]

end Extractor

/-! ## Rounds -/

/-- **A round of upkeep**: a document gets a text or is taken away, and one
change is reported for it. -/
structure Round where
  doc : Path
  /-- The new text; none if the document is taken away. -/
  text : Option String
  change : Event
  /-- The change names the document, in whatever spelling. -/
  about : change.path.key = doc.key
  /-- Only a document that is not there is reported as deleted. -/
  gone : change.kind = .deleted → text = none

namespace Round

/-- The edit of a round. -/
def edit (r : Round) (s : Shelf) : Shelf :=
  match r.text with
  | some text => s.insert r.doc text
  | none => s.remove r.doc

/-- Edit the shelf, then follow the reported change. -/
def step (st : Workspace × Shelf) (r : Round) : Workspace × Shelf :=
  ((st.1.process (r.edit st.2).source [r.change]).1, r.edit st.2)

/-- The shelf after some rounds. -/
def shelf (s : Shelf) (rounds : List Round) : Shelf :=
  rounds.foldl (fun s r => r.edit s) s

/-- The workspace and its shelf after some rounds. -/
def run (st : Workspace × Shelf) (rounds : List Round) : Workspace × Shelf :=
  rounds.foldl step st

theorem tidy_edit (r : Round) {s : Shelf} (h : s.Tidy) : (r.edit s).Tidy := by
  unfold edit
  split
  · exact h.insert r.doc _
  · exact h.remove r.doc

theorem tidy_shelf (rounds : List Round) {s : Shelf} (h : s.Tidy) : (shelf s rounds).Tidy := by
  induction rounds generalizing s with
  | nil => exact h
  | cons r rounds ih => exact ih (r.tidy_edit h)

/-- An edit leaves the other documents alone. -/
theorem read_edit_of_ne (r : Round) (s : Shelf) {doc : Path} (h : doc.key ≠ r.doc.key) :
    (r.edit s).read doc = s.read doc := by
  unfold edit
  split
  · exact s.read_insert_of_ne _ h
  · exact s.read_remove_of_ne h

/-- What the other documents declare stays. -/
theorem declared?_edit_of_ne (r : Round) (x : Extractor) (s : Shelf) {doc : Path}
    (h : doc.key ≠ r.doc.key) (symbol : String) :
    x.declared? (r.edit s).source doc symbol = x.declared? s.source doc symbol := by
  unfold Extractor.declared? Extractor.look
  rw [show (r.edit s).source.read doc = s.source.read doc from r.read_edit_of_ne s h]

/-- If the edited document declares something, the reported change brings it
in. -/
theorem declared?_change (r : Round) (x : Extractor) {s : Shelf} (h : s.Tidy) {symbol : String}
    {span : Span} (hd : x.declared? (r.edit s).source r.change.path symbol = some span) :
    r.change.declared? x (r.edit s).source symbol = some span := by
  have hkind : r.change.kind ≠ .deleted := by
    intro hk
    obtain ⟨text, hr, -⟩ := Extractor.declared?_eq_some_iff.1 hd
    have hr : (r.edit s).read r.change.path = .ok text := hr
    unfold edit at hr
    rw [r.gone hk] at hr
    exact h.read_remove_self r.about hr
  unfold Event.declared?
  rw [if_neg hkind, hd]

/-- **A round keeps the mirror.** -/
theorem mirrors_step (r : Round) {w : Workspace} {s : Shelf} (h : s.Tidy)
    (hu : w.extractor.Unshared (r.edit s).source)
    (hm : w.extractor.Mirrors s.source w.index) :
    w.extractor.Mirrors (r.edit s).source (step (w, s) r).1.index := by
  intro symbol site
  have hstep : (step (w, s) r).1.index.get? symbol
      = (r.change.declared? w.extractor (r.edit s).source symbol).or
          ((w.index.get? symbol).filter (fun span => !Index.ownedBy r.change.path span)) :=
    w.get?_follow (r.edit s).source r.change symbol
  have htidy := r.tidy_edit h
  rw [hstep]
  constructor
  · intro hsite
    obtain ⟨span, hor, rfl⟩ := Option.map_eq_some_iff.1 hsite
    rcases Option.or_eq_some_iff.1 hor with hnew | ⟨-, hold⟩
    · -- the entry is what the change brought in
      unfold Event.declared? at hnew
      split at hnew
      · exact absurd hnew (by simp)
      · exact ⟨r.change.path, by rw [hnew]; rfl⟩
    · -- the entry is an old one, and its owner was not edited
      obtain ⟨hget, hother⟩ := Option.filter_eq_some_iff.1 hold
      obtain ⟨doc, hd⟩ := (hm symbol span.site).1 (by rw [hget]; rfl)
      have hkey : span.document.key = doc.key := Extractor.key_of_site_declared? hd
      have hne : doc.key ≠ r.doc.key := by
        intro heq
        rw [← r.about, ← hkey] at heq
        exact absurd (Path.same_iff.2 heq) (by simpa [Index.ownedBy] using hother)
      exact ⟨doc, by rw [r.declared?_edit_of_ne w.extractor s hne]; exact hd⟩
  · rintro ⟨doc, hd⟩
    by_cases hkey : doc.key = r.change.path.key
    · -- the edited document itself
      rw [w.extractor.site_declared?_congr _ hkey] at hd
      obtain ⟨span, hspan, rfl⟩ := Option.map_eq_some_iff.1 hd
      rw [r.declared?_change w.extractor h hspan]
      rfl
    · -- another document, which declared the same before
      have hne : doc.key ≠ r.doc.key := by rwa [← r.about]
      have hnone : r.change.declared? w.extractor (r.edit s).source symbol = none := by
        unfold Event.declared?
        split
        · rfl
        · rw [Option.eq_none_iff_forall_ne_some]
          intro span hspan
          have hsite : (w.extractor.declared? (r.edit s).source r.change.path symbol).map Span.site
              = some span.site := by
            rw [hspan]
            rfl
          exact hkey (hu.key_eq htidy hd hsite)
      have hdoc := Extractor.key_of_site_declared? hd
      rw [r.declared?_edit_of_ne w.extractor s hne] at hd
      obtain ⟨span, hspan, rfl⟩ := Option.map_eq_some_iff.1 ((hm symbol site).2 ⟨doc, hd⟩)
      have hother : Index.ownedBy r.change.path span = false := by
        refine eq_false_of_ne_true (fun ho => hkey ?_)
        exact hdoc.symm.trans (Path.same_iff.1 ho)
      rw [hnone, hspan, Option.none_or, Option.filter_some_pos (by rw [hother]; rfl)]
      rfl

/-- **Rounds keep the mirror**, as long as no symbol is shared after any of
them. -/
theorem mirrors_run (rounds : List Round) {w : Workspace} {s : Shelf} (h : s.Tidy)
    (hu : ∀ n ≤ rounds.length, w.extractor.Unshared (shelf s (rounds.take n)).source)
    (hm : w.extractor.Mirrors s.source w.index) :
    w.extractor.Mirrors (shelf s rounds).source (run (w, s) rounds).1.index := by
  induction rounds generalizing w s with
  | nil => exact hm
  | cons r rounds ih =>
    have hfirst : w.extractor.Unshared (r.edit s).source := hu 1 (by simp)
    refine ih (w := (step (w, s) r).1) (r.tidy_edit h) (fun n hn => ?_)
      (r.mirrors_step h hfirst hm)
    exact hu (n + 1) (by simpa using hn)

/-- **Upkeep equals a rebuild.** A workspace that was built once from documents
in memory and then followed them through any rounds has, after each round, the
entries that a new workspace built from the documents as they are then would
have – provided that no two documents ever declare one symbol. -/
theorem sites_run_eq_build (x : Extractor) (mode mode' : CompletionMode) (limit limit' : Nat)
    (rankings rankings' : Nat → Ranking) (docs : List (Path × String)) (rounds : List Round)
    (h : ∀ n ≤ rounds.length, x.Unshared (shelf (Shelf.ofList docs) (rounds.take n)).source) :
    ∀ n ≤ rounds.length,
      (run (((Workspace.empty x mode limit rankings).build (Shelf.ofList docs).source).1,
          Shelf.ofList docs) (rounds.take n)).1.index.sites
        = ((Workspace.empty x mode' limit' rankings').build
            (shelf (Shelf.ofList docs) (rounds.take n)).source).1.index.sites := by
  intro n hn
  have htidy := Shelf.tidy_ofList docs
  have hstart : x.Mirrors (Shelf.ofList docs).source
      ((Workspace.empty x mode limit rankings).build (Shelf.ofList docs).source).1.index :=
    Extractor.mirrors_build htidy (h 0 (Nat.zero_le _)) mode limit rankings
  have hrun := mirrors_run (rounds.take n)
    (w := ((Workspace.empty x mode limit rankings).build (Shelf.ofList docs).source).1) htidy
    (fun m hm => by
      have hle : m ≤ n ∧ m ≤ rounds.length := by
        rw [List.length_take] at hm
        omega
      rw [List.take_take, Nat.min_eq_left hle.1]
      exact h m hle.2)
    hstart
  exact hrun.sites_eq (Extractor.mirrors_build (tidy_shelf _ htidy) (h n hn) mode' limit' rankings')

/-- A symbol moves from one document to another, and its old document goes away
under another spelling and as a creation. -/
def moving : List Round :=
  [⟨⟨"a.dec"⟩, some "g.PcdB|1", ⟨⟨"a.dec"⟩, .modified, 0⟩, rfl, by simp⟩,
    ⟨⟨"b.dec"⟩, some "g.PcdA|1", ⟨⟨"b.dec"⟩, .created, 1⟩, rfl, by simp⟩,
    ⟨⟨"a.dec"⟩, none, ⟨⟨"a.dec/"⟩, .created, 2⟩, by decide, by simp⟩]

theorem sites_run_eq_build_moving :
    (∀ n ≤ moving.length, Extractor.ordinary.Unshared
        (shelf (Shelf.ofList [(⟨"a.dec"⟩, "g.PcdA|1")]) (moving.take n)).source)
      ∧ ∀ n ≤ moving.length,
        (run (((Workspace.empty .ordinary default 0).build
            (Shelf.ofList [(⟨"a.dec"⟩, "g.PcdA|1")]).source).1,
          Shelf.ofList [(⟨"a.dec"⟩, "g.PcdA|1")]) (moving.take n)).1.index.sites
        = ((Workspace.empty .ordinary default 0).build
            (shelf (Shelf.ofList [(⟨"a.dec"⟩, "g.PcdA|1")]) (moving.take n)).source).1.index.sites :=
  have h : ∀ n ≤ moving.length, Extractor.ordinary.Unshared
      (shelf (Shelf.ofList [(⟨"a.dec"⟩, "g.PcdA|1")]) (moving.take n)).source := by
    decide +kernel
  ⟨h, sites_run_eq_build .ordinary default default 0 0 (fun _ => .ascending) (fun _ => .ascending) _
    moving h⟩

end Round

end PcdCatalog

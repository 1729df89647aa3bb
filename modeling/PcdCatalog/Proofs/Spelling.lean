import PcdCatalog.Change
import PcdCatalog.Overlap
import PcdCatalog.Proofs.IndexLaws
import PcdCatalog.Proofs.SourceLaws

/-!
# What does not depend on how paths are spelled

A path is a key and a spelling, and wherever a document is looked up, compared
or sorted it is the key that should count. This module goes through all that a
workspace does and says for each part that two of its inputs that differ in
spelling only give results that differ in spelling only: merging, purging and
removing (`Index.Alike`), the folding of events (`Event.map_fact_coalesce`), the
locks and the order in which overlapping updates act (`Schedule.Alike`).

What is left of a thing when its spelling is taken away is a value of its own –
the `Site` of a span, `Event.fact`, `Reading.fact` – and "alike" always means that
these values are equal. Lists are alike if what is left of them is, element by
element, so a fold over two lists that are alike goes on in step
(`foldl_in_step`).
-/

namespace PcdCatalog

/-- **Two folds in step**: what one element of each list keeps, the lists keep. -/
theorem foldl_in_step {α β γ σ τ : Type} {R : σ → τ → Prop} {f : σ → α → σ} {g : τ → β → τ}
    {p : α → γ} {q : β → γ} (hstep : ∀ s t a b, R s t → p a = q b → R (f s a) (g t b))
    {l : List α} {m : List β} (h : l.map p = m.map q) {s : σ} {t : τ} (hst : R s t) :
    R (l.foldl f s) (m.foldl g t) := by
  induction l generalizing m s t with
  | nil =>
    obtain rfl := List.map_eq_nil_iff.1 h.symm
    exact hst
  | cons a l ih =>
    cases m with
    | nil => exact absurd h (by simp)
    | cons b m =>
      obtain ⟨hab, hlm⟩ := List.cons.inj h
      exact ih hlm (hstep s t a b hst hab)

/-! ## Indexes -/

/-- What is left of declarations without the spelling of their document. -/
def Declarations.sites (found : Declarations) : Table String Site := found.map fun _ => Span.site

/-- What is left of a handover: the symbol, and the sites that it went from and
to. -/
def Handover.sites (h : Handover) : String × Site × Site :=
  (h.symbol, h.previous.site, h.replacement.site)

/-- Who owns a span can be told from its site. -/
theorem Index.ownedBy_eq (doc : Path) (span : Span) :
    Index.ownedBy doc span = (span.site.document == doc.key) := rfl

namespace Index

/-- **Logs that differ in spelling only**, and will as long as the merges to come
go through their symbols in the same orders. -/
structure SameLog (i j : Index) : Prop where
  handovers : i.handovers.map Handover.sites = j.handovers.map Handover.sites
  limit : i.limit = j.limit
  rankings : i.rankings = j.rankings

/-- **Indexes that differ in spelling only.** If merges go through their symbols in
the same orders, which is what `ordered` says, then so do their logs. -/
structure Alike (ordered : Prop) (i j : Index) : Prop where
  sites : i.sites = j.sites
  log : ordered → i.SameLog j

namespace Alike

variable {ordered : Prop} {i j : Index} {doc doc' : Path}

theorem refl (i : Index) : i.Alike ordered i := ⟨rfl, fun _ => ⟨rfl, rfl, rfl⟩⟩

theorem site_get? (h : i.Alike ordered j) (s : String) :
    (i.get? s).map Span.site = (j.get? s).map Span.site := by
  rw [← get?_sites, ← get?_sites, h.sites]

theorem contains (h : i.Alike ordered j) (s : String) : i.table.contains s = j.table.contains s := by
  rw [← Table.contains_map (fun _ => Span.site), ← Table.contains_map (fun _ => Span.site) j.table]
  exact congrArg (Table.contains · s) h.sites

theorem symbols (h : i.Alike ordered j) : i.symbols = j.symbols := by
  unfold Index.symbols
  rw [← Table.keys_map (fun _ => Span.site), ← Table.keys_map (fun _ => Span.site) j.table]
  exact congrArg Table.keys h.sites

theorem size (h : i.Alike ordered j) : i.table.size = j.table.size := by
  rw [← Table.size_map (fun _ => Span.site), ← Table.size_map (fun _ => Span.site) j.table]
  exact congrArg Table.size h.sites

/-- The same document owns something in both. -/
theorem owns (h : i.Alike ordered j) (hdoc : doc.key = doc'.key) : i.owns doc = j.owns doc' := by
  have hvalues : ∀ (i : Index) (doc : Path),
      i.owns doc = i.sites.values.any (·.document == doc.key) := by
    intro i doc
    simp [Index.owns, Index.sites, Table.values, Table.map, ownedBy_eq, Function.comp_def]
  rw [hvalues, hvalues, h.sites, hdoc]

/-! ### Merging -/

/-- Placing a declaration causes the same handover. -/
theorem handover? (h : i.Alike ordered j) (hdoc : doc.key = doc'.key) (s : String) {span span' : Span}
    (hspan : span.site = span'.site) :
    (i.handover? doc s span).map Handover.sites = (j.handover? doc' s span').map Handover.sites := by
  have hget : (i.table.get? s).map Span.site = (j.table.get? s).map Span.site := h.site_get? s
  unfold Index.handover?
  cases hi : i.table.get? s with
  | none =>
    rw [hi] at hget
    rw [Option.map_eq_none_iff.1 hget.symm]
  | some previous =>
    rw [hi] at hget
    obtain ⟨previous', hj, hsite⟩ := Option.map_eq_some_iff.1 hget.symm
    have hsame : previous.document.same doc = previous'.document.same doc' := by
      show (previous.site.document == doc.key) = (previous'.site.document == doc'.key)
      rw [hsite, hdoc]
    simp only [hj, hsame]
    split
    · rfl
    · simp [Handover.sites, hsite, hspan]

/-- A note keeps logs alike. -/
theorem map_note (limit : Nat) {log log' : List Handover} {h h' : Handover}
    (hlog : log.map Handover.sites = log'.map Handover.sites) (hh : h.sites = h'.sites) :
    (note limit log h).map Handover.sites = (note limit log' h').map Handover.sites := by
  have hlength : log.length = log'.length := by
    simpa using congrArg List.length hlog
  unfold note
  rw [hlength]
  split
  · exact hlog
  · split <;> simp only [List.map_append, List.map_drop, hlog, List.map_cons, List.map_nil, hh]

/-- Placing a declaration keeps indexes alike. -/
theorem put (h : i.Alike ordered j) (hdoc : doc.key = doc'.key) (s : String) {span span' : Span}
    (hspan : span.site = span'.site) : (i.put doc s span).Alike ordered (j.put doc' s span') where
  sites := by
    show (i.table.insert s span).map _ = (j.table.insert s span').map _
    rw [Table.map_insert, Table.map_insert, hspan]
    exact congrArg (Table.insert · s span'.site) h.sites
  log hordered := by
    obtain ⟨hhandovers, hlimit, hrankings⟩ := h.log hordered
    refine ⟨?_, hlimit, hrankings⟩
    have hnote := h.handover? hdoc s hspan
    unfold Index.put
    cases hi : i.handover? doc s span with
    | none =>
      rw [hi] at hnote
      rw [Option.map_eq_none_iff.1 hnote.symm]
      exact hhandovers
    | some handover =>
      rw [hi] at hnote
      obtain ⟨handover', hj, hsites⟩ := Option.map_eq_some_iff.1 hnote.symm
      rw [hj]
      show (note i.limit _ _).map _ = (note j.limit _ _).map _
      rw [hlimit]
      exact map_note j.limit hhandovers hsites.symm

theorem advance (h : i.Alike ordered j) : i.advance.Alike ordered j.advance where
  sites := h.sites
  log hordered := by
    obtain ⟨hhandovers, hlimit, hrankings⟩ := h.log hordered
    exact ⟨hhandovers, hlimit, congrArg (fun rankings n => rankings (n + 1)) hrankings⟩

/-- Placing what is declared at the same sites keeps indexes alike, and counts the
same. -/
theorem mergeList (h : i.Alike ordered j) (hdoc : doc.key = doc'.key)
    {l l' : List (String × Span)}
    (hl : l.map (fun e => (e.1, e.2.site)) = l'.map fun e => (e.1, e.2.site)) :
    (i.mergeList doc l).1.Alike ordered (j.mergeList doc' l').1
      ∧ (i.mergeList doc l).2 = (j.mergeList doc' l').2 := by
  refine foldl_in_step (R := fun r r' : Index × MergeCounts => r.1.Alike ordered r'.1 ∧ r.2 = r'.2)
    (fun r r' e e' hr he => ?_) hl ⟨h, rfl⟩
  obtain ⟨hsymbol, hsite⟩ := Prod.mk.inj he
  show (r.1.put doc e.1 e.2).Alike ordered (r'.1.put doc' e'.1 e'.2) ∧ _
  unfold placed
  rw [← hsymbol, hr.1.contains e.1, hr.2]
  exact ⟨hr.1.put hdoc e.1 hsite, rfl⟩

/-- What is declared at the same sites is arranged alike. -/
theorem sites_arrange (r : Ranking) {found found' : Declarations}
    (hfound : found.sites = found'.sites) :
    (r.arrange found).map (fun e => (e.1, e.2.site))
      = (r.arrange found').map fun e => (e.1, e.2.site) := by
  have hsites : ∀ found : Declarations, (r.arrange found).map (fun e => (e.1, e.2.site))
      = found.sites.toList.insertionSort fun a b => r a.1 ≤ r b.1 := by
    intro found
    rw [r.arrange_eq]
    exact List.map_insertionSort _ _ _ _ fun _ _ _ _ => Iff.rfl
  rw [hsites, hsites, hfound]

/-- **Merging keeps indexes alike, and counts the same**, in whatever orders the two
merges go through their symbols. -/
theorem merge (h : i.Alike ordered j) (hdoc : doc.key = doc'.key) {found found' : Declarations}
    (hfound : found.sites = found'.sites) :
    (i.merge doc found).1.Alike ordered (j.merge doc' found').1
      ∧ (i.merge doc found).2 = (j.merge doc' found').2 := by
  -- The order shows in the log only, so for the rest both go by the order of the table.
  obtain ⟨hplain, hcounts⟩ := h.advance.mergeList hdoc (congrArg Table.toList hfound)
  have htable : ∀ (i : Index) (doc : Path) (found : Declarations),
      (i.merge doc found).1.table = (i.advance.mergeList doc found.toList).1.table
        ∧ (i.merge doc found).2 = (i.advance.mergeList doc found.toList).2 := fun i doc found =>
    have hperm := Ranking.arrange_perm (i.rankings 0) found
    have hkeys := Ranking.nodup_symbols_arrange (i.rankings 0) found
    ⟨i.advance.table_mergeList_perm doc hperm hkeys, i.advance.counts_mergeList_perm doc hperm hkeys⟩
  refine ⟨⟨?_, fun hordered => ?_⟩, ?_⟩
  · unfold Index.sites
    rw [(htable i doc found).1, (htable j doc' found').1]
    exact hplain.sites
  · have harranged : (i.arranged found).map (fun e => (e.1, e.2.site))
        = (j.arranged found').map fun e => (e.1, e.2.site) := by
      unfold Index.arranged
      rw [(h.log hordered).rankings]
      exact sites_arrange (j.rankings 0) hfound
    exact (h.advance.mergeList hdoc harranged).1.log hordered
  · rw [(htable i doc found).2, (htable j doc' found').2]
    exact hcounts

/-! ### Dropping -/

/-- Dropping entries by what is left of them keeps indexes alike. -/
theorem filter (h : i.Alike ordered j) {p p' : String → Span → Bool} (q : String → Site → Bool)
    (hp : p = fun s span => q s span.site) (hp' : p' = fun s span => q s span.site) :
    Alike ordered { i with table := i.table.filter p } { j with table := j.table.filter p' }
      ∧ i.table.size - (i.table.filter p).size = j.table.size - (j.table.filter p').size := by
  subst hp hp'
  have halike : Alike ordered { i with table := i.table.filter fun s span => q s span.site }
      { j with table := j.table.filter fun s span => q s span.site } := by
    refine ⟨?_, fun hordered => ⟨(h.log hordered).handovers, (h.log hordered).limit,
      (h.log hordered).rankings⟩⟩
    unfold Index.sites
    rw [Table.map_filter, Table.map_filter]
    exact congrArg (Table.filter q) h.sites
  refine ⟨halike, ?_⟩
  rw [h.size]
  exact congrArg (j.table.size - ·) halike.size

/-- **Purging a document keeps indexes alike, and counts the same.** -/
theorem retain (h : i.Alike ordered j) (hdoc : doc.key = doc'.key) {keep keep' : Declarations}
    (hkeep : keep.sites = keep'.sites) :
    (i.retain doc keep).1.Alike ordered (j.retain doc' keep').1
      ∧ (i.retain doc keep).2 = (j.retain doc' keep').2 := by
  have hcontains : ∀ s, keep'.contains s = keep.contains s := by
    intro s
    rw [← Table.contains_map (fun _ => Span.site), ← Table.contains_map (fun _ => Span.site) keep]
    exact congrArg (Table.contains · s) hkeep.symm
  refine h.filter (fun s site => !(site.document == doc.key) || keep.contains s) rfl ?_
  funext s span
  rw [ownedBy_eq, hdoc, hcontains]

/-- **Removing a document keeps indexes alike, and counts the same.** -/
theorem remove (h : i.Alike ordered j) (hdoc : doc.key = doc'.key) :
    (i.remove doc).1.Alike ordered (j.remove doc').1 ∧ (i.remove doc).2 = (j.remove doc').2 := by
  refine h.filter (fun _ site => !(site.document == doc.key)) rfl ?_
  funext s span
  rw [ownedBy_eq, hdoc]

theorem clear (h : i.Alike ordered j) : i.clear.Alike ordered j.clear where
  sites := rfl
  log hordered := ⟨rfl, (h.log hordered).limit, (h.log hordered).rankings⟩

/-! ### Updates -/

/-- **An update keeps indexes alike, and counts the same.** -/
theorem apply (h : i.Alike ordered j) (hdoc : doc.key = doc'.key) (u : Update) {found found' : Found}
    (hfound : found.map Declarations.sites = found'.map Declarations.sites) :
    (u.apply doc found i).1.Alike ordered (u.apply doc' found' j).1
      ∧ (u.apply doc found i).2 = (u.apply doc' found' j).2 := by
  have hnone : found.isNone = found'.isNone := by
    simpa using congrArg Option.isNone hfound
  have hgetD : (found.getD ∅).sites = (found'.getD ∅).sites := by
    have hempty : ∀ found : Found, (found.getD ∅).sites = (found.map Declarations.sites).getD ∅ := by
      rintro (_ | found) <;> rfl
    rw [hempty, hempty, hfound]
  cases u with
  | created =>
    cases found with
    | none =>
      obtain rfl := Option.map_eq_none_iff.1 hfound.symm
      exact ⟨h, rfl⟩
    | some found =>
      obtain ⟨found', rfl, hsites⟩ := Option.map_eq_some_iff.1 hfound.symm
      obtain ⟨halike, hcounts⟩ := h.merge hdoc hsites.symm
      exact ⟨halike, congrArg (fun n : MergeCounts =>
        ({ documents := 1, added := n.added, updated := n.replaced } : UpdateCounts)) hcounts⟩
  | changed =>
    obtain ⟨hkept, hremoved⟩ := h.retain hdoc hgetD
    obtain ⟨halike, hcounts⟩ := hkept.merge hdoc hgetD
    have hnumbers : ∀ (i : Index) (doc : Path) (found : Found),
        (Update.changed.apply doc found i).2
          = let kept := i.retain doc (found.getD ∅)
            let n := (kept.1.merge doc (found.getD ∅)).2
            ⟨1, n.added, n.replaced, kept.2, if found.isNone then 1 else 0⟩ := fun _ _ _ => rfl
    refine ⟨halike, ?_⟩
    simp only [hnumbers, hcounts, hremoved, hnone]
  | deleted =>
    obtain ⟨halike, hremoved⟩ := h.remove hdoc
    exact ⟨halike, congrArg (fun n => ({ documents := 1, removed := n } : UpdateCounts)) hremoved⟩

end Alike

end Index

/-! ## Sources and workspaces -/

/-- **Sources that differ in spelling only**: they list the same documents, and
each of these reads the same. -/
structure Source.Alike (src src' : Source) : Prop where
  documents : src.documents.map Path.key = src'.documents.map Path.key
  read : ∀ doc doc', doc.key = doc'.key → src.read doc = src'.read doc'

/-- What a document declares is alike in both. -/
theorem Source.Alike.look {src src' : Source} (h : src.Alike src') (x : Extractor) {doc doc' : Path}
    (hdoc : doc.key = doc'.key) :
    (x.look src doc).map Declarations.sites = (x.look src' doc').map Declarations.sites := by
  have hextract : ∀ text, (x.extract doc text).sites = (x.extract doc' text).sites := by
    intro text
    refine Table.ext_get? fun s => ?_
    unfold Declarations.sites
    rw [Table.get?_map, Table.get?_map]
    exact (x.site_extract_congr hdoc text s).symm
  rw [Extractor.look_eq_map, Extractor.look_eq_map, h.read doc doc' hdoc, Option.map_map,
    Option.map_map]
  exact congrArg (fun f => Option.map f _) (funext hextract)

/-- What an update finds is alike in both. -/
theorem Source.Alike.look_update {src src' : Source} (h : src.Alike src') (x : Extractor)
    (u : Update) {doc doc' : Path} (hdoc : doc.key = doc'.key) :
    (u.look x src doc).map Declarations.sites = (u.look x src' doc').map Declarations.sites := by
  cases u with
  | created => exact h.look x hdoc
  | changed => exact h.look x hdoc
  | deleted => rfl

/-- **Workspaces that differ in spelling only.** -/
structure Workspace.Alike ordered (w v : Workspace) : Prop where
  extractor : w.extractor = v.extractor
  mode : w.mode = v.mode
  index : w.index.Alike ordered v.index

namespace Workspace.Alike

variable {ordered : Prop} {w v : Workspace} {src src' : Source} {doc doc' : Path}

/-- **A build keeps workspaces alike, and counts the same.** -/
theorem build (h : w.Alike ordered v) (hsrc : src.Alike src') :
    (w.build src).1.Alike ordered (v.build src').1 ∧ (w.build src).2 = (v.build src').2 := by
  obtain ⟨hindex, hcounts⟩ := foldl_in_step
    (R := fun r r' : Index × UpdateCounts => r.1.Alike ordered r'.1 ∧ r.2 = r'.2)
    (f := absorb w.extractor src) (g := absorb v.extractor src') (fun r r' doc doc' hr hdoc => by
      obtain ⟨hindex, hcounts⟩ := hr.1.apply hdoc .created (hsrc.look w.extractor hdoc)
      rw [← h.extractor]
      refine ⟨hindex, ?_⟩
      show r.2 + _ = r'.2 + _
      rw [hr.2]
      exact congrArg (r'.2 + ·) hcounts) hsrc.documents
    (s := (w.index, {})) (t := (v.index, {})) ⟨h.index, rfl⟩
  exact ⟨⟨h.extractor, h.mode, hindex⟩, hcounts⟩

/-- To build anew does, too. -/
theorem rebuild (h : w.Alike ordered v) (hsrc : src.Alike src') :
    (w.rebuild src).1.Alike ordered (v.rebuild src').1 ∧ (w.rebuild src).2 = (v.rebuild src').2 :=
  build (w := { w with index := w.index.clear }) (v := { v with index := v.index.clear })
    ⟨h.extractor, h.mode, h.index.clear⟩ hsrc

/-- **Following a document keeps workspaces alike, and counts the same.** -/
theorem update (h : w.Alike ordered v) (hsrc : src.Alike src') (u : Update) (hdoc : doc.key = doc'.key) :
    (w.update src u doc).1.Alike ordered (v.update src' u doc').1
      ∧ (w.update src u doc).2 = (v.update src' u doc').2 := by
  obtain ⟨hindex, hcounts⟩ := h.index.apply hdoc u (hsrc.look_update w.extractor u hdoc)
  unfold Workspace.update
  rw [← h.extractor]
  exact ⟨⟨rfl, h.mode, hindex⟩, hcounts⟩

/-! ### Queries -/

/-- **A definition is at the same site.** -/
theorem definition (h : w.Alike ordered v) (text : String) :
    (w.definition text).map Span.site = (v.definition text).map Span.site := by
  show ((Text.definitionName text.toList).bind _).map _
    = ((Text.definitionName text.toList).bind _).map _
  cases Text.definitionName text.toList with
  | none => rfl
  | some name => exact h.index.site_get? (String.ofList name)

theorem definitionAt (h : w.Alike ordered v) (text : String) (p : Position) :
    (w.definitionAt text p).map Span.site = (v.definitionAt text p).map Span.site := by
  show ((Text.wordAt text.toList p).bind _).map _ = ((Text.wordAt text.toList p).bind _).map _
  cases Text.wordAt text.toList p with
  | none => rfl
  | some word => exact h.definition (String.ofList word)

/-- **A name has the same completions.** -/
theorem completions (h : w.Alike ordered v) (text : String) (mode : Option CompletionMode) :
    w.completions text mode = v.completions text mode := by
  unfold Workspace.completions Index.completions
  rw [h.index.symbols, h.mode]

end Workspace.Alike

namespace Index.Alike

variable {ordered : Prop} {i j : Index} {doc doc' : Path}

/-- The entries of a document are alike, and come in the same order. -/
theorem entriesIn (h : i.Alike ordered j) (hdoc : doc.key = doc'.key) :
    (i.entriesIn doc).map (fun e => (e.symbol, e.span.site))
      = (j.entriesIn doc').map (fun e => (e.symbol, e.span.site)) := by
  have hplain : ∀ (i : Index) (doc : Path), (i.entriesIn doc).map (fun e => (e.symbol, e.span.site))
      = (i.sites.toList.filter fun e => e.2.document == doc.key).mergeSort
          fun a b => (compare a.2.start b.2.start).isLE := by
    intro i doc
    refine (List.map_mergeSort (s := fun a b : String × Site => (compare a.2.start b.2.start).isLE)
      fun a _ b _ => rfl).trans (congrArg (List.mergeSort · _) ?_)
    simp [Index.entries, Index.sites, Table.map, List.filter_map, ownedBy_eq, Function.comp_def]
  rw [hplain, hplain, h.sites, hdoc]

/-- The same documents own symbols. -/
theorem documents (h : i.Alike ordered j) : i.documents.map Path.key = j.documents.map Path.key := by
  have hplain : ∀ i : Index, i.documents.map Path.key
      = (Table.ofList (i.sites.values.map fun s => (s.document, s.document))).values := by
    intro i
    unfold Index.documents Index.sites
    rw [← Table.values_map, Table.map_ofList, Table.values_map, List.map_map, List.map_map]
    rfl
  rw [hplain, hplain, h.sites]

end Index.Alike

/-! ## Events -/

/-- What is left of an event. -/
def Event.fact (e : Event) : Path.Key × ChangeKind × Nat := (e.path.key, e.kind, e.time)

namespace Event

/-- Folding events in keeps what is left of the changes. -/
theorem map_fact_fold {t t' : Table Path.Key Event} {e e' : Event}
    (ht : t.map (fun _ => fact) = t'.map fun _ => fact) (he : e.fact = e'.fact) :
    (fold t e).map (fun _ => fact) = (fold t' e').map fun _ => fact := by
  obtain ⟨hkey, hrest⟩ := Prod.mk.inj he
  obtain ⟨hkind, htime⟩ := Prod.mk.inj hrest
  have hget : (t.get? e.path.key).map fact = (t'.get? e.path.key).map fact := by
    rw [← Table.get?_map (fun _ => fact), ht, Table.get?_map]
  unfold fold
  rw [← hkey]
  cases hold : t.get? e.path.key with
  | none =>
    rw [hold] at hget
    rw [Option.map_eq_none_iff.1 hget.symm, Table.map_insert, Table.map_insert, ht, he]
  | some change =>
    rw [hold] at hget
    obtain ⟨change', hold', hfact⟩ := Option.map_eq_some_iff.1 hget.symm
    have habsorb : (change.absorb e).fact = (change'.absorb e').fact := by
      obtain ⟨hpath, hrest⟩ := Prod.mk.inj hfact
      obtain ⟨hkind', htime'⟩ := Prod.mk.inj hrest
      simp only [fact, absorb, hpath, hkind, hkind', htime, htime']
    rw [hold']
    show (t.insert _ _).map _ = (t'.insert _ _).map _
    rw [Table.map_insert, Table.map_insert, ht, habsorb]

/-- **Events that are alike have changes that are alike.** -/
theorem map_fact_coalesce {events events' : List Event}
    (h : events.map fact = events'.map fact) :
    (coalesce events).map fact = (coalesce events').map fact := by
  have hsort : ∀ events : List Event, (events.mergeSort fun a b => a.time ≤ b.time).map fact
      = (events.map fact).mergeSort fun a b => a.2.2 ≤ b.2.2 :=
    fun events => List.map_mergeSort fun a _ b _ => rfl
  have hbefore : ∀ changes : List Event, (changes.mergeSort before).map fact
      = (changes.map fact).mergeSort fun a b =>
          a.2.2 < b.2.2 || (a.2.2 == b.2.2 && (compare a.1 b.1).isLE) :=
    fun changes => List.map_mergeSort fun a _ b _ => rfl
  have hfold : ((events.mergeSort fun a b => a.time ≤ b.time).foldl fold ∅).map (fun _ => fact)
      = ((events'.mergeSort fun a b => a.time ≤ b.time).foldl fold ∅).map fun _ => fact :=
    foldl_in_step (R := fun t t' : Table Path.Key Event =>
      t.map (fun _ => fact) = t'.map fun _ => fact) (fun t t' e e' => map_fact_fold)
      (by rw [hsort, hsort, h]) rfl
  unfold coalesce
  rw [hbefore, hbefore, ← Table.values_map, ← Table.values_map, hfold]

end Event

/-- **Following changes keeps workspaces alike, and counts the same.** -/
theorem Workspace.Alike.process {ordered : Prop} {w v : Workspace} {src src' : Source} (h : w.Alike ordered v)
    (hsrc : src.Alike src') {changes changes' : List Event}
    (hchanges : changes.map Event.fact = changes'.map Event.fact) :
    (w.process src changes).1.Alike ordered (v.process src' changes').1
      ∧ (w.process src changes).2 = (v.process src' changes').2 := by
  refine foldl_in_step (R := fun r r' : Workspace × ChangeCounts => r.1.Alike ordered r'.1 ∧ r.2 = r'.2)
    (fun r r' e e' hr he => ?_) hchanges ⟨h, rfl⟩
  obtain ⟨hkey, hrest⟩ := Prod.mk.inj he
  obtain ⟨halike, hcounts⟩ := hr.1.update hsrc (e.kind.route (r.1.index.owns e.path)) hkey
  have hroute : e'.kind.route (r'.1.index.owns e'.path) = e.kind.route (r.1.index.owns e.path) := by
    rw [hr.1.index.owns hkey, (Prod.mk.inj hrest).1]
  unfold Workspace.followCounted Workspace.follow
  rw [hroute, ← (Prod.mk.inj hrest).1]
  refine ⟨halike, ?_⟩
  show r.2 + _ = r'.2 + _
  rw [hr.2, hcounts]

end PcdCatalog

import Mathlib.Data.List.Destutter
import PcdCatalog.Cells
import PcdCatalog.Proofs.HandoverLog
import PcdCatalog.Proofs.SpanOrder
import PcdCatalog.Proofs.Spelling

/-!
# The views of an index agree

An index can be asked for the entry of a symbol, for all entries, for those of one
document, for the documents that own any, whether a document does, and for its size.
Each answer is worked out by itself. `Views.Agree` says how they hang together: all
of them describe one set of entries, one per symbol, and the documents divide it up.
That leaves nothing open but how a document is spelled and in which order entries are
listed that begin at the same place (`Views.Agree.sameAs`).

An `Index` has its symbols in order, so of its views only the documents need an
argument: they are kept under their keys, and the order of keys is that of paths. In
`Cells` nothing is in order. Their views sort what they find, and the documents come
out of a list in which only neighbours are compared. That this drops every repetition
is due to the order of paths: it takes two spellings of one place for equal, and
keeps them together.

Cells name the symbol of an entry twice, as the key and in the entry. That both are
the same is kept by every command, and with it that cells hold what the index holds
(`Cells.Holds`), in whatever order they are gone through and however that order
changes in between (`Cells.Reached`).
-/

namespace PcdCatalog

/-! ## Views -/

/-- **What an index answers**, all views at one moment. -/
structure Views where
  get? : String → Option Entry
  entries : List Entry
  documents : List Path
  entriesIn : Path → List Entry
  owns : Path → Bool
  size : Nat

/-- The views of an index. -/
def Index.views (i : Index) : Views where
  get? s := (i.get? s).map (Entry.mk s)
  entries := i.entries
  documents := i.documents
  entriesIn := i.entriesIn
  owns := i.owns
  size := i.size

/-- The views of cells. -/
def Cells.views (c : Cells) : Views where
  get? := c.get?
  entries := c.entries
  documents := c.documents
  entriesIn := c.entriesIn
  owns := c.owns
  size := c.size

namespace Views

/-- **The views agree.** -/
structure Agree (v : Views) : Prop where
  /-- An entry is found under its own symbol. -/
  symbol : ∀ s e, v.get? s = some e → e.symbol = s
  ascending : v.entries.Pairwise fun a b => a.symbol < b.symbol
  mem_entries : ∀ e, e ∈ v.entries ↔ v.get? e.symbol = some e
  /-- Documents ascend in path order. -/
  ordered : v.documents.Pairwise fun p q => compare p q = .lt
  distinct : v.documents.Pairwise fun p q => p.same q = false
  /-- Up to its spelling, a document is listed if it owns something. -/
  mem_documents : ∀ doc, (∃ p ∈ v.documents, p.same doc = true) ↔ v.owns doc = true
  owns : ∀ doc, v.owns doc = true ↔ v.entriesIn doc ≠ []
  mem_entriesIn : ∀ doc e, e ∈ v.entriesIn doc ↔ e ∈ v.entries ∧ e.span.document.same doc = true
  /-- How a document is spelled does not matter. -/
  spelling : ∀ doc doc', doc.same doc' = true → v.entriesIn doc = v.entriesIn doc'
  /-- Every entry is in the list of one document, and in no other. -/
  partition : (v.documents.flatMap v.entriesIn).Perm v.entries
  started : ∀ doc, (v.entriesIn doc).Pairwise
    fun a b => (compare a.span.start b.span.start).isLE = true
  total : (v.documents.map fun doc => (v.entriesIn doc).length).sum = v.size

/-- **Views that differ in spelling only**, and in the order of entries that begin at
the same place. -/
structure SameAs (v w : Views) : Prop where
  get? : v.get? = w.get?
  entries : v.entries = w.entries
  documents : v.documents.map Path.key = w.documents.map Path.key
  entriesIn : ∀ doc, (v.entriesIn doc).Perm (w.entriesIn doc)
  owns : v.owns = w.owns
  size : v.size = w.size

end Views

/-! ## Lists in order -/

/-- Strictly ascending lists with the same members are the same. -/
theorem eq_of_ascending {α β : Type} [Ord β] [Std.TransOrd β] (f : α → β) {l m : List α}
    (hl : l.Pairwise fun a b => compare (f a) (f b) = .lt)
    (hm : m.Pairwise fun a b => compare (f a) (f b) = .lt) (h : ∀ a, a ∈ l ↔ a ∈ m) : l = m := by
  have hirrefl : ∀ a : α, compare (f a) (f a) ≠ .lt := fun a => by simp
  have hnodup : ∀ {l : List α}, l.Pairwise (fun a b => compare (f a) (f b) = .lt) → l.Nodup := by
    intro l hl
    refine hl.imp fun {a b} hab heq => ?_
    rw [heq] at hab
    exact hirrefl b hab
  have hperm : l.Perm m := (List.perm_ext_iff_of_nodup (hnodup hl) (hnodup hm)).2 h
  refine hperm.eq_of_pairwise (fun a b _ _ hab hba => ?_) hl hm
  exact absurd (Std.TransCmp.lt_trans hab hba) (hirrefl a)

namespace Path

instance : Std.TransOrd Path := inferInstanceAs (Std.TransCmp (compareOn key))

theorem same_eq_false_of_lt {p q : Path} (h : compare p q = .lt) : p.same q = false := by
  refine Bool.eq_false_iff.2 fun hsame => ?_
  have heq : compare p q = .eq := by
    show compare p.key q.key = .eq
    rw [same_iff.1 hsame]
    exact Std.ReflCmp.compare_self
  rw [h] at heq
  exact absurd heq Ordering.noConfusion

/-- **Of a sorted list only neighbours need to be compared**: what is left ascends
strictly. -/
theorem ascending_destutter {l : List Path}
    (h : l.Pairwise fun p q => (compare p q).isLE = true) :
    (l.destutter fun p q => p.same q = false).Pairwise fun p q => compare p q = .lt := by
  have hsorted := (h.sublist (List.destutter_sublist (fun p q => p.same q = false) l)).isChain
  have hapart := List.isChain_destutter (fun p q : Path => p.same q = false) l
  have htrans : Trans (fun p q : Path => compare p q = .lt) (fun p q => compare p q = .lt)
      (fun p q => compare p q = .lt) := ⟨Std.TransCmp.lt_trans⟩
  -- the order takes two spellings of one place for equal, so neighbours that are apart ascend
  have hlt : ∀ p q : Path, (compare p q).isLE = true → p.same q = false →
      compare p q = .lt := fun p q hle hne =>
    compare_eq_lt_of_isLE (β := Key) hle fun hkey =>
      Bool.noConfusion (hne.symm.trans (same_iff.2 hkey))
  exact (List.isChain_iff_getElem.2 fun k hk =>
    hlt _ _ (hsorted.getElem k hk) (hapart.getElem k hk)).pairwise

/-- What is dropped has the same place as what is left. -/
theorem exists_same_destutter {l : List Path} {p : Path} (h : p ∈ l) :
    ∃ q ∈ l.destutter fun p q => p.same q = false, q.same p = true := by
  have hfrom : ∀ (l : List Path) (a : Path), ∀ p ∈ a :: l,
      ∃ q ∈ l.destutter' (fun p q => p.same q = false) a, q.same p = true := by
    intro l
    induction l with
    | nil =>
      intro a p hp
      obtain rfl := List.mem_singleton.1 hp
      exact ⟨p, List.mem_singleton_self p, same_self p⟩
    | cons b l ih =>
      intro a p hp
      cases hab : a.same b with
      | false =>
        rw [List.destutter'_cons, if_pos hab]
        rcases List.mem_cons.1 hp with rfl | hp
        · exact ⟨p, List.mem_cons_self, same_self p⟩
        · obtain ⟨q, hq, hsame⟩ := ih b p hp
          exact ⟨q, List.mem_cons_of_mem a hq, hsame⟩
      | true =>
        -- `b` is dropped, and `a` stands for it
        rw [List.destutter'_cons, if_neg (by rw [hab]; exact Bool.noConfusion)]
        rcases List.mem_cons.1 hp with rfl | hp
        · exact ih p p List.mem_cons_self
        · rcases List.mem_cons.1 hp with rfl | hp
          · exact ⟨a, List.mem_destutter' l _ a, hab⟩
          · exact ih a p (List.mem_cons_of_mem a hp)
  cases l with
  | nil => exact absurd h List.not_mem_nil
  | cons a l => exact hfrom l a p h

end Path

/-! ## Views that agree are determined -/

namespace Views.Agree

variable {v w : Views}

theorem length_entries (h : v.Agree) : v.entries.length = v.size := by
  rw [← h.partition.length_eq, List.length_flatMap]
  exact h.total

/-- A document owns something if an entry is its own. -/
theorem owns_iff (h : v.Agree) (doc : Path) :
    v.owns doc = true ↔ ∃ e ∈ v.entries, e.span.document.same doc = true := by
  rw [h.owns]
  constructor
  · intro hne
    obtain ⟨e, he⟩ := List.exists_mem_of_ne_nil _ hne
    exact ⟨e, (h.mem_entriesIn doc e).1 he⟩
  · rintro ⟨e, he⟩
    exact List.ne_nil_of_mem ((h.mem_entriesIn doc e).2 he)

/-- No entry is listed twice for a document. -/
theorem nodup_entriesIn (h : v.Agree) (doc : Path) : (v.entriesIn doc).Nodup := by
  have hentries : v.entries.Nodup := h.ascending.imp fun hlt heq => by
    rw [heq] at hlt
    exact String.lt_irrefl _ hlt
  cases howns : v.owns doc with
  | false =>
    have hnil : v.entriesIn doc = [] := by
      by_contra hne
      rw [(h.owns doc).2 hne] at howns
      exact Bool.noConfusion howns
    rw [hnil]
    exact List.nodup_nil
  | true =>
    obtain ⟨p, hp, hsame⟩ := (h.mem_documents doc).2 howns
    rw [← h.spelling p doc hsame]
    exact (List.nodup_flatMap.1 (h.partition.nodup_iff.2 hentries)).1 p hp

/-- **What is answered for symbols determines all views**, up to spelling. -/
theorem sameAs (hv : v.Agree) (hw : w.Agree) (hget : v.get? = w.get?) : v.SameAs w := by
  have hlt : ∀ {a b : Entry}, a.symbol < b.symbol → compare a.symbol b.symbol = .lt :=
    fun h => compareOfLessAndEq_eq_lt.2 h
  have hentries : v.entries = w.entries := by
    refine eq_of_ascending Entry.symbol (hv.ascending.imp hlt) (hw.ascending.imp hlt) fun e => ?_
    rw [hv.mem_entries, hw.mem_entries, hget]
  have howns : v.owns = w.owns := by
    funext doc
    rw [Bool.eq_iff_iff, hv.owns_iff, hw.owns_iff, hentries]
  have hkeys : ∀ {v w : Views}, v.Agree → w.Agree → v.owns = w.owns →
      ∀ k ∈ v.documents.map Path.key, k ∈ w.documents.map Path.key := by
    intro v w hv hw howns k hk
    obtain ⟨p, hp, rfl⟩ := List.mem_map.1 hk
    have hown := (hv.mem_documents p).1 ⟨p, hp, p.same_self⟩
    rw [howns] at hown
    obtain ⟨q, hq, hsame⟩ := (hw.mem_documents p).2 hown
    exact List.mem_map.2 ⟨q, hq, Path.same_iff.1 hsame⟩
  refine ⟨hget, hentries, ?_, fun doc => ?_, howns, ?_⟩
  · exact eq_of_ascending id (List.pairwise_map.2 hv.ordered) (List.pairwise_map.2 hw.ordered)
      fun k => ⟨hkeys hv hw howns k, hkeys hw hv howns.symm k⟩
  · refine (List.perm_ext_iff_of_nodup (hv.nodup_entriesIn doc) (hw.nodup_entriesIn doc)).2 ?_
    intro e
    rw [hv.mem_entriesIn, hw.mem_entriesIn, hentries]
  · rw [← hv.length_entries, ← hw.length_entries, hentries]

end Views.Agree

/-! ## Views of one listing -/

namespace Index

/-- **Documents that stand for all owners divide the entries up.** -/
theorem partition_inDocument {documents : List Path} {listing : List Entry}
    (hnodup : listing.Nodup) (hdistinct : documents.Pairwise fun p q => p.same q = false)
    (howner : ∀ e ∈ listing, ∃ p ∈ documents, p.same e.span.document = true) :
    (documents.flatMap fun doc => inDocument doc listing).Perm listing := by
  have hparts : (documents.flatMap fun doc => inDocument doc listing).Nodup := by
    refine List.nodup_flatMap.2 ⟨fun doc _ => ?_, hdistinct.imp fun {p q} hpq e hp hq => ?_⟩
    · exact (List.mergeSort_perm _ _).nodup_iff.2 (hnodup.filter _)
    · -- an entry has one owner
      have hkey := Path.same_iff.1 (mem_inDocument.1 hp).2
      have hkey' := Path.same_iff.1 (mem_inDocument.1 hq).2
      rw [Path.same_iff.2 (hkey.symm.trans hkey')] at hpq
      exact Bool.noConfusion hpq
  refine (List.perm_ext_iff_of_nodup hparts hnodup).2 fun e => ?_
  rw [List.mem_flatMap]
  constructor
  · rintro ⟨doc, -, he⟩
    exact (mem_inDocument.1 he).1
  · intro he
    obtain ⟨p, hp, hsame⟩ := howner e he
    exact ⟨p, hp, mem_inDocument.2 ⟨he, Path.same_iff.2 (Path.same_iff.1 hsame).symm⟩⟩

end Index

namespace Views

/-- **The views are read off a listing** of entries, one per symbol: the entries
are sorted, the documents are the owners in order, and the rest is filtered and
counted. -/
structure Reads (v : Views) (listing : List Entry) : Prop where
  nodup : (listing.map Entry.symbol).Nodup
  get? : ∀ s e, v.get? s = some e ↔ e ∈ listing ∧ e.symbol = s
  perm : v.entries.Perm listing
  sorted : v.entries.Pairwise fun a b => (compare a.symbol b.symbol).isLE = true
  ordered : v.documents.Pairwise fun p q => compare p q = .lt
  owners : ∀ doc, (∃ p ∈ v.documents, p.same doc = true)
    ↔ ∃ e ∈ listing, Index.ownedBy doc e.span = true
  entriesIn : ∀ doc, v.entriesIn doc = Index.inDocument doc listing
  owns : ∀ doc, v.owns doc = listing.any fun e => Index.ownedBy doc e.span
  size : v.size = listing.length

variable {v : Views} {listing : List Entry}

theorem Reads.ascending (h : v.Reads listing) :
    v.entries.Pairwise fun a b => a.symbol < b.symbol := by
  have hdiff : v.entries.Pairwise fun a b => a.symbol ≠ b.symbol :=
    List.pairwise_map.1 ((h.perm.map Entry.symbol).nodup_iff.2 h.nodup)
  refine (h.sorted.and hdiff).imp fun {a b} hab => ?_
  exact compareOfLessAndEq_eq_lt.1 (compare_eq_lt_of_isLE hab.1 hab.2)

theorem Reads.partition (h : v.Reads listing) : (v.documents.flatMap v.entriesIn).Perm listing := by
  rw [funext h.entriesIn]
  refine Index.partition_inDocument h.nodup.of_map (h.ordered.imp Path.same_eq_false_of_lt) ?_
  exact fun e he => (h.owners e.span.document).2 ⟨e, he, e.span.document.same_self⟩

/-- **Views of one listing agree.** -/
theorem Reads.agree (h : v.Reads listing) : v.Agree where
  symbol s e he := ((h.get? s e).1 he).2
  ascending := h.ascending
  mem_entries e := by
    rw [h.perm.mem_iff, h.get?]
    exact (and_iff_left rfl).symm
  ordered := h.ordered
  distinct := h.ordered.imp Path.same_eq_false_of_lt
  mem_documents doc := by
    rw [h.owners, h.owns, List.any_eq_true]
  owns doc := by
    rw [h.owns, h.entriesIn, List.any_eq_true]
    constructor
    · rintro ⟨e, he⟩
      exact List.ne_nil_of_mem (Index.mem_inDocument.2 he)
    · intro hne
      obtain ⟨e, he⟩ := List.exists_mem_of_ne_nil _ hne
      exact ⟨e, Index.mem_inDocument.1 he⟩
  mem_entriesIn doc e := by
    rw [h.entriesIn, h.perm.mem_iff]
    exact Index.mem_inDocument
  spelling doc doc' hsame := by
    have howned : Index.ownedBy doc = Index.ownedBy doc' := by
      funext span
      rw [Index.ownedBy_eq, Index.ownedBy_eq, Path.same_iff.1 hsame]
    rw [h.entriesIn, h.entriesIn]
    unfold Index.inDocument
    rw [howned]
  partition := h.partition.trans h.perm.symm
  started doc := by
    rw [h.entriesIn]
    exact Index.pairwise_inDocument doc listing
  total := by
    rw [h.size, ← h.partition.length_eq, List.length_flatMap]

end Views

/-! ## The views of an index -/

namespace Index

/-- The owners under their keys, of which the documents are the values. -/
def owners (i : Index) : Table Path.Key Path :=
  .ofList (i.table.values.map fun s => (s.document.key, s.document))

theorem mem_owners {i : Index} {k : Path.Key} {p : Path} (h : (k, p) ∈ i.owners.toList) :
    p.key = k ∧ ∃ e ∈ i.entries, e.span.document = p := by
  have hmem := Table.mem_of_get?_ofList (i.owners.get?_eq_some_iff.2 h)
  obtain ⟨span, hspan, heq⟩ := List.mem_map.1 hmem
  obtain ⟨rfl, rfl⟩ := Prod.mk.inj heq
  obtain ⟨⟨s, span'⟩, hentry, rfl⟩ := List.mem_map.1 hspan
  exact ⟨rfl, ⟨s, span'⟩, List.mem_map.2 ⟨_, hentry, rfl⟩, rfl⟩

/-- **Documents ascend**, since their keys do. -/
theorem pairwise_documents (i : Index) :
    i.documents.Pairwise fun p q => compare p q = .lt := by
  refine List.pairwise_map.2 (i.owners.ascending.imp_of_mem fun {a b} ha hb hlt => ?_)
  show compare a.2.key b.2.key = .lt
  rw [(mem_owners ha).1, (mem_owners hb).1]
  exact hlt

theorem mem_documents (i : Index) (doc : Path) :
    (∃ p ∈ i.documents, p.same doc = true)
      ↔ ∃ e ∈ i.entries, ownedBy doc e.span = true := by
  constructor
  · rintro ⟨p, hp, hsame⟩
    obtain ⟨⟨k, p'⟩, hmem, rfl⟩ := List.mem_map.1 hp
    obtain ⟨-, e, he, rfl⟩ := mem_owners hmem
    exact ⟨e, he, hsame⟩
  · rintro ⟨e, he, howned⟩
    obtain ⟨⟨s, span⟩, hentry, rfl⟩ := List.mem_map.1 he
    have hlisted : (span.document.key, span.document)
        ∈ i.table.values.map fun s => (s.document.key, s.document) :=
      List.mem_map.2 ⟨span, List.mem_map.2 ⟨_, hentry, rfl⟩, rfl⟩
    obtain ⟨p, hp⟩ := Table.exists_get?_ofList hlisted
    have hmem : (span.document.key, p) ∈ i.owners.toList := i.owners.get?_eq_some_iff.1 hp
    refine ⟨p, List.mem_map.2 ⟨_, hmem, rfl⟩, Path.same_iff.2 ?_⟩
    rw [(mem_owners hmem).1]
    exact Path.same_iff.1 howned

/-- The views of an index are read off its entries. -/
theorem reads_views (i : Index) : i.views.Reads i.entries where
  nodup := i.symbols_eq_map_entries ▸ i.table.nodup_keys
  get? s e := by
    show (i.get? s).map (Entry.mk s) = some e ↔ _
    rw [Option.map_eq_some_iff, mem_entries]
    constructor
    · rintro ⟨span, hget, rfl⟩
      exact ⟨hget, rfl⟩
    · rintro ⟨hget, rfl⟩
      exact ⟨e.span, hget, rfl⟩
  perm := List.Perm.refl _
  sorted := by
    refine List.pairwise_map.2 (i.table.ascending.imp fun {a b} hlt => ?_)
    rw [hlt]
    rfl
  ordered := i.pairwise_documents
  owners := i.mem_documents
  entriesIn doc := i.entriesIn_eq doc
  owns doc := by
    show (i.table.toList.map Prod.snd).any _ = (i.table.toList.map _).any _
    rw [List.any_map, List.any_map]
    rfl
  size := (List.length_map _).symm

end Index

/-! ## The views of cells -/

namespace Cells

/-- **Cells hold what an index holds**, each entry under its own symbol. -/
def Holds (c : Cells) (i : Index) : Prop :=
  ∀ key e, (key, e) ∈ c.toList ↔ e.symbol = key ∧ i.get? key = some e.span

theorem get?_eq_some_iff {c : Cells} {s : String} {e : Entry} :
    c.get? s = some e ↔ (s, e) ∈ c.toList := by
  unfold get?
  rw [Option.map_eq_some_iff]
  constructor
  · rintro ⟨⟨key, e'⟩, hfind, rfl⟩
    have hkey := List.find?_some hfind
    rw [← beq_iff_eq.1 hkey]
    exact List.mem_of_find?_eq_some hfind
  · intro hmem
    cases hfind : c.toList.find? fun cell => cell.1 == s with
    | none => exact absurd (beq_self_eq_true s) (List.find?_eq_none.1 hfind _ hmem)
    | some cell =>
      have hkey := List.find?_some hfind
      have hcell : cell = (s, e) := List.inj_on_of_nodup_map c.distinct
        (List.mem_of_find?_eq_some hfind) hmem (beq_iff_eq.1 hkey)
      exact ⟨cell, rfl, congrArg Prod.snd hcell⟩

theorem mem_owners_sorted {c : Cells} {p : Path} :
    p ∈ (c.values.map fun e => e.span.document).mergeSort (fun p q => (compare p q).isLE)
      ↔ ∃ e ∈ c.values, e.span.document = p := by
  rw [List.mem_mergeSort, List.mem_map]

/-- The documents of cells stand for all owners. -/
theorem mem_documents (c : Cells) (doc : Path) :
    (∃ p ∈ c.documents, p.same doc = true)
      ↔ ∃ e ∈ c.values, Index.ownedBy doc e.span = true := by
  constructor
  · rintro ⟨p, hp, hsame⟩
    obtain ⟨e, he, rfl⟩ := mem_owners_sorted.1 ((List.destutter_sublist _ _).subset hp)
    exact ⟨e, he, hsame⟩
  · rintro ⟨e, he, howned⟩
    obtain ⟨p, hp, hsame⟩ := Path.exists_same_destutter (mem_owners_sorted.2 ⟨e, he, rfl⟩)
    exact ⟨p, hp, Path.same_iff.2 ((Path.same_iff.1 hsame).trans (Path.same_iff.1 howned))⟩

/-- **The views of cells are read off what lies in them**, if every entry lies under
its own symbol. -/
theorem reads_views {c : Cells} (hkeys : ∀ cell ∈ c.toList, cell.2.symbol = cell.1) :
    c.views.Reads c.values where
  nodup := by
    have hsymbols : c.values.map Entry.symbol = c.toList.map Prod.fst :=
      (List.map_map).trans (List.map_congr_left hkeys)
    rw [hsymbols]
    exact c.distinct
  get? s e := by
    show c.get? s = some e ↔ _
    rw [get?_eq_some_iff, values, List.mem_map]
    constructor
    · exact fun hmem => ⟨⟨_, hmem, rfl⟩, hkeys _ hmem⟩
    · rintro ⟨⟨cell, hmem, rfl⟩, rfl⟩
      rw [hkeys cell hmem]
      exact hmem
  perm := List.mergeSort_perm _ _
  sorted := pairwise_mergeSort_compare Entry.symbol _
  ordered := Path.ascending_destutter (pairwise_mergeSort_compare id _)
  owners := c.mem_documents
  entriesIn _ := rfl
  owns _ := rfl
  size := (List.length_map _).symm

namespace Holds

variable {c : Cells} {i : Index}

theorem symbol (h : c.Holds i) (cell : String × Entry) (hmem : cell ∈ c.toList) :
    cell.2.symbol = cell.1 :=
  ((h cell.1 cell.2).1 hmem).1

/-- **Views of cells that hold what an index holds** agree, and are the views of the
index. -/
theorem views (h : c.Holds i) : c.views.Agree ∧ c.views.SameAs i.views := by
  have hagree := (reads_views h.symbol).agree
  refine ⟨hagree, hagree.sameAs i.reads_views.agree (funext fun s => Option.ext fun e => ?_)⟩
  show c.get? s = some e ↔ (i.get? s).map (Entry.mk s) = some e
  rw [get?_eq_some_iff, h, Option.map_eq_some_iff]
  constructor
  · rintro ⟨rfl, hget⟩
    exact ⟨e.span, hget, rfl⟩
  · rintro ⟨span, hget, rfl⟩
    exact ⟨rfl, hget⟩

/-! ### Commands -/

theorem empty (limit : Nat) : Cells.empty.Holds (.empty limit) := by
  intro key e
  refine ⟨fun h => absurd h List.not_mem_nil, fun h => ?_⟩
  exact absurd h.2 (by simp [Index.empty, Index.get?, EmptyCollection.emptyCollection])

/-- Storing a declaration is placing it. -/
theorem place (h : c.Holds i) (doc : Path) (d : String × Span) :
    (c.place d).Holds (i.put doc d.1 d.2) := by
  intro key e
  show (key, e) ∈ (d.1, ⟨d.1, d.2⟩) :: c.toList.filter (fun cell => cell.1 != d.1)
    ↔ e.symbol = key ∧ (i.table.insert d.1 d.2).get? key = some e.span
  rw [List.mem_cons, List.mem_filter, h, Table.get?_insert]
  by_cases hkey : key = d.1
  · obtain rfl := hkey
    rw [if_pos Std.ReflCmp.compare_self]
    constructor
    · rintro (heq | ⟨-, hne⟩)
      · obtain rfl := (Prod.mk.inj heq).2
        exact ⟨rfl, rfl⟩
      · exact absurd rfl (bne_iff_ne.1 hne)
    · rintro ⟨hsymbol, hspan⟩
      obtain ⟨s, span⟩ := e
      exact .inl (by rw [show s = d.1 from hsymbol, show d.2 = span from Option.some.inj hspan])
  · rw [if_neg fun heq => hkey (Std.LawfulEqCmp.eq_of_compare heq)]
    constructor
    · rintro (heq | ⟨hheld, -⟩)
      · exact absurd (Prod.mk.inj heq).1 hkey
      · exact hheld
    · exact fun hheld => .inr ⟨hheld, bne_iff_ne.2 hkey⟩

theorem merge (h : c.Holds i) (doc : Path) (declared : List (String × Span)) :
    (c.merge declared).Holds (i.mergeList doc declared).1 :=
  foldl_in_step (R := fun (c : Cells) (r : Index × MergeCounts) => c.Holds r.1)
    (p := id) (q := id) (fun _ _ d _ hr heq => by
      obtain rfl : d = _ := heq
      exact hr.place doc d) rfl h

/-- Clearing cells drops their entries. -/
theorem filter (h : c.Holds i) {p : String → Entry → Bool} {j : Index}
    (hj : ∀ key, j.get? key = (i.get? key).filter fun span => p key ⟨key, span⟩) :
    (c.filter p).Holds j := by
  intro key e
  show (key, e) ∈ c.toList.filter (fun cell => p cell.1 cell.2) ↔ _
  rw [List.mem_filter, h, hj, Option.filter_eq_some_iff, and_assoc]
  refine and_congr_right fun hsymbol => and_congr_right fun _ => ?_
  obtain ⟨s, span⟩ := e
  obtain rfl : s = key := hsymbol
  rfl

end Holds

/-- The cells after a command. -/
def perform (c : Cells) : IndexCommand → Cells
  | .merge _ declared => c.merge declared
  | .retain doc keep => c.retain doc keep
  | .remove doc => c.remove doc
  | .clear => empty

/-- **A command leaves cells that hold what the index holds.** -/
theorem Holds.perform {c : Cells} {i : Index} (h : c.Holds i) (command : IndexCommand) :
    (c.perform command).Holds (command.perform i) := by
  cases command with
  | merge doc declared => exact h.merge doc declared
  | retain doc keep => exact h.filter (i.get?_retain doc keep)
  | remove doc => exact h.filter (i.get?_remove doc)
  | clear => exact Holds.empty i.limit

/-- **Cells that commands may lead to.** After each command the cells may be gone
through in another order than before. -/
inductive Reached : List IndexCommand → Cells → Prop where
  | start : Reached [] empty
  | step {commands : List IndexCommand} {c c' : Cells} (command : IndexCommand) :
      Reached commands c → c'.toList.Perm (c.perform command).toList →
      Reached (commands ++ [command]) c'

/-- **Whatever order cells are in**, they hold what the index holds after the same
commands. -/
theorem Reached.holds {commands : List IndexCommand} {c : Cells} (h : Reached commands c)
    (limit : Nat) : c.Holds (IndexCommand.runAll (.empty limit) commands) := by
  induction h with
  | start => exact Holds.empty limit
  | step command _ hperm ih =>
    intro key e
    rw [hperm.mem_iff, IndexCommand.runAll_concat]
    exact ih.perform command key e

end Cells

namespace IndexCommand

/-- **The views of an index agree in every state** that merges, purges, removals and
clearings lead to, whatever documents the merged spans name: the entries ascend by
their symbols and are what is answered for these; the documents ascend in path order,
no two of them the same place, and are those that own something, which is to say
those that have entries; these divide up all entries, each document's in the order in
which they begin, and their numbers add up to the size. So do the views that go
through cells in an arbitrary order, and they are the same views. What was removed
owns nothing, however it is spelled. -/
theorem views_agree (limit : Nat) (commands : List IndexCommand) :
    (runAll (.empty limit) commands).views.Agree
    ∧ (∀ c, Cells.Reached commands c →
        c.views.Agree ∧ c.views.SameAs (runAll (.empty limit) commands).views)
    ∧ ∀ doc doc', doc.same doc' = true →
        (runAll (.empty limit) (commands ++ [remove doc])).owns doc' = false := by
  refine ⟨(Index.reads_views _).agree, fun c hc => (hc.holds limit).views, ?_⟩
  intro doc doc' hsame
  rw [runAll_concat]
  refine Bool.eq_false_iff.2 fun howns => ?_
  obtain ⟨s, span, hget, howned⟩ := (Index.owns_iff _ doc').1 howns
  have hget : ((runAll (.empty limit) commands).remove doc).1.get? s = some span := hget
  rw [Index.get?_remove, Option.filter_eq_some_iff] at hget
  rw [Index.ownedBy_eq, ← Path.same_iff.1 hsame, ← Index.ownedBy_eq] at howned
  rw [howned] at hget
  exact absurd hget.2 Bool.noConfusion

/-- A declaration of which only the document and the line matter. -/
def spanAt (doc : String) (line : UInt32) : Span :=
  { (default : Span) with document := ⟨doc⟩, start := ⟨line, 0⟩ }

/-- Three symbols of two documents, merged for a third one, with two spellings of the
first. -/
def scattering : List IndexCommand :=
  [merge ⟨"m.dec"⟩ [("PcdB", spanAt "x//a.dec" 3), ("PcdC", spanAt "b.dec" 1),
    ("PcdA", spanAt "x/a.dec/" 5)]]

/-- Cells that this leads to: the entries of the first document are not neighbours. -/
def scattered : Cells :=
  ⟨[("PcdB", ⟨"PcdB", spanAt "x//a.dec" 3⟩), ("PcdC", ⟨"PcdC", spanAt "b.dec" 1⟩),
    ("PcdA", ⟨"PcdA", spanAt "x/a.dec/" 5⟩)], by decide⟩

/-- Both spellings of the first document are one, and a third one removes it. -/
theorem views_agree_scattered :
    Cells.Reached scattering scattered
      ∧ scattered.views.Agree
      ∧ scattered.views.SameAs (runAll (.empty 4) scattering).views
      ∧ scattered.documents.length = 2
      ∧ (runAll (.empty 4) scattering).owns ⟨"x/./a.dec"⟩ = true
      ∧ Path.same ⟨"x/a.dec"⟩ ⟨"x/./a.dec"⟩ = true
      ∧ (runAll (.empty 4) (scattering ++ [remove ⟨"x/a.dec"⟩])).owns ⟨"x/./a.dec"⟩ = false := by
  have hreached : Cells.Reached ([] ++ scattering) scattered :=
    .step _ .start (by decide +kernel)
  have hsame : Path.same ⟨"x/a.dec"⟩ ⟨"x/./a.dec"⟩ = true := by decide +kernel
  obtain ⟨-, hcells, hremoved⟩ := views_agree 4 scattering
  obtain ⟨hagree, hviews⟩ := hcells scattered hreached
  have hdocuments := congrArg List.length hviews.documents
  rw [List.length_map, List.length_map] at hdocuments
  exact ⟨hreached, hagree, hviews, hdocuments.trans (by decide +kernel), by decide +kernel, hsame,
    hremoved _ _ hsame⟩

end IndexCommand

end PcdCatalog

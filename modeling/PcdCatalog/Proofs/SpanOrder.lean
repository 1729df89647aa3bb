import PcdCatalog.Proofs.MatchOrder
import PcdCatalog.Proofs.NameLookup

/-!
# Spans come in the order of the text

What an extraction keeps are matches of its pattern, and matches go from left to
right (`Pattern.Node.inOrder_matches`). A match declares a symbol if its first
group holds it and is not empty (`Pattern.Match.Names`), so the span of a symbol
is that of the last match that names it (`Extractor.get?_extract_eq_some_iff`).
A match that names something is not empty, two symbols are never named by the
same match, and positions ascend with boundaries: the spans of two symbols lie
apart, and their positions are in the order of their bytes
(`Extractor.before_or_before`).

Right after a change the entries of a document are exactly what its text
declares (`Index.mem_entriesIn_replaced`). As their positions differ there is
only one way to sort them, so neither the order in which they were placed nor
the order in which they are listed shows.
-/

namespace PcdCatalog

open Text (Boundary byteLength positionAt)

/-! ## Matches that name a symbol -/

namespace Pattern.Match

/-- **A match names a symbol** if its first group holds just that, and the symbol
is not empty. -/
def Names (text : List Char) (s : String) (m : Match) : Prop :=
  s.toList ≠ [] ∧ ∃ pre post, text = pre ++ (s.toList ++ post)
    ∧ m.name = some (byteLength pre, byteLength pre + byteLength s.toList)

/-- The span of a match. -/
def span (doc : Path) (text : List Char) (m : Match) : Span where
  document := doc
  start := positionAt text m.start
  stop := positionAt text m.stop
  first := m.start
  past := m.stop

variable {text : List Char} {m : Match} {s t : String}

/-- The group of a match in its place cuts a part out of the text. -/
theorem Placed.exists_name (h : m.Placed text) {a b : Nat} (hname : m.name = some (a, b)) :
    ∃ pre part post, text = pre ++ (part ++ post)
      ∧ a = byteLength pre ∧ b = byteLength pre + byteLength part := by
  obtain ⟨⟨pre, rest, htext, rfl⟩, ⟨front, post, htext', rfl⟩, -, hle, -⟩ := h.name a b hname
  obtain ⟨part, rfl, rfl⟩ :=
    Text.exists_append_of_byteLength_le (htext.symm.trans htext') hle
  exact ⟨pre, part, post, htext, rfl, Text.byteLength_append pre part⟩

theorem Names.slice_eq (h : m.Names text s) {a b : Nat} (hname : m.name = some (a, b)) :
    Extractor.slice text a b = s.toList := by
  obtain ⟨-, pre, post, rfl, hname'⟩ := h
  obtain ⟨rfl, rfl⟩ := Prod.mk.inj (Option.some.inj (hname.symm.trans hname'))
  exact Grammar.slice_append pre s.toList post

/-- No match names two symbols. -/
theorem Names.unique (hs : m.Names text s) (ht : m.Names text t) : s = t := by
  obtain ⟨-, pre, post, -, hname⟩ := id hs
  exact String.toList_inj.1 ((hs.slice_eq hname).symm.trans (ht.slice_eq hname))

/-- A match that names a symbol is not empty. -/
theorem Placed.start_lt_stop (h : m.Placed text) (hs : m.Names text s) : m.start < m.stop := by
  obtain ⟨hne, pre, post, -, hname⟩ := hs
  obtain ⟨-, -, hstart, -, hstop⟩ := h.name _ _ hname
  have hpos : s.toList.length ≤ byteLength s.toList := Text.length_le_byteLength _
  have hlength := List.length_pos_iff.2 hne
  omega

/-- **A match declares exactly the symbol that it names**, with its own span. -/
theorem Placed.declaration?_eq_some_iff (h : m.Placed text) (doc : Path) {sp : Span} :
    Extractor.declaration? doc text m = some (s, sp)
      ↔ m.Names text s ∧ sp = m.span doc text := by
  constructor
  · intro hdecl
    cases hname : m.name with
    | none => exact absurd hdecl (by simp [Extractor.declaration?, hname])
    | some ab =>
      obtain ⟨a, b⟩ := ab
      obtain ⟨pre, part, post, rfl, rfl, rfl⟩ := h.exists_name hname
      have hslice := Grammar.slice_append pre part post
      have hne : part ≠ [] := by
        rintro rfl
        unfold Extractor.declaration? at hdecl
        rw [hname] at hdecl
        dsimp only at hdecl
        rw [hslice] at hdecl
        exact absurd hdecl (by simp)
      rw [Grammar.declaration?_of_slice doc hname hslice hne] at hdecl
      obtain ⟨rfl, rfl⟩ := Prod.mk.inj (Option.some.inj hdecl)
      refine ⟨⟨?_, pre, post, ?_, ?_⟩, rfl⟩
      · rwa [String.toList_ofList]
      · rw [String.toList_ofList]
      · rw [String.toList_ofList, hname]
  · rintro ⟨hnames, rfl⟩
    obtain ⟨hne, pre, post, -, hname⟩ := id hnames
    rw [Grammar.declaration?_of_slice doc hname (hnames.slice_eq hname) hne,
      String.ofList_toList]
    rfl

end Pattern.Match

/-! ## Extracted spans -/

/-- **A span in its place**: a part of the text between two boundaries, not empty,
with the positions of its ends in order. -/
structure Span.Placed (text : List Char) (span : Span) : Prop where
  first : Boundary text span.first
  past : Boundary text span.past
  lt : span.first < span.past
  start : span.start = positionAt text span.first
  stop : span.stop = positionAt text span.past
  order : compare span.start span.stop = .lt

/-- **One span is before another**, by its bytes and by its position. -/
def Span.Before (p q : Span) : Prop := p.past ≤ q.first ∧ compare p.start q.start = .lt

theorem Span.Before.start_ne {p q : Span} (h : p.Before q) : p.start ≠ q.start := by
  intro heq
  have hlt := h.2
  rw [heq] at hlt
  exact absurd (hlt.symm.trans Std.ReflCmp.compare_self) (by simp)

/-- What ends before another span begins has the earlier position. -/
theorem Span.Placed.before {text : List Char} {p q : Span} (hp : p.Placed text)
    (hshort : byteLength text < UInt32.size) (hq : q.Placed text) (hle : p.past ≤ q.first) :
    p.Before q := by
  refine ⟨hle, ?_⟩
  rw [hp.start, hq.start]
  exact Text.compare_positionAt_of_lt hshort hp.first hq.first (hp.lt.trans_le hle)

namespace Extractor

variable {x : Extractor} {doc : Path} {text s t : String} {p q span : Span}

/-- **The span of a symbol is that of the last match that names it.** -/
theorem get?_extract_eq_some_iff :
    (x.extract doc text).get? s = some span
      ↔ ∃ early m late, x.pattern.matches text.toList = early ++ m :: late
        ∧ m.Names text.toList s ∧ (∀ m' ∈ late, ¬ m'.Names text.toList s)
        ∧ span = m.span doc text.toList := by
  have hplaced := (x.pattern.inOrder_matches text.toList).placed
  constructor
  · intro h
    obtain ⟨m, early, late, hmatches, hdecl, hlate⟩ := exists_keeps h
    rw [hmatches] at hplaced
    obtain ⟨hnames, rfl⟩ := ((hplaced m (by simp)).declaration?_eq_some_iff doc).1 hdecl
    refine ⟨early, m, late, hmatches, hnames, fun m' hm' hnames' => ?_, rfl⟩
    have hdecl' := ((hplaced m' (by simp [hm'])).declaration?_eq_some_iff doc).2 ⟨hnames', rfl⟩
    exact hlate m' hm' _ hdecl'
  · rintro ⟨early, m, late, hmatches, hnames, hlate, rfl⟩
    rw [hmatches] at hplaced
    have hdecl := ((hplaced m (by simp)).declaration?_eq_some_iff doc).2 ⟨hnames, rfl⟩
    refine Table.get?_ofList_eq_some_iff.2
      ⟨early.filterMap (declaration? doc text.toList), late.filterMap (declaration? doc text.toList),
        ?_, fun e he hsymbol => ?_⟩
    · show (x.pattern.matches text.toList).filterMap _ = _
      rw [hmatches, List.filterMap_append, List.filterMap_cons_some hdecl]
    · obtain ⟨m', hm', hdecl'⟩ := List.mem_filterMap.1 he
      obtain ⟨e, sp⟩ := e
      obtain rfl : e = s := hsymbol
      exact hlate m' hm' (((hplaced m' (by simp [hm'])).declaration?_eq_some_iff doc).1 hdecl').1

theorem exists_match_of_extract (h : (x.extract doc text).get? s = some span) :
    ∃ m ∈ x.pattern.matches text.toList, m.Names text.toList s ∧ span = m.span doc text.toList := by
  obtain ⟨early, m, late, hmatches, hnames, -, hspan⟩ := get?_extract_eq_some_iff.1 h
  exact ⟨m, by rw [hmatches]; simp, hnames, hspan⟩

theorem placed_of_extract (hshort : byteLength text.toList < UInt32.size)
    (h : (x.extract doc text).get? s = some span) : span.Placed text.toList := by
  obtain ⟨m, hm, hnames, rfl⟩ := exists_match_of_extract h
  have hplaced := (x.pattern.inOrder_matches text.toList).placed m hm
  have hlt := hplaced.start_lt_stop hnames
  exact ⟨hplaced.start, hplaced.stop, hlt, rfl, rfl,
    Text.compare_positionAt_of_lt hshort hplaced.start hplaced.stop hlt⟩

/-- Of the spans of two symbols one ends before the other begins. -/
theorem apart_of_extract (hne : s ≠ t) (hp : (x.extract doc text).get? s = some p)
    (hq : (x.extract doc text).get? t = some q) : p.past ≤ q.first ∨ q.past ≤ p.first := by
  obtain ⟨m, hm, hs, rfl⟩ := exists_match_of_extract hp
  obtain ⟨m', hm', ht, rfl⟩ := exists_match_of_extract hq
  have hdiff : m ≠ m' := by
    rintro rfl
    exact hne (hs.unique ht)
  have hsymm : Std.Symm fun a b : Pattern.Match => a.stop ≤ b.start ∨ b.stop ≤ a.start :=
    ⟨fun _ _ => Or.symm⟩
  have hapart : (x.pattern.matches text.toList).Pairwise
      fun a b => a.stop ≤ b.start ∨ b.stop ≤ a.start :=
    (x.pattern.inOrder_matches text.toList).apart.imp .inl
  exact hapart.forall hm hm' hdiff

/-- **The spans of two symbols are in order**, one way or the other. -/
theorem before_or_before (hshort : byteLength text.toList < UInt32.size) (hne : s ≠ t)
    (hp : (x.extract doc text).get? s = some p) (hq : (x.extract doc text).get? t = some q) :
    p.Before q ∨ q.Before p := by
  have hplaced := placed_of_extract hshort hp
  have hplaced' := placed_of_extract hshort hq
  exact (apart_of_extract hne hp hq).imp (hplaced.before hshort hplaced')
    (hplaced'.before hshort hplaced)

end Extractor

/-! ## Entries of a document -/

namespace Index

/-- The entries of a document in a listing, whatever its order, by where they
begin. -/
def inDocument (doc : Path) (listing : List Entry) : List Entry :=
  (listing.filter fun e => ownedBy doc e.span).mergeSort
    fun a b => (compare a.span.start b.span.start).isLE

theorem entriesIn_eq (i : Index) (doc : Path) : i.entriesIn doc = inDocument doc i.entries := rfl

theorem mem_inDocument {doc : Path} {listing : List Entry} {e : Entry} :
    e ∈ inDocument doc listing ↔ e ∈ listing ∧ ownedBy doc e.span = true := by
  unfold inDocument
  rw [List.mem_mergeSort, List.mem_filter]

theorem pairwise_inDocument (doc : Path) (listing : List Entry) :
    (inDocument doc listing).Pairwise
      fun a b => (compare a.span.start b.span.start).isLE = true :=
  pairwise_mergeSort_compare (fun e : Entry => e.span.start) _

/-- **Entries that begin at different places are listed in one way only.** -/
theorem inDocument_perm {doc : Path} {l l' : List Entry} (hperm : l.Perm l')
    (hdiff : ∀ a ∈ inDocument doc l, ∀ b ∈ inDocument doc l,
      compare a.span.start b.span.start = .eq → a = b) :
    inDocument doc l' = inDocument doc l := by
  have hsame : (inDocument doc l).Perm (inDocument doc l') :=
    (List.mergeSort_perm _ _).trans ((hperm.filter _).trans (List.mergeSort_perm _ _).symm)
  refine (List.Perm.eq_of_pairwise (fun a b ha hb hab hba => ?_) (pairwise_inDocument doc l)
    (pairwise_inDocument doc l') hsame).symm
  refine hdiff a ha b (hsame.mem_iff.2 hb) ?_
  exact Std.OrientedCmp.isLE_antisymm hab hba

theorem nodup_symbol_entriesIn (i : Index) (doc : Path) :
    ((i.entriesIn doc).map Entry.symbol).Nodup := by
  have hentries : (i.entries.map Entry.symbol).Nodup :=
    i.symbols_eq_map_entries ▸ i.table.nodup_keys
  exact ((List.mergeSort_perm _ _).map _).nodup_iff.2 (hentries.sublist (List.filter_sublist.map _))

/-- Right after a change a document owns exactly what it declares. -/
theorem mem_entriesIn_replaced (i : Index) {doc : Path} {found : Found}
    (hown : ∀ s span, found.bind (·.get? s) = some span → span.document = doc) (e : Entry) :
    e ∈ (i.replaced doc found).1.entriesIn doc
      ↔ found.bind (·.get? e.symbol) = some e.span := by
  rw [entriesIn_eq, mem_inDocument, mem_entries, get?_replaced, Option.or_eq_some_iff,
    Option.filter_eq_some_iff]
  constructor
  · rintro ⟨hdeclared | ⟨-, -, hother⟩, howned⟩
    · exact hdeclared
    · rw [howned] at hother
      exact absurd hother (by simp)
  · intro hdeclared
    refine ⟨.inl hdeclared, ?_⟩
    unfold ownedBy
    rw [hown _ _ hdeclared]
    exact doc.same_self

end Index

/-! ## The order of declarations -/

namespace Extractor

variable {x : Extractor} {src : Source} {doc : Path}

/-- Two entries that a document declares are the same or in order. -/
theorem eq_or_before {a b : Entry}
    (hshort : ∀ text, src.read doc = .ok text → byteLength text.toList < UInt32.size)
    (ha : x.declared? src doc a.symbol = some a.span)
    (hb : x.declared? src doc b.symbol = some b.span) :
    a = b ∨ a.span.Before b.span ∨ b.span.Before a.span := by
  obtain ⟨text, hread, hget⟩ := declared?_eq_some_iff.1 ha
  obtain ⟨text', hread', hget'⟩ := declared?_eq_some_iff.1 hb
  obtain rfl : text = text' := Except.ok.inj (hread.symm.trans hread')
  by_cases hsymbol : a.symbol = b.symbol
  · left
    obtain ⟨s, p⟩ := a
    obtain ⟨t, q⟩ := b
    obtain rfl : s = t := hsymbol
    exact congrArg (Entry.mk s) (Option.some.inj (ha.symm.trans hb))
  · exact .inr (before_or_before (hshort text hread) hsymbol hget hget')

end Extractor

namespace Workspace

variable (w : Workspace) (src : Source) (doc : Path)

/-- Right after a change the entries of a document are what it declares. -/
theorem mem_entriesIn_changed (e : Entry) :
    e ∈ (w.changed src doc).1.index.entriesIn doc
      ↔ w.extractor.declared? src doc e.symbol = some e.span :=
  w.index.mem_entriesIn_replaced (fun _ _ => Extractor.document_of_declared?) e

variable {src doc}
  (hshort : ∀ text, src.read doc = .ok text → byteLength text.toList < UInt32.size)

include hshort

/-- They strictly ascend, in the order of the text. -/
theorem pairwise_entriesIn_changed :
    ((w.changed src doc).1.index.entriesIn doc).Pairwise fun a b => a.span.Before b.span := by
  have hdiff := List.pairwise_map.1 ((w.changed src doc).1.index.nodup_symbol_entriesIn doc)
  have hsorted := Index.pairwise_inDocument doc (w.changed src doc).1.index.entries
  refine (hsorted.and hdiff).imp_of_mem fun {a b} ha hb hab => ?_
  obtain ⟨hle, hne⟩ := hab
  have hdeclared := (w.mem_entriesIn_changed src doc a).1 ha
  have hdeclared' := (w.mem_entriesIn_changed src doc b).1 hb
  rcases Extractor.eq_or_before hshort hdeclared hdeclared' with rfl | hbefore | hbehind
  · exact absurd rfl hne
  · exact hbefore
  · rw [Std.OrientedCmp.gt_of_lt hbehind.2] at hle
    exact absurd hle (by simp)

/-- **Neither the order of placing nor that of listing shows.** -/
theorem inDocument_changed {order : List (String × Span)} {listing : List Entry}
    (horder : order.Perm ((w.extractor.look src doc).getD ∅).toList)
    (hlisting : listing.Perm ((w.index.retain doc ((w.extractor.look src doc).getD ∅)).1.mergeList
      doc order).1.entries) :
    Index.inDocument doc listing = (w.changed src doc).1.index.entriesIn doc := by
  have htable := (w.index.retain doc ((w.extractor.look src doc).getD ∅)).1.table_merge doc horder
  have hentries : listing.Perm (w.changed src doc).1.index.entries := by
    refine hlisting.trans (List.Perm.of_eq ?_)
    unfold Index.entries
    rw [← htable]
    rfl
  refine Index.inDocument_perm hentries.symm fun a ha b hb heq => ?_
  have hdeclared := (w.mem_entriesIn_changed src doc a).1 ha
  have hdeclared' := (w.mem_entriesIn_changed src doc b).1 hb
  rcases Extractor.eq_or_before hshort hdeclared hdeclared' with hab | hbefore | hbehind
  · exact hab
  · rw [hbefore.2] at heq
    exact absurd heq (by simp)
  · rw [Std.OrientedCmp.gt_of_lt hbehind.2] at heq
    exact absurd heq (by simp)

end Workspace

/-- **What a pattern extracts is in the order of the text.** For every pattern and
every text of less than 2³² bytes the span of a symbol is that of the last match
that names it, it lies in its place and is not empty, and the spans of two
symbols are apart and in order. So right after a document has changed its entries
are exactly what it declares, strictly ascending in the order of the text,
whatever order the declarations were placed in and the entries are listed in. -/
theorem Extractor.extract_ordered (x : Extractor) (doc : Path) :
    (∀ text : String, byteLength text.toList < UInt32.size →
      (∀ s span, (x.extract doc text).get? s = some span
        ↔ ∃ early m late, x.pattern.matches text.toList = early ++ m :: late
          ∧ m.Names text.toList s ∧ (∀ m' ∈ late, ¬ m'.Names text.toList s)
          ∧ span = m.span doc text.toList)
      ∧ (∀ s span, (x.extract doc text).get? s = some span → span.Placed text.toList)
      ∧ ∀ s t p q, s ≠ t → (x.extract doc text).get? s = some p →
          (x.extract doc text).get? t = some q →
          p.start ≠ q.start ∧ (p.Before q ∨ q.Before p))
    ∧ ∀ (w : Workspace) (src : Source), w.extractor = x →
        (∀ text, src.read doc = .ok text → byteLength text.toList < UInt32.size) →
        (∀ e, e ∈ (w.changed src doc).1.index.entriesIn doc
          ↔ x.declared? src doc e.symbol = some e.span)
        ∧ ((w.changed src doc).1.index.entriesIn doc).Pairwise (fun a b => a.span.Before b.span)
        ∧ ∀ order listing, order.Perm ((x.look src doc).getD ∅).toList →
            listing.Perm ((w.index.retain doc ((x.look src doc).getD ∅)).1.mergeList doc
              order).1.entries →
            Index.inDocument doc listing = (w.changed src doc).1.index.entriesIn doc := by
  refine ⟨fun text hshort => ⟨fun s span => Extractor.get?_extract_eq_some_iff,
    fun s span => Extractor.placed_of_extract hshort, fun s t p q hne hp hq => ?_⟩, ?_⟩
  · have hbefore := Extractor.before_or_before hshort hne hp hq
    exact ⟨hbefore.elim Span.Before.start_ne fun h => h.start_ne.symm, hbefore⟩
  · rintro w src rfl hshort
    exact ⟨w.mem_entriesIn_changed src doc, w.pairwise_entriesIn_changed hshort,
      fun order listing horder hlisting => w.inDocument_changed hshort horder hlisting⟩

/-- A word, which may be empty, and what closes it: `([a-z]*)[\n;]*`. -/
def Extractor.closedWords : Extractor where
  source := "([a-z]*)[\\n;]*"
  pattern := .seq (.group 1 (.rep 0 none true (.one ⟨[(0x61, 0x7A)]⟩)))
    (.rep 0 none true (.one ⟨[(0x0A, 0x0A), (0x3B, 0x3B)]⟩))

/-- A workspace whose document is about to be edited. -/
def Workspace.beforeEdit : Workspace :=
  ((empty .closedWords default 0).changed (sole "y;b;") ⟨"a.dec"⟩).1

/-- A match over two lines, one without a name, a name that occurs twice, and
matches that touch each other. -/
theorem Extractor.extract_ordered_closedWords :
    byteLength "z;\nb𝔸;b\na;".toList < UInt32.size
      ∧ (closedWords.extract ⟨"a.dec"⟩ "z;\nb𝔸;b\na;").toList
        = [("a", ⟨⟨"a.dec"⟩, ⟨2, 0⟩, ⟨2, 2⟩, 11, 13⟩), ("b", ⟨⟨"a.dec"⟩, ⟨1, 4⟩, ⟨2, 0⟩, 9, 11⟩),
          ("z", ⟨⟨"a.dec"⟩, ⟨0, 0⟩, ⟨1, 0⟩, 0, 3⟩)]
      ∧ Span.Placed "z;\nb𝔸;b\na;".toList ⟨⟨"a.dec"⟩, ⟨1, 4⟩, ⟨2, 0⟩, 9, 11⟩
      ∧ (∀ e, e ∈ (Workspace.beforeEdit.changed (Workspace.sole "z;\nb𝔸;b\na;")
            ⟨"a.dec"⟩).1.index.entriesIn ⟨"a.dec"⟩
          ↔ (e.symbol, e.span) ∈ (closedWords.extract ⟨"a.dec"⟩ "z;\nb𝔸;b\na;").toList)
      ∧ ((Workspace.beforeEdit.changed (Workspace.sole "z;\nb𝔸;b\na;")
          ⟨"a.dec"⟩).1.index.entriesIn ⟨"a.dec"⟩).Pairwise (fun a b => a.span.Before b.span) := by
  have hshort : byteLength "z;\nb𝔸;b\na;".toList < UInt32.size := by decide
  have hfound : (closedWords.extract ⟨"a.dec"⟩ "z;\nb𝔸;b\na;").toList
      = [("a", ⟨⟨"a.dec"⟩, ⟨2, 0⟩, ⟨2, 2⟩, 11, 13⟩), ("b", ⟨⟨"a.dec"⟩, ⟨1, 4⟩, ⟨2, 0⟩, 9, 11⟩),
        ("z", ⟨⟨"a.dec"⟩, ⟨0, 0⟩, ⟨1, 0⟩, 0, 3⟩)] := by decide +kernel
  obtain ⟨htext, hchanged⟩ := extract_ordered closedWords ⟨"a.dec"⟩
  obtain ⟨hmem, hordered, -⟩ := hchanged Workspace.beforeEdit (Workspace.sole "z;\nb𝔸;b\na;") rfl
    fun text hread => Except.ok.inj hread ▸ hshort
  refine ⟨hshort, hfound, (htext _ hshort).2.1 "b" _ ?_, fun e => ?_, hordered⟩
  · rw [Table.get?_eq_some_iff, hfound]
    simp
  · rw [← Table.get?_eq_some_iff]
    exact hmem e

end PcdCatalog

import Mathlib.Data.List.Sort
import PcdCatalog.Proofs.TableLaws
import PcdCatalog.Workspace

/-!
# Laws of the symbol index

What merging, dropping and following a document do to an index, said through
two views only: the declaration of a symbol (`Index.get?`) and the number of
symbols (`Index.size`).

A merge puts what the document declares in front of what was there
(`get?_merge`), in whatever order it goes through it (`table_merge`); a removal
filters by owner (`get?_remove`), and so does the
purge of a changed document, except for the symbols that are about to be
merged again. Taken together the purge and the merge of a changed document
read as one step: what the document declares now, and behind it what other
documents own (`get?_replaced`).

The numbers balance: an update that adds `a` symbols and drops `r` takes an
index of size `n` to one of size `n + a - r` (`size_apply`).
-/

namespace PcdCatalog

/-! ## The order of a merge -/

namespace Ranking

variable (r : Ranking) (found : Declarations)

/-- To arrange is to sort by rank. -/
theorem arrange_eq :
    r.arrange found = found.toList.insertionSort fun a b => r a.1 ≤ r b.1 := by
  unfold arrange
  induction found.toList with
  | nil => rfl
  | cons e l ih =>
    have hplace : ∀ m, r.place e m = m.orderedInsert (fun a b => r a.1 ≤ r b.1) e := by
      intro m
      induction m with
      | nil => rfl
      | cons e' m ihm => rw [place, List.orderedInsert_cons, ihm]
    rw [List.foldr_cons, ih, hplace, List.insertionSort_cons]

/-- **A ranking puts the declarations into some order.** -/
theorem arrange_perm : (r.arrange found).Perm found.toList := by
  rw [arrange_eq]
  exact List.perm_insertionSort _ _

/-- No symbol comes twice. -/
theorem nodup_symbols_arrange : ((r.arrange found).map Prod.fst).Nodup :=
  ((r.arrange_perm found).map Prod.fst).nodup_iff.2 found.nodup_keys

theorem arrange_ascending : ascending.arrange found = found.toList := by
  rw [arrange_eq]
  exact List.Pairwise.insertionSort_eq (List.pairwise_of_forall fun _ _ => Nat.le_refl 0)

variable {found}

/-- **Every order is that of some ranking.** -/
theorem exists_arrange_eq {l : List (String × Span)} (h : l.Perm found.toList) :
    ∃ r : Ranking, r.arrange found = l := by
  have hnodup : (l.map Prod.fst).Nodup := (h.map Prod.fst).nodup_iff.2 found.nodup_keys
  let r : Ranking := fun s => (l.map Prod.fst).idxOf s
  have hlisted : l.Pairwise fun a b => r a.1 ≤ r b.1 := by
    refine List.pairwise_iff_getElem.2 fun m n hm hn hmn => ?_
    have hrank : ∀ k (hk : k < l.length), r l[k].1 = k := fun k hk => by
      have := hnodup.idxOf_getElem k (by simpa using hk)
      simpa [r] using this
    rw [hrank m hm, hrank n hn]
    exact Nat.le_of_lt hmn
  have hsorted : (r.arrange found).Pairwise fun a b => r a.1 ≤ r b.1 := by
    rw [arrange_eq]
    exact List.pairwise_insertionSort _ found.toList
  refine ⟨r, ((r.arrange_perm found).trans h.symm).eq_of_pairwise ?_ hsorted hlisted⟩
  intro a b ha hb hab hba
  have ha := ((r.arrange_perm found).trans h.symm).mem_iff.1 ha
  have hsymbol : a.1 = b.1 :=
    (List.idxOf_inj (List.mem_map_of_mem ha)).1 (Nat.le_antisymm hab hba)
  exact List.inj_on_of_nodup_map hnodup ha hb hsymbol

end Ranking

namespace Index

/-- The entries are what the index answers. -/
theorem mem_entries {i : Index} {e : Entry} : e ∈ i.entries ↔ i.get? e.symbol = some e.span := by
  unfold entries get?
  rw [List.mem_map, Table.get?_eq_some_iff]
  constructor
  · rintro ⟨⟨s, span⟩, hm, rfl⟩
    exact hm
  · exact fun hm => ⟨(e.symbol, e.span), hm, rfl⟩

/-! ## Merging -/

/-- Placing declarations inserts them one after the other. -/
theorem table_foldl_placed (doc : Path) (l : List (String × Span)) (acc : Index × MergeCounts) :
    (l.foldl (placed doc) acc).1.table
      = l.foldl (fun t e => t.insert e.1 e.2) acc.1.table := by
  induction l generalizing acc with
  | nil => rfl
  | cons e l ih =>
    rw [List.foldl_cons, List.foldl_cons, ih]
    rfl

/-- **Placing declarations in another order gives the same table.** -/
theorem table_mergeList_perm (i : Index) (doc : Path) {l l' : List (String × Span)}
    (hperm : l.Perm l') (hkeys : (l.map Prod.fst).Nodup) :
    (i.mergeList doc l).1.table = (i.mergeList doc l').1.table := by
  unfold mergeList
  rw [table_foldl_placed, table_foldl_placed]
  exact Table.foldl_insert_perm hperm hkeys i.table

/-- **The order of a merge does not show in the table.** -/
theorem table_merge (i : Index) (doc : Path) {found : Declarations} {l : List (String × Span)}
    (hl : l.Perm found.toList) :
    (i.merge doc found).1.table = (i.mergeList doc l).1.table := by
  have hperm : (i.arranged found).Perm l := (Ranking.arrange_perm _ found).trans hl.symm
  have hkeys : ((i.arranged found).map Prod.fst).Nodup := Ranking.nodup_symbols_arrange _ found
  calc (i.merge doc found).1.table
      = (i.arranged found).foldl (fun t e => t.insert e.1 e.2) i.table :=
        table_foldl_placed doc _ (i.advance, ⟨0, 0⟩)
    _ = l.foldl (fun t e => t.insert e.1 e.2) i.table :=
        Table.foldl_insert_perm hperm hkeys i.table
    _ = (i.mergeList doc l).1.table := (table_foldl_placed doc l (i, ⟨0, 0⟩)).symm

/-- Placing what a document declares, in any order, puts it in front. -/
theorem get?_mergeList (i : Index) (doc : Path) {found : Declarations} {l : List (String × Span)}
    (hl : l.Perm found.toList) (s : String) :
    (i.mergeList doc l).1.get? s = (found.get? s).or (i.get? s) := by
  unfold get?
  -- the order of the table itself is one of the orders
  rw [← i.table_mergeList_perm doc hl.symm found.nodup_keys, mergeList, table_foldl_placed,
    Table.get?_foldl_insert, Table.lookup_reverse s found.ascending]
  rfl

/-- **A merge puts the merged declarations in front.** -/
@[simp] theorem get?_merge (i : Index) (doc : Path) (found : Declarations) (s : String) :
    (i.merge doc found).1.get? s = (found.get? s).or (i.get? s) :=
  i.advance.get?_mergeList doc (Ranking.arrange_perm _ found) s

/-- Placing a list counts each of its declarations once. -/
theorem counts_foldl_placed (doc : Path) (l : List (String × Span)) (acc : Index × MergeCounts) :
    (l.foldl (placed doc) acc).2.added + (l.foldl (placed doc) acc).2.replaced
      = acc.2.added + acc.2.replaced + l.length := by
  induction l generalizing acc with
  | nil => rfl
  | cons e l ih =>
    rw [List.foldl_cons, ih, List.length_cons]
    have hone : (placed doc acc e).2.added + (placed doc acc e).2.replaced
        = acc.2.added + acc.2.replaced + 1 := by
      unfold placed
      split
      · exact (Nat.add_assoc _ _ _).symm
      · exact Nat.add_right_comm _ _ _
    omega

/-- Placing a list makes the index larger by the declarations counted as
new. -/
theorem size_foldl_placed (doc : Path) (l : List (String × Span)) (acc : Index × MergeCounts) :
    (l.foldl (placed doc) acc).1.size + acc.2.added
      = acc.1.size + (l.foldl (placed doc) acc).2.added := by
  induction l generalizing acc with
  | nil => rfl
  | cons e l ih =>
    have hrest := ih (placed doc acc e)
    have hsize : (placed doc acc e).1.size
        = if acc.1.table.contains e.1 then acc.1.size else acc.1.size + 1 :=
      Table.size_insert acc.1.table e.1 e.2
    have hadded : (placed doc acc e).2.added
        = if acc.1.table.contains e.1 then acc.2.added else acc.2.added + 1 := by
      unfold placed
      split <;> rfl
    rw [List.foldl_cons]
    cases hnew : acc.1.table.contains e.1 with
    | true =>
      rw [hnew, if_pos rfl] at hsize hadded
      omega
    | false =>
      rw [hnew, if_neg Bool.false_ne_true] at hsize hadded
      omega

/-- A merge makes the index larger by what it counts as new. -/
theorem size_merge (i : Index) (doc : Path) (found : Declarations) :
    (i.merge doc found).1.size = i.size + (i.merge doc found).2.added :=
  size_foldl_placed doc (i.arranged found) (i.advance, ⟨0, 0⟩)

/-- Every placed declaration is new or replaces one. -/
theorem counts_mergeList (i : Index) (doc : Path) {found : Declarations}
    {l : List (String × Span)} (hl : l.Perm found.toList) :
    (i.mergeList doc l).2.added + (i.mergeList doc l).2.replaced = found.size := by
  unfold mergeList
  rw [counts_foldl_placed, Nat.zero_add, Nat.zero_add]
  exact hl.length_eq

/-- **Every merged declaration is new or replaces one.** -/
theorem counts_merge (i : Index) (doc : Path) (found : Declarations) :
    (i.merge doc found).2.added + (i.merge doc found).2.replaced = found.size :=
  i.advance.counts_mergeList doc (Ranking.arrange_perm _ found)

/-- **Placing declarations in another order counts the same**: the index gets larger
by what is counted as new, and every declaration is counted. -/
theorem counts_mergeList_perm (i : Index) (doc : Path) {l l' : List (String × Span)}
    (hperm : l.Perm l') (hkeys : (l.map Prod.fst).Nodup) :
    (i.mergeList doc l).2 = (i.mergeList doc l').2 := by
  have hsize : (i.mergeList doc l).1.size = (i.mergeList doc l').1.size :=
    congrArg Table.size (i.table_mergeList_perm doc hperm hkeys)
  have hnew : (i.mergeList doc l).1.size + 0 = i.size + (i.mergeList doc l).2.added :=
    size_foldl_placed doc l (i, ⟨0, 0⟩)
  have hnew' : (i.mergeList doc l').1.size + 0 = i.size + (i.mergeList doc l').2.added :=
    size_foldl_placed doc l' (i, ⟨0, 0⟩)
  have hall : (i.mergeList doc l).2.added + (i.mergeList doc l).2.replaced = 0 + 0 + l.length :=
    counts_foldl_placed doc l (i, ⟨0, 0⟩)
  have hall' : (i.mergeList doc l').2.added + (i.mergeList doc l').2.replaced
      = 0 + 0 + l'.length := counts_foldl_placed doc l' (i, ⟨0, 0⟩)
  have hlength := hperm.length_eq
  have hadded : (i.mergeList doc l).2.added = (i.mergeList doc l').2.added := by omega
  have hreplaced : (i.mergeList doc l).2.replaced = (i.mergeList doc l').2.replaced := by omega
  exact congrArg₂ MergeCounts.mk hadded hreplaced

/-! ## Dropping -/

@[simp] theorem get?_retain (i : Index) (doc : Path) (keep : Declarations) (s : String) :
    (i.retain doc keep).1.get? s
      = (i.get? s).filter (fun span => !ownedBy doc span || keep.contains s) :=
  Table.get?_filter _ i.table s

@[simp] theorem get?_remove (i : Index) (doc : Path) (s : String) :
    (i.remove doc).1.get? s = (i.get? s).filter (fun span => !ownedBy doc span) :=
  Table.get?_filter _ i.table s

/-- A purge drops as many symbols as it says. -/
theorem size_retain (i : Index) (doc : Path) (keep : Declarations) :
    (i.retain doc keep).1.size + (i.retain doc keep).2 = i.size :=
  Nat.add_sub_cancel' (Table.size_filter_le _ i.table)

/-- A removal drops as many symbols as it says. -/
theorem size_remove (i : Index) (doc : Path) :
    (i.remove doc).1.size + (i.remove doc).2 = i.size :=
  Nat.add_sub_cancel' (Table.size_filter_le _ i.table)

/-! ## Ownership -/

/-- **A document owns something exactly when an entry is its own.** -/
theorem owns_iff (i : Index) (doc : Path) :
    i.owns doc = true ↔ ∃ s span, i.get? s = some span ∧ ownedBy doc span = true := by
  unfold owns Table.values get?
  rw [List.any_map, List.any_eq_true]
  constructor
  · rintro ⟨⟨s, span⟩, hm, ho⟩
    exact ⟨s, span, i.table.get?_eq_some_iff.2 hm, ho⟩
  · rintro ⟨s, span, hg, ho⟩
    exact ⟨(s, span), i.table.get?_eq_some_iff.1 hg, ho⟩

/-- Dropping what a document owns drops nothing if it owns nothing. -/
theorem filter_get?_of_not_owns {i : Index} {doc : Path} (h : i.owns doc = false) (s : String) :
    (i.get? s).filter (fun span => !ownedBy doc span) = i.get? s := by
  cases hs : i.get? s with
  | none => rfl
  | some span =>
    cases ho : ownedBy doc span with
    | false => exact Option.filter_some_pos (by rw [ho]; rfl)
    | true =>
      have howns : i.owns doc = true := (owns_iff i doc).2 ⟨s, span, hs, ho⟩
      rw [h] at howns
      exact absurd howns Bool.false_ne_true

/-! ## Updates -/

@[simp] theorem get?_merged (i : Index) (doc : Path) (found : Declarations) (s : String) :
    (i.merged doc found).1.get? s = (found.get? s).or (i.get? s) :=
  get?_merge i doc found s

/-- A new document puts what it declares in front, and nothing if it cannot
be read. -/
theorem get?_mergedOrFailed (i : Index) (doc : Path) (found : Found) (s : String) :
    (i.mergedOrFailed doc found).1.get? s = (found.bind (·.get? s)).or (i.get? s) := by
  cases found with
  | none => rfl
  | some found => exact get?_merge i doc found s

/-- **The net effect of a change**: what the document declares now, and behind
it what other documents own. The purge spares the symbols that the document
still declares, but these are merged over anyway. -/
theorem get?_replaced (i : Index) (doc : Path) (found : Found) (s : String) :
    (i.replaced doc found).1.get? s
      = (found.bind (·.get? s)).or ((i.get? s).filter (fun span => !ownedBy doc span)) := by
  show (((i.retain doc (found.getD ∅)).1).merge doc (found.getD ∅)).1.get? s = _
  rw [get?_merge, get?_retain, ← Table.get?_getD_empty found]
  cases hs : (found.getD ∅).get? s with
  | some span => rfl
  | none =>
    have hkeep : (found.getD ∅).contains s = false := by
      unfold Table.contains
      rw [hs]
      rfl
    simp only [hkeep, Bool.or_false]

/-- A deleted document leaves what other documents own. -/
theorem get?_removed (i : Index) (doc : Path) (s : String) :
    (i.removed doc).1.get? s = (i.get? s).filter (fun span => !ownedBy doc span) :=
  get?_remove i doc s

end Index

namespace Update

/-- **The numbers of an update balance**: what it adds and what it drops make up
the difference in size. -/
theorem size_apply (u : Update) (doc : Path) (found : Found) (i : Index) :
    (u.apply doc found i).1.size + (u.apply doc found i).2.removed
      = i.size + (u.apply doc found i).2.added := by
  cases u with
  | created =>
    cases found with
    | none => rfl
    | some found => exact Index.size_merge i doc found
  | changed =>
    have hm := (i.retain doc (found.getD ∅)).1.size_merge doc (found.getD ∅)
    have hr := i.size_retain doc (found.getD ∅)
    show ((i.retain doc (found.getD ∅)).1.merge doc (found.getD ∅)).1.size
        + (i.retain doc (found.getD ∅)).2
      = i.size + ((i.retain doc (found.getD ∅)).1.merge doc (found.getD ∅)).2.added
    omega
  | deleted => exact Index.size_remove i doc

/-- **What was found is counted**: every declaration that an update has read is
new or replaces one. -/
theorem added_add_updated_apply {u : Update} (hu : u ≠ .deleted) (doc : Path) (found : Found)
    (i : Index) :
    (u.apply doc found i).2.added + (u.apply doc found i).2.updated = (found.getD ∅).size := by
  cases u with
  | created =>
    cases found with
    | none => rfl
    | some found => exact i.counts_merge doc found
  | changed => exact (i.retain doc (found.getD ∅)).1.counts_merge doc (found.getD ∅)
  | deleted => exact absurd rfl hu

/-- **An update in closed form**: what it found stands in front of what was there,
less what the document owned, unless the document is new. -/
theorem get?_apply_look (u : Update) (x : Extractor) (src : Source) (doc : Path) (i : Index)
    (s : String) :
    (u.apply doc (u.look x src doc) i).1.get? s
      = ((u.look x src doc).bind (·.get? s)).or
          ((i.get? s).filter fun span => decide (u = .created) || !Index.ownedBy doc span) := by
  cases u with
  | created =>
    have hall : (i.get? s).filter
        (fun span => decide (created = created) || !Index.ownedBy doc span) = i.get? s := by
      cases i.get? s <;> rfl
    rw [hall]
    exact Index.get?_mergedOrFailed i doc _ s
  | changed => exact Index.get?_replaced i doc _ s
  | deleted => exact Index.get?_removed i doc s

/-- An update reports an error exactly when it had to read and could not. -/
theorem errors_apply_look (u : Update) (x : Extractor) (src : Source) (doc : Path) (i : Index) :
    (u.apply doc (u.look x src doc) i).2.errors
      = if u ≠ .deleted ∧ x.look src doc = none then 1 else 0 := by
  cases u with
  | created =>
    show (i.mergedOrFailed doc (x.look src doc)).2.errors = _
    cases x.look src doc <;> simp [Index.mergedOrFailed, Index.merged]
  | changed =>
    show (i.replaced doc (x.look src doc)).2.errors = _
    cases x.look src doc <;> simp [Index.replaced]
  | deleted => rfl

end Update

/-! ## One document of a build -/

namespace Workspace

variable {x : Extractor} {src : Source} {doc : Path}

/-- What is read of a document that can be read is merged. -/
theorem absorb_of_look {found : Declarations} (h : x.look src doc = some found)
    (acc : Index × UpdateCounts) :
    absorb x src acc doc = ((acc.1.merge doc found).1, acc.2 + (acc.1.merged doc found).2) := by
  unfold absorb
  rw [h]
  rfl

/-- One that cannot be read leaves the index alone. -/
theorem absorb_of_unread (h : x.look src doc = none) (acc : Index × UpdateCounts) :
    absorb x src acc doc = (acc.1, acc.2 + { documents := 1, errors := 1 }) := by
  unfold absorb
  rw [h]
  rfl

end Workspace

end PcdCatalog

import Mathlib.Data.List.Forall2
import PcdCatalog.Proofs.MergeOrder

/-!
# The orders in which a build goes through declarations

A build merges one document after the other, and for each of them there is an order
in which the merge goes through what the document declares. Two builds over the same
documents need not come upon the same orders. What they make is the same table with
the same counts, because no merge shows its order there. Their logs tell the same
story document by document: the handovers of a document are the same ones in both,
but they may come in another order (`Extractor.handoversBy`). As long as the log has
room for the whole story that is all the difference there is. Past the limit the end
of the story is remembered, and the two stories may end with different handovers.
-/

namespace PcdCatalog

/-! ## One merge from one table -/

namespace Index

/-- A run of notes moves the window over all of them. -/
theorem foldl_note_rtake (limit : Nat) (history new : List Handover) :
    new.foldl (note limit) (history.rtake limit) = (history ++ new).rtake limit := by
  induction new using List.reverseRecOn with
  | nil => rw [List.append_nil]; rfl
  | append_singleton new h ih =>
    rw [List.foldl_concat, ih, note_rtake, List.append_assoc]

variable (i : Index) (doc : Path) (found : Declarations)

/-- **A merge notes its handovers** in the order in which it goes through its
symbols. -/
theorem handovers_merge :
    (i.merge doc found).1.handovers = (i.handoversOf doc found).foldl (note i.limit) i.handovers :=
  i.advance.handovers_mergeList doc (Ranking.arrange_perm (i.rankings 0) found)

theorem limit_merge : (i.merge doc found).1.limit = i.limit :=
  limit_foldl_placed doc (i.arranged found) (i.advance, ⟨0, 0⟩)

/-- The handovers of a merge go to the declarations that are merged. -/
theorem replacement_of_mem_handoversOf {h : Handover} (hmem : h ∈ i.handoversOf doc found) :
    found.get? h.symbol = some h.replacement := by
  obtain ⟨e, he, hh⟩ := List.mem_filterMap.1 hmem
  obtain ⟨hsymbol, hreplacement, -⟩ := handover?_eq_some_iff.1 hh
  rw [hsymbol, hreplacement]
  exact found.get?_eq_some_iff.2 ((Ranking.arrange_perm (i.rankings 0) found).mem_iff.1 he)

variable {i} {j : Index}

/-- **From one table the handovers of a merge are the same ones**, whatever its
order. -/
theorem handoversOf_perm (h : i.table = j.table) :
    (i.handoversOf doc found).Perm (j.handoversOf doc found) := by
  have hhandover : ∀ s span, i.handover? doc s span = j.handover? doc s span := by
    intro s span
    unfold handover?
    rw [h]
  unfold handoversOf
  simp only [hhandover]
  exact ((Ranking.arrange_perm _ found).trans (Ranking.arrange_perm _ found).symm).filterMap _

/-- **From one table a merge makes one table and counts the same**, whatever its
order. -/
theorem merge_congr (h : i.table = j.table) :
    (i.merge doc found).1.table = (j.merge doc found).1.table
      ∧ (i.merge doc found).2 = (j.merge doc found).2 := by
  have hget : ∀ s, i.get? s = j.get? s := fun s => congrArg (Table.get? · s) h
  have hcontains : ∀ s, i.contains s = j.contains s := fun s => congrArg (Table.contains · s) h
  have hadded : (i.merge doc found).2.added = (j.merge doc found).2.added := by
    rw [added_merge, added_merge]
    simp only [hcontains]
  have hreplaced : (i.merge doc found).2.replaced = (j.merge doc found).2.replaced := by
    have hall := i.counts_merge doc found
    have hall' := j.counts_merge doc found
    omega
  refine ⟨Table.ext_get? fun s => ?_, congrArg₂ MergeCounts.mk hadded hreplaced⟩
  show (i.merge doc found).1.get? s = (j.merge doc found).1.get? s
  rw [get?_merge, get?_merge, hget]

end Index

/-! ## Documents one after the other -/

namespace Extractor

/-- **The handovers of reading documents one after the other**, document by document:
of each that can be read, those of its merge. -/
def handoversBy (x : Extractor) (src : Source) : Index → List Path → List (List Handover)
  | _, [] => []
  | i, doc :: docs =>
    match x.look src doc with
    | none => x.handoversBy src i docs
    | some found => i.handoversOf doc found :: x.handoversBy src (i.merge doc found).1 docs

variable (x : Extractor) (src : Source)

theorem handoversBy_cons_none {doc : Path} (h : x.look src doc = none) (i : Index)
    (docs : List Path) : x.handoversBy src i (doc :: docs) = x.handoversBy src i docs := by
  rw [handoversBy, h]

theorem handoversBy_cons_some {doc : Path} {found : Declarations}
    (h : x.look src doc = some found) (i : Index) (docs : List Path) :
    x.handoversBy src i (doc :: docs)
      = i.handoversOf doc found :: x.handoversBy src (i.merge doc found).1 docs := by
  rw [handoversBy, h]

/-- There is a part for every document that can be read, and its handovers go to that
document. -/
theorem forall₂_handoversBy (i : Index) (docs : List Path) :
    List.Forall₂ (fun doc told => ∀ h ∈ told, h.replacement.document = doc)
      (docs.filter fun doc => !src.unreadable doc) (x.handoversBy src i docs) := by
  induction docs generalizing i with
  | nil => exact .nil
  | cons doc docs ih =>
    cases hlook : x.look src doc with
    | none =>
      have hskip : src.unreadable doc = true := (x.look_eq_none_iff src doc).1 hlook
      rw [x.handoversBy_cons_none src hlook, List.filter_cons_of_neg (by simp [hskip])]
      exact ih i
    | some found =>
      have hkeep : src.unreadable doc = false := by
        rw [Bool.eq_false_iff]
        intro hskip
        rw [(x.look_eq_none_iff src doc).2 hskip] at hlook
        exact absurd hlook (by simp)
      rw [x.handoversBy_cons_some src hlook, List.filter_cons_of_pos (by simp [hkeep])]
      refine .cons (fun h hmem => ?_) (ih _)
      have hdeclared : x.declared? src doc h.symbol = some h.replacement := by
        unfold declared?
        rw [hlook]
        exact i.replacement_of_mem_handoversOf doc found hmem
      exact document_of_declared? hdeclared

end Extractor

namespace Workspace

variable (x : Extractor) (src : Source)

/-- **Reading documents notes their handovers**, document by document. -/
theorem handovers_foldl_absorb (docs : List Path) (acc : Index × UpdateCounts) :
    (docs.foldl (absorb x src) acc).1.handovers
      = (x.handoversBy src acc.1 docs).flatten.foldl (Index.note acc.1.limit) acc.1.handovers := by
  induction docs generalizing acc with
  | nil => rfl
  | cons doc docs ih =>
    rw [List.foldl_cons, ih]
    cases hlook : x.look src doc with
    | none => rw [x.handoversBy_cons_none src hlook, absorb_of_unread hlook]
    | some found =>
      rw [x.handoversBy_cons_some src hlook, absorb_of_look hlook, List.flatten_cons,
        List.foldl_append, ← acc.1.handovers_merge, acc.1.limit_merge]

/-- **From one table, reading documents makes one table and counts the same**, and the
handovers of each document are the same ones. -/
theorem foldl_absorb_orders (docs : List Path) (acc acc' : Index × UpdateCounts)
    (htable : acc.1.table = acc'.1.table) (hcounts : acc.2 = acc'.2) :
    (docs.foldl (absorb x src) acc).1.table = (docs.foldl (absorb x src) acc').1.table
      ∧ (docs.foldl (absorb x src) acc).2 = (docs.foldl (absorb x src) acc').2
      ∧ List.Forall₂ List.Perm (x.handoversBy src acc.1 docs) (x.handoversBy src acc'.1 docs) := by
  induction docs generalizing acc acc' with
  | nil => exact ⟨htable, hcounts, .nil⟩
  | cons doc docs ih =>
    rw [List.foldl_cons, List.foldl_cons]
    cases hlook : x.look src doc with
    | none =>
      rw [x.handoversBy_cons_none src hlook, x.handoversBy_cons_none src hlook,
        absorb_of_unread hlook, absorb_of_unread hlook, hcounts]
      exact ih _ _ htable rfl
    | some found =>
      obtain ⟨hnext, hmerged⟩ := Index.merge_congr doc found htable
      have hnumbers : acc.2 + (acc.1.merged doc found).2 = acc'.2 + (acc'.1.merged doc found).2 := by
        rw [hcounts]
        exact congrArg (fun n : MergeCounts =>
          acc'.2 + { documents := 1, added := n.added, updated := n.replaced }) hmerged
      rw [x.handoversBy_cons_some src hlook, x.handoversBy_cons_some src hlook,
        absorb_of_look hlook, absorb_of_look hlook]
      obtain ⟨hlast, hall, htold⟩ :=
        ih ((acc.1.merge doc found).1, acc.2 + (acc.1.merged doc found).2)
          ((acc'.1.merge doc found).1, acc'.2 + (acc'.1.merged doc found).2) hnext hnumbers
      exact ⟨hlast, hall, .cons (Index.handoversOf_perm doc found htable) htold⟩

/-- **Two builds tell the same story**, whatever the orders of their merges. They make
the same table and count the same. The log of each is the end of a story that has a
part for every document that can be read, with the handovers to that document; and
the parts of the two stories are the same ones, each in one order or in another. -/
theorem build_orders (mode : CompletionMode) (limit : Nat) (rankings rankings' : Nat → Ranking) :
    ((empty x mode limit rankings).build src).1.index.table
        = ((empty x mode limit rankings').build src).1.index.table
      ∧ ((empty x mode limit rankings).build src).2 = ((empty x mode limit rankings').build src).2
      ∧ ∃ told told' : List (List Handover), List.Forall₂ List.Perm told told'
        ∧ List.Forall₂ (fun doc part => ∀ h ∈ part, h.replacement.document = doc)
          (src.documents.filter fun doc => !src.unreadable doc) told
        ∧ ((empty x mode limit rankings).build src).1.index.handovers = told.flatten.rtake limit
        ∧ ((empty x mode limit rankings').build src).1.index.handovers
          = told'.flatten.rtake limit := by
  have hlog : ∀ rankings, ((empty x mode limit rankings).build src).1.index.handovers
      = (x.handoversBy src (.empty limit rankings) src.documents).flatten.rtake limit := by
    intro rankings
    refine (handovers_foldl_absorb x src src.documents (.empty limit rankings, {})).trans ?_
    have hnotes := Index.foldl_note_rtake limit []
      (x.handoversBy src (.empty limit rankings) src.documents).flatten
    rwa [List.rtake_nil, List.nil_append] at hnotes
  obtain ⟨htable, hcounts, htold⟩ := foldl_absorb_orders x src src.documents
    (.empty limit rankings, {}) (.empty limit rankings', {}) rfl rfl
  exact ⟨htable, hcounts, _, _, htold, x.forall₂_handoversBy src _ _, hlog rankings, hlog rankings'⟩

end Workspace

end PcdCatalog

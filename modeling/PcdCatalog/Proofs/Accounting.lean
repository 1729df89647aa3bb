import PcdCatalog.Proofs.HandoverLog
import PcdCatalog.Proofs.Interleaving

/-!
# The counts account for every symbol

What an update counts is worked out in two places: what it drops is the
difference of two sizes, and what it adds is told by the merge, one declaration
after the other. Between the two, and between the read of a document and the act
on the index, other calls may change who owns what. Yet each count says what it
should of the index that the update finds when it acts (`Effect.Accounts`):

- dropped are the entries that its document owns there and does not declare any
  more (`Effect.dropped`), and no difference of sizes falls below zero;
- added are the symbols that it declares and that are new there (`Effect.fresh`),
  and together with the replaced ones they are all that it declares.

A symbol that stays is thus in neither list. And since both lists together make
up the difference in size, the sizes and the totals of a whole run balance, in
whatever order calls and builds act (`counts_account`), as long as the index is
not cleared.
-/

namespace PcdCatalog

/-! ## One merge and one purge -/

namespace Index

/-- Placing what a document declares, in any order, adds the symbols that are new. -/
theorem added_mergeList (i : Index) (doc : Path) {found : Declarations}
    {l : List (String × Span)} (hl : l.Perm found.toList) :
    (i.mergeList doc l).2.added = (found.keys.filter fun s => !i.contains s).length := by
  have hcounts := i.counts_mergeList doc hl
  have hkeys : (l.map Prod.fst).Nodup := (hl.map Prod.fst).nodup_iff.2 found.nodup_keys
  have hreplaced : (i.mergeList doc l).2.replaced = found.keys.countP i.contains := by
    refine (replaced_foldl_placed doc l (i, ⟨0, 0⟩)).trans ?_
    rw [overwrites_eq_filterMap hkeys, List.length_filterMap_eq_countP, Nat.zero_add]
    unfold Table.keys
    rw [List.countP_map, ← hl.countP_eq]
    refine List.countP_congr fun e _ => ?_
    simp [contains, Table.contains]
  have hall := List.length_eq_countP_add_countP i.contains (l := found.keys)
  rw [hreplaced] at hcounts
  rw [← List.countP_eq_length_filter]
  have hsize : found.keys.length = found.size := List.length_map _
  simp only [decide_not, Bool.decide_eq_true] at hall
  omega

/-- **A merge adds the symbols that are new.** -/
theorem added_merge (i : Index) (doc : Path) (found : Declarations) :
    (i.merge doc found).2.added = (found.keys.filter fun s => !i.contains s).length :=
  i.advance.added_mergeList doc (Ranking.arrange_perm _ found)

/-- A filter drops the entries that do not pass it. -/
theorem size_sub_size_filter (i : Index) (p : String → Span → Bool) :
    i.table.size - (i.table.filter p).size
      = (i.entries.filter fun n => !p n.symbol n.span).length := by
  have hall := List.length_eq_length_filter_add (l := i.table.toList) fun e => p e.1 e.2
  have hentries : (i.entries.filter fun n => !p n.symbol n.span).length
      = (i.table.toList.filter fun e => !p e.1 e.2).length := by
    unfold entries
    rw [List.filter_map, List.length_map]
    rfl
  rw [hentries]
  show i.table.toList.length - (i.table.toList.filter fun e => p e.1 e.2).length = _
  omega

/-- A purge keeps what is about to be merged. -/
theorem contains_retain (i : Index) (doc : Path) {keep : Declarations} {s : String}
    (hs : keep.contains s = true) : (i.retain doc keep).1.contains s = i.contains s := by
  show ((i.retain doc keep).1.get? s).isSome = (i.get? s).isSome
  rw [get?_retain]
  cases i.get? s <;> simp [Option.filter, hs]

end Index

/-! ## One effect -/

namespace Effect

/-- **The entries that an update drops** from the index that it finds. -/
def dropped (i : Index) (e : Effect) : List Entry :=
  match e.task.update with
  | .created => []
  | .changed => i.entries.filter fun n =>
      Index.ownedBy e.task.document n.span && !(e.found.getD ∅).contains n.symbol
  | .deleted => i.entries.filter fun n => Index.ownedBy e.task.document n.span

/-- **The symbols that an update adds** to the index that it finds. -/
def fresh (i : Index) (e : Effect) : List String :=
  match e.task.update with
  | .created | .changed => (e.found.getD ∅).keys.filter fun s => !i.contains s
  | .deleted => []

/-- The index between the two halves of an update: what it drops is gone, and
nothing is merged yet. -/
def purged (i : Index) (e : Effect) : Index :=
  match e.task.update with
  | .created => i
  | .changed => (i.retain e.task.document (e.found.getD ∅)).1
  | .deleted => (i.remove e.task.document).1

/-- **The counts of an update account for what it does** to the index that it
finds. -/
structure Accounts (i : Index) (e : Effect) : Prop where
  removed : e.counts.removed = (e.dropped i).length
  added : e.counts.added = (e.fresh i).length
  /-- Every declaration that was read is counted once. -/
  found : e.task.update ≠ .deleted → e.counts.added + e.counts.updated = (e.found.getD ∅).size
  /-- The difference of sizes that counts what is dropped is exact. -/
  purged : (e.purged i).size + e.counts.removed = i.size
  balance : (e.apply i).size + e.counts.removed = i.size + e.counts.added
  /-- What was there and is declared is neither dropped nor added. -/
  kept : e.task.update ≠ .deleted → ∀ s, i.contains s → (e.found.getD ∅).contains s →
    s ∉ e.fresh i ∧ ∀ n ∈ e.dropped i, n.symbol ≠ s

variable {i : Index} {e : Effect}

/-- What an update counts as removed is what it drops. -/
theorem removed_eq_length_dropped
    (h : e.counts = (e.task.update.apply e.task.document e.found i).2) :
    e.counts.removed = (e.dropped i).length := by
  obtain ⟨⟨id, u, doc⟩, found, counts⟩ := e
  obtain rfl : counts = (u.apply doc found i).2 := h
  cases u with
  | created => cases found <;> rfl
  | changed =>
    show i.table.size - (i.table.filter _).size = _
    rw [Index.size_sub_size_filter]
    simp [dropped]
  | deleted =>
    show i.table.size - (i.table.filter _).size = _
    rw [Index.size_sub_size_filter]
    simp [dropped]

/-- What an update counts as added is what is new. -/
theorem added_eq_length_fresh
    (h : e.counts = (e.task.update.apply e.task.document e.found i).2) :
    e.counts.added = (e.fresh i).length := by
  obtain ⟨⟨id, u, doc⟩, found, counts⟩ := e
  obtain rfl : counts = (u.apply doc found i).2 := h
  cases u with
  | created =>
    cases found with
    | none => rfl
    | some found => exact i.added_merge doc found
  | changed =>
    refine ((i.retain doc (found.getD ∅)).1.added_merge doc (found.getD ∅)).trans ?_
    show _ = ((found.getD ∅).keys.filter fun s => !i.contains s).length
    congr 1
    refine List.filter_congr fun s hs => ?_
    obtain ⟨span, hspan⟩ := Table.mem_keys.1 hs
    rw [Index.contains_retain i doc (Option.isSome_iff_exists.2 ⟨span, hspan⟩)]
  | deleted => rfl

/-- No difference of sizes falls below zero. -/
theorem size_purged_add_removed
    (h : e.counts = (e.task.update.apply e.task.document e.found i).2) :
    (e.purged i).size + e.counts.removed = i.size := by
  obtain ⟨⟨id, u, doc⟩, found, counts⟩ := e
  obtain rfl : counts = (u.apply doc found i).2 := h
  cases u with
  | created => cases found <;> rfl
  | changed => exact i.size_retain doc (found.getD ∅)
  | deleted => exact i.size_remove doc

/-- What is added was not there. -/
theorem not_mem_fresh {s : String} (hs : i.contains s = true) : s ∉ e.fresh i := by
  unfold fresh
  split <;> simp [hs]

/-- What is dropped is not declared. -/
theorem symbol_ne_of_mem_dropped (hu : e.task.update ≠ .deleted) {s : String}
    (hs : (e.found.getD ∅).contains s = true) {n : Entry} (hn : n ∈ e.dropped i) :
    n.symbol ≠ s := by
  rintro rfl
  unfold dropped at hn
  split at hn
  next => exact absurd hn List.not_mem_nil
  next => simp [hs] at hn
  next hdeleted => exact hu hdeleted

/-- **Every update accounts for what it does.** -/
theorem accounts (h : e.counts = (e.task.update.apply e.task.document e.found i).2) :
    e.Accounts i where
  removed := removed_eq_length_dropped h
  added := added_eq_length_fresh h
  found hu := by
    rw [h]
    exact Update.added_add_updated_apply hu e.task.document e.found i
  purged := size_purged_add_removed h
  balance := by
    rw [h]
    exact Update.size_apply e.task.update e.task.document e.found i
  kept hu _ hin hs := ⟨not_mem_fresh hin, fun _ => symbol_ne_of_mem_dropped hu hs⟩

end Effect

/-! ## Whole runs -/

namespace Activity

variable (x : Extractor) (i : Index) (src : Source) {steps : List Step}

/-- **Some step of a run is the one at which an effect acts**, on what one of the
sources before said, and its counts account for what it does there. -/
def AccountedIn (steps : List Step) (e : Effect) : Prop :=
  ∃ before a after, steps = before ++ a :: after
    ∧ ((start i src).run x (before ++ [a])).index = e.apply ((start i src).run x before).index
    ∧ ((start i src).run x (before ++ [a])).effects.Perm
        (e :: ((start i src).run x before).effects)
    ∧ e.LookedIn x (sources src before)
    ∧ e.Accounts ((start i src).run x before).index

variable {x i src} in
/-- A run that goes on has accounted for what it had accounted for. -/
theorem AccountedIn.concat {e : Effect} (h : AccountedIn x i src steps e) (a : Step) :
    AccountedIn x i src (steps ++ [a]) e := by
  obtain ⟨before, b, after, rfl, hacts⟩ := h
  refine ⟨before, b, after ++ [a], ?_, hacts⟩
  rw [List.append_assoc, List.cons_append]

/-- **Whatever has acted in a run has been accounted for.** -/
theorem accountedIn_run (h : .clear ∉ steps) :
    ∀ e ∈ ((start i src).run x steps).effects, AccountedIn x i src steps e := by
  induction steps using List.reverseRecOn with
  | nil => exact fun e he => absurd he List.not_mem_nil
  | append_singleton steps a ih =>
    rw [List.mem_append, not_or, List.mem_singleton] at h
    obtain ⟨hbefore, ha⟩ := h
    intro e he
    have hact := (heard_run x i src steps).act (Ne.symm ha)
    rw [← run_concat] at hact
    cases hact with
    | idle hindex heffects =>
      rw [heffects] at he
      exact (ih hbefore e he).concat a
    | acts e' hindex hcounts heffects hlooked =>
      obtain rfl | he := List.mem_cons.1 (heffects.mem_iff.1 he)
      · exact ⟨steps, a, [], rfl, hindex, heffects, hlooked, Effect.accounts hcounts⟩
      · exact (ih hbefore e he).concat a

/-- **Sizes and totals balance**: what is there in the end and what was removed is
what was there and what was added. -/
theorem size_run_add_total (h : .clear ∉ steps) :
    ((start i src).run x steps).index.size + ((start i src).run x steps).total UpdateCounts.removed
      = i.size + ((start i src).run x steps).total UpdateCounts.added := by
  refine run_induction (P := fun s => s.index.size + s.total UpdateCounts.removed
    = i.size + s.total UpdateCounts.added) rfl (fun seen s s' hs hact => ?_)
    fun hmem => absurd hmem h
  cases hact with
  | idle hindex heffects =>
    unfold total
    rw [hindex, heffects]
    exact hs
  | acts e hindex hcounts heffects hlooked =>
    have htotal : ∀ number : UpdateCounts → Nat,
        s'.total number = number e.counts + s.total number := fun number =>
      (heffects.map fun e : Effect => number e.counts).sum_eq.trans List.sum_cons
    have hbalance := (Effect.accounts hcounts).balance
    rw [hindex, htotal, htotal]
    omega

end Activity

/-! ## Updates issued together -/

namespace Workspace

/-- The counts that updates issued together return are those noted as they
complete, in the order of issue. -/
theorem counts_overlap_perm (w : Workspace) (src : Source) (ticks : Path → Nat)
    (updates : List (Update × Path)) :
    (w.overlap src ticks updates).2.Perm ((w.schedule src ticks updates).done.map Prod.snd) := by
  obtain ⟨order, hs⟩ := w.explained_schedule src ticks updates
  have hids : ((tasks updates).map Task.id).Perm
      ((w.schedule src ticks updates).done.map Prod.fst) := by
    have hperm := hs.perm.map Task.id
    rw [List.append_nil, ← w.map_fst_inTurn src, ← hs.done] at hperm
    exact hperm.symm
  have hnodup := hids.nodup_iff.1 (Schedule.nodup_id (pairwise_tasks updates))
  show ((tasks updates).map _).Perm _
  generalize (w.schedule src ticks updates).done = done at hids hnodup ⊢
  -- both sides look the counts of a number up among those noted
  have hcounts : done.map Prod.snd = (done.map Prod.fst).map fun id =>
      ((done.find? fun d => d.1 == id).map Prod.snd).getD {} := by
    rw [List.map_map]
    refine List.map_congr_left fun d hd => ?_
    show d.2 = ((done.find? fun e => e.1 == d.1).map Prod.snd).getD {}
    rw [find?_number hnodup hd]
    rfl
  rw [hcounts]
  have hmap := hids.map fun id => ((done.find? fun d => d.1 == id).map Prod.snd).getD {}
  rwa [List.map_map] at hmap

/-- **Updates issued together balance**, whatever their reads take. -/
theorem size_overlap_add_sum (w : Workspace) (src : Source) (ticks : Path → Nat)
    (updates : List (Update × Path)) :
    (w.overlap src ticks updates).1.index.size
        + ((w.overlap src ticks updates).2.map UpdateCounts.removed).sum
      = w.index.size + ((w.overlap src ticks updates).2.map UpdateCounts.added).sum := by
  obtain ⟨steps, log, -, hrun, hdone⟩ := w.schedule_interleaves src ticks updates
  have hclear : Activity.Step.clear ∉ steps.map Activity.Step.call := by simp
  have hbalance := Activity.size_run_add_total w.extractor w.index src hclear
  have hsum : ∀ number : UpdateCounts → Nat, ((w.overlap src ticks updates).2.map number).sum
      = (log.map fun e => number e.counts).sum := by
    intro number
    rw [((w.counts_overlap_perm src ticks updates).map number).sum_eq, ← hdone, List.map_map,
      List.map_map]
    rfl
  have hstate : (Activity.start w.index src).run w.extractor (steps.map .call)
      = ⟨⟨src, (w.schedule src ticks updates).index, (w.schedule src ticks updates).locks,
          tasks updates, [], log⟩, []⟩ := by
    rw [Activity.run_map_call, ← hrun]
    rfl
  have htotal : ∀ number : UpdateCounts → Nat,
      ((Activity.start w.index src).run w.extractor (steps.map .call)).total number
        = (log.map fun e => number e.counts).sum := by
    intro number
    rw [hstate]
    show ((log ++ []).map _).sum = _
    rw [List.append_nil]
  rw [hsum, hsum, ← htotal, ← htotal]
  rw [hstate] at hbalance ⊢
  exact hbalance

end Workspace

namespace Activity

/-- **The counts account for every symbol**, however calls and builds interleave
and whatever edits come between their steps, unless the index is cleared.

What is there in the end and what was removed make up what was there and what was
added; and whatever has acted has done so at some step, with counts that account
for it there. The same balance holds for operations one at a time, unless one of
them builds anew, and for updates issued together, whatever their reads take; and
the counts that an update returns account for what it does. -/
theorem counts_account :
    (∀ x i src steps, .clear ∉ steps →
      ((start i src).run x steps).index.size
          + ((start i src).run x steps).total UpdateCounts.removed
        = i.size + ((start i src).run x steps).total UpdateCounts.added
      ∧ ∀ e ∈ ((start i src).run x steps).effects, AccountedIn x i src steps e)
    ∧ (∀ w history, (∀ o ∈ history, o.2 ≠ .rebuild) →
      (Operation.runAll w history).index.size
          + ((countsAll w history).map UpdateCounts.removed).sum
        = w.index.size + ((countsAll w history).map UpdateCounts.added).sum)
    ∧ (∀ (w : Workspace) src ticks updates,
      (w.overlap src ticks updates).1.index.size
          + ((w.overlap src ticks updates).2.map UpdateCounts.removed).sum
        = w.index.size + ((w.overlap src ticks updates).2.map UpdateCounts.added).sum)
    ∧ ∀ (w : Workspace) src id u doc,
      Effect.Accounts w.index ⟨⟨id, u, doc⟩, u.look w.extractor src doc, (w.update src u doc).2⟩ := by
  refine ⟨fun x i src steps h => ⟨size_run_add_total x i src h, accountedIn_run x i src h⟩,
    fun w history h => ?_, Workspace.size_overlap_add_sum, fun w src id u doc => ?_⟩
  · obtain ⟨steps, hindex, hclear, htotal⟩ :=
      exists_run_runAll w ⟨[], fun _ => .error .missing⟩ history
    rw [← hindex, ← htotal _ additive_removed, ← htotal _ additive_added]
    exact size_run_add_total w.extractor w.index _ (hclear h)
  · exact Effect.accounts rfl

/-- A document that loses one symbol to another document and gives up a second one
for a third. -/
def early : Source where
  documents := [⟨"a.dec"⟩, ⟨"b.dec"⟩]
  read doc := if doc.text = "a.dec" then .ok "g.PcdA|1\ng.PcdB|1\ng.PcdC|1" else .ok "g.PcdA|1"

/-- The same documents later. -/
def late : Source where
  documents := [⟨"a.dec"⟩, ⟨"b.dec"⟩]
  read doc := if doc.text = "a.dec" then .ok "g.PcdB|1\ng.PcdD|1" else .error .missing

/-- A build reads both documents out of order, and between its merges the first
document is edited and read again. -/
def overtaken : List Step :=
  [.begin 2, .build 0 .fetch, .build 0 .fetch, .build 0 (.look 1), .build 0 (.look 0),
    .build 0 .merge, .call (.edit late), .call (.issue .changed ⟨"a.dec"⟩), .call (.read 0),
    .build 0 .merge, .call (.apply 0), .call (.release 0)]

theorem counts_account_overtaken :
    .clear ∉ overtaken
      ∧ ((start (.empty 4) early).run .ordinary overtaken).index.symbols = ["PcdA", "PcdB", "PcdD"]
      ∧ ((start (.empty 4) early).run .ordinary overtaken).effects.map Effect.counts
        = [⟨1, 1, 1, 1, 0⟩, ⟨1, 3, 0, 0, 0⟩, ⟨1, 0, 1, 0, 0⟩]
      ∧ ((start (.empty 4) early).run .ordinary overtaken).index.size
          + ((start (.empty 4) early).run .ordinary overtaken).total UpdateCounts.removed
        = (Index.empty 4).size
          + ((start (.empty 4) early).run .ordinary overtaken).total UpdateCounts.added
      ∧ (Operation.runAll default [(early, .build), (late, .changed ⟨"a.dec"⟩)]).index.size
          + ((countsAll default [(early, .build), (late, .changed ⟨"a.dec"⟩)]).map
              UpdateCounts.removed).sum
        = (default : Workspace).index.size
          + ((countsAll default [(early, .build), (late, .changed ⟨"a.dec"⟩)]).map
              UpdateCounts.added).sum := by
  have hclear : .clear ∉ overtaken := by simp [overtaken]
  refine ⟨hclear, by decide +kernel, by decide +kernel, ?_, ?_⟩
  · exact (counts_account.1 .ordinary (.empty 4) early overtaken hclear).1
  · exact counts_account.2.1 default _ (by simp)

end Activity

end PcdCatalog

import Mathlib.Data.List.Induction
import PcdCatalog.Change
import PcdCatalog.Proofs.IndexLaws
import PcdCatalog.Proofs.SourceLaws

/-!
# The effect of a batch of changes

While a batch of changes is followed, documents take symbols from each other
before their own change has its turn, so who owns what – and with it how a
creation is routed – shifts along the way. None of that is left at the end.
Where the documents of a batch are distinct, an entry is settled by the last
change that declares its symbol, and failing that by whether its old owner is
among the changed documents (`Event.settled`).

The reason is that one change already reads as a closed form
(`Workspace.get?_follow`), in which its route does not show: what the
document declares now stands in front of what other documents own. A span
belongs to the document it was extracted from, so what an earlier change of
the batch brought in is never dropped by a later one, only covered.
-/

namespace PcdCatalog

namespace Event

/-- What a change brings in under a symbol: the declaration of its document as
it reads now, unless the document is gone or cannot be read. -/
def declared? (x : Extractor) (src : Source) (e : Event) (s : String) : Option Span :=
  if e.kind = .deleted then none else x.declared? src e.path s

/-- Whether a change has to read its document and cannot. -/
def failed (src : Source) (e : Event) : Bool :=
  e.kind ≠ .deleted && src.unreadable e.path

/-- **What a batch settles under a symbol** that was `before`: the declaration of
the last change that has one, and otherwise the old entry, unless one of the
changed documents owned it. -/
def settled (x : Extractor) (src : Source) (changes : List Event) (before : Option Span)
    (s : String) : Option Span :=
  (changes.reverse.findSome? (fun e => e.declared? x src s)).or
    (before.filter (fun span => !changes.any (fun e => Index.ownedBy e.path span)))

/-- What a change brings in belongs to its document. -/
theorem document_of_declared? {x : Extractor} {src : Source} {e : Event} {s : String}
    {span : Span} (h : e.declared? x src s = some span) : span.document = e.path := by
  unfold declared? at h
  split at h
  · exact absurd h (by simp)
  · exact Extractor.document_of_declared? h

end Event

namespace ChangeCounts

/-- Files add up. -/
theorem totalFiles_add (a b : ChangeCounts) :
    (a + b).totalFiles = a.totalFiles + b.totalFiles := by
  show a.filesAdded + b.filesAdded + (a.filesModified + b.filesModified)
      + (a.filesDeleted + b.filesDeleted)
    = a.filesAdded + a.filesModified + a.filesDeleted
      + (b.filesAdded + b.filesModified + b.filesDeleted)
  omega

/-- A change is one file, of whatever kind it is. -/
theorem totalFiles_ofUpdate (kind : ChangeKind) (n : UpdateCounts) :
    (ofUpdate kind n).totalFiles = 1 := by
  cases kind <;> rfl

end ChangeCounts

namespace Workspace

/-! ## One change -/

/-- The counts of following a change are those of its update. -/
theorem follow_eq (w : Workspace) (src : Source) (e : Event) :
    w.follow src e
      = let u := e.kind.route (w.index.owns e.path)
        let r := u.apply e.path (u.look w.extractor src e.path) w.index
        ({ w with index := r.1 }, r.2) := rfl

/-- **One change in closed form.** The route does not show: a creation that is
treated as a change drops what the document owned, and one that is not had
nothing to drop. -/
theorem get?_follow (w : Workspace) (src : Source) (e : Event) (s : String) :
    (w.follow src e).1.index.get? s
      = (e.declared? w.extractor src s).or
          ((w.index.get? s).filter (fun span => !Index.ownedBy e.path span)) := by
  rw [follow_eq]
  unfold Event.declared?
  cases hk : e.kind with
  | modified => exact Index.get?_replaced w.index e.path _ s
  | deleted => exact Index.get?_removed w.index e.path s
  | created =>
    cases ho : w.index.owns e.path with
    | true => exact Index.get?_replaced w.index e.path _ s
    | false =>
      rw [Index.filter_get?_of_not_owns ho]
      exact Index.get?_mergedOrFailed w.index e.path _ s

/-- A change balances the size of the index. -/
theorem size_follow (w : Workspace) (src : Source) (e : Event) :
    (w.follow src e).1.index.size + (w.follow src e).2.removed
      = w.index.size + (w.follow src e).2.added :=
  Update.size_apply _ e.path _ w.index

/-- A change reports an error exactly when its document should be read and
cannot. -/
theorem errors_follow (w : Workspace) (src : Source) (e : Event) :
    (w.follow src e).2.errors = if e.failed src then 1 else 0 := by
  have hroute : e.kind.route (w.index.owns e.path) ≠ .deleted ↔ e.kind ≠ .deleted := by
    cases e.kind <;> cases w.index.owns e.path <;> simp [ChangeKind.route]
  rw [follow_eq]
  refine (Update.errors_apply_look _ w.extractor src e.path w.index).trans ?_
  refine if_congr ?_ rfl rfl
  rw [hroute, Extractor.look_eq_none_iff]
  simp [Event.failed]

/-! ## A batch -/

/-- The last change of a batch comes on top of the others. -/
theorem process_concat (w : Workspace) (src : Source) (changes : List Event) (e : Event) :
    w.process src (changes ++ [e]) = followCounted src (w.process src changes) e := by
  unfold process
  rw [List.foldl_append]
  rfl

@[simp] theorem extractor_process (w : Workspace) (src : Source) (changes : List Event) :
    (w.process src changes).1.extractor = w.extractor := by
  induction changes using List.reverseRecOn with
  | nil => rfl
  | append_singleton changes e ih =>
    rw [process_concat]
    exact ih

/-- **The entries after a batch** are the settled ones. -/
theorem get?_process (w : Workspace) (src : Source) {changes : List Event}
    (h : changes.Pairwise (fun a b => ¬ a.path.same b.path)) (s : String) :
    (w.process src changes).1.index.get? s
      = Event.settled w.extractor src changes (w.index.get? s) s := by
  induction changes using List.reverseRecOn with
  | nil =>
    show w.index.get? s = (w.index.get? s).filter (fun _ => true)
    cases w.index.get? s <;> rfl
  | append_singleton changes e ih =>
    obtain ⟨hinit, -, hlast⟩ := List.pairwise_append.1 h
    have hstep : (w.process src (changes ++ [e])).1.index.get? s
        = (e.declared? w.extractor src s).or
            ((Event.settled w.extractor src changes (w.index.get? s) s).filter
              (fun span => !Index.ownedBy e.path span)) := by
      rw [process_concat, ← ih hinit, ← extractor_process w src changes]
      exact get?_follow (w.process src changes).1 src e s
    rw [hstep]
    unfold Event.settled
    rw [List.reverse_append, List.reverse_singleton, List.singleton_append,
      List.findSome?_cons]
    cases he : e.declared? w.extractor src s with
    | some span => rfl
    | none =>
      cases hf : changes.reverse.findSome? (fun e => e.declared? w.extractor src s) with
      | some span =>
        -- brought in by an earlier change, hence owned by another document
        obtain ⟨e', hmem, hdecl⟩ := List.exists_of_findSome?_eq_some hf
        have hother : Index.ownedBy e.path span = false := by
          unfold Index.ownedBy
          rw [Event.document_of_declared? hdecl]
          exact eq_false_of_ne_true
            (hlast e' (List.mem_reverse.1 hmem) e (List.mem_singleton_self e))
        simp [Option.filter, hother]
      | none =>
        simp only [Option.none_or, Option.filter_filter, List.any_append, List.any_cons,
          List.any_nil, Bool.or_false, Bool.not_or, Bool.and_comm]

/-- A batch counts each of its changes once. -/
theorem totalFiles_process (w : Workspace) (src : Source) (changes : List Event) :
    (w.process src changes).2.totalFiles = changes.length := by
  induction changes using List.reverseRecOn with
  | nil => rfl
  | append_singleton changes e ih =>
    rw [process_concat, List.length_append, List.length_singleton, ← ih,
      ← ChangeCounts.totalFiles_ofUpdate e.kind ((w.process src changes).1.follow src e).2,
      ← ChangeCounts.totalFiles_add]
    rfl

/-- A batch reports one error for each document that it should read and
cannot. -/
theorem errors_process (w : Workspace) (src : Source) (changes : List Event) :
    (w.process src changes).2.errors = changes.countP (Event.failed src) := by
  induction changes using List.reverseRecOn with
  | nil => rfl
  | append_singleton changes e ih =>
    rw [process_concat, List.countP_append, List.countP_singleton, ← ih,
      ← errors_follow (w.process src changes).1 src e]
    rfl

/-- The sizes before and after a batch differ by what it adds and drops. -/
theorem size_process (w : Workspace) (src : Source) (changes : List Event) :
    (w.process src changes).1.index.size + (w.process src changes).2.symbolsRemoved
      = w.index.size + (w.process src changes).2.symbolsAdded := by
  induction changes using List.reverseRecOn with
  | nil => rfl
  | append_singleton changes e ih =>
    have hstep := size_follow (w.process src changes).1 src e
    rw [process_concat]
    show ((w.process src changes).1.follow src e).1.index.size
        + ((w.process src changes).2.symbolsRemoved
          + ((w.process src changes).1.follow src e).2.removed)
      = w.index.size + ((w.process src changes).2.symbolsAdded
          + ((w.process src changes).1.follow src e).2.added)
    omega

/-- **The exact effect of a batch of changes** to distinct documents, whatever
the index was before and in whatever order the changes come: which entry
each symbol has afterwards, and what the counts say. -/
theorem process_exact (w : Workspace) (src : Source) (changes : List Event)
    (h : changes.Pairwise (fun a b => ¬ a.path.same b.path)) :
    (∀ s, (w.process src changes).1.index.get? s
        = Event.settled w.extractor src changes (w.index.get? s) s)
      ∧ (w.process src changes).2.totalFiles = changes.length
      ∧ (w.process src changes).2.errors = changes.countP (Event.failed src)
      ∧ (w.process src changes).1.index.size + (w.process src changes).2.symbolsRemoved
          = w.index.size + (w.process src changes).2.symbolsAdded :=
  ⟨get?_process w src h, totalFiles_process w src changes, errors_process w src changes,
    size_process w src changes⟩

/-- A symbol that one change takes over is not lost when its old owner goes
away later in the batch. -/
theorem process_exact_of_handover :
    ([⟨⟨"b.dec"⟩, .modified, 0⟩, ⟨⟨"a.dec"⟩, .deleted, 1⟩] : List Event).Pairwise
        (fun a b => ¬ a.path.same b.path)
      ∧ (((default : Workspace).created ⟨[], fun _ => .ok "g.PcdA|1"⟩ ⟨"a.dec"⟩).1.process
          ⟨[], fun _ => .ok "g.PcdA|1"⟩
          [⟨⟨"b.dec"⟩, .modified, 0⟩, ⟨⟨"a.dec"⟩, .deleted, 1⟩]).1.index.get? "PcdA"
        = some ⟨⟨"b.dec"⟩, ⟨0, 0⟩, ⟨0, 8⟩, 0, 8⟩ :=
  ⟨by decide, ((process_exact _ _ _ (by decide)).1 "PcdA").trans (by decide +kernel)⟩

end Workspace

end PcdCatalog

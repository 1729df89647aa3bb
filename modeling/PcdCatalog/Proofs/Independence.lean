import PcdCatalog.Proofs.Activity
import PcdCatalog.Proofs.Coalescing
import PcdCatalog.Proofs.Interleaving

/-!
# Independent updates do not show their schedule

Updates that are issued together act on the index in an order that depends on how
long their reads take. Updates of one document keep the order of issue, since they
wait for each other; those of different documents do not. What they leave may
depend on that, where two documents declare one symbol.

Where no symbol is associated with two of the documents (`SeparateAmong`) it does
not. Each symbol is then a matter of one document at most, and the updates of
other documents pass it by: they do not declare it, and who owns it is either that
one document or one that is not updated at all. So its entry is what the updates of
its document make of it (`get?_inTurn_of_only`), and two orders that agree on the
updates of each document leave the same table (`table_inTurn_congr`). All orders
that a schedule can bring about do agree on these.
-/

namespace PcdCatalog

/-! ## Orders of updates -/

deriving instance DecidableEq for Task

namespace Workspace

variable (w : Workspace) (src : Source)

/-- What an update finds is declared by its document. -/
theorem declared?_of_look {u : Update} {x : Extractor} {src : Source} {doc : Path} {s : String}
    {span : Span} (h : (u.look x src doc).bind (·.get? s) = some span) :
    x.declared? src doc s = some span := by
  cases u with
  | created => exact h
  | changed => exact h
  | deleted => exact absurd h (by simp [Update.look])

/-- **An entry is what the updates of its document make of it.** If a symbol is
associated with none of the updated documents but one, the updates of the others
may as well not have been; and its entry is the old one or belongs to that
document. -/
theorem get?_inTurn_of_only {s : String} {doc : Path} {ts : List Task}
    (honly : ∀ t ∈ ts, w.extractor.Associated src w.index t.document s →
      t.document.same doc = true) :
    (w.inTurn src ts).1.index.get? s
        = (w.inTurn src (ts.filter fun t => t.document.same doc)).1.index.get? s
      ∧ ∀ span, (w.inTurn src ts).1.index.get? s = some span →
        w.index.get? s = some span ∨ span.document.same doc = true := by
  induction ts using List.reverseRecOn with
  | nil => exact ⟨rfl, fun span h => Or.inl h⟩
  | append_singleton ts t ih =>
    obtain ⟨hentry, howner⟩ := ih fun u hu => honly u (List.mem_append_left _ hu)
    have ht := honly t (List.mem_append_right _ (List.mem_singleton_self t))
    have hstep : ∀ ts, (w.inTurn src (ts ++ [t])).1.index.get? s
        = ((t.update.look w.extractor src t.document).bind (·.get? s)).or
            (((w.inTurn src ts).1.index.get? s).filter fun span =>
              decide (t.update = .created) || !Index.ownedBy t.document span) := by
      intro ts
      rw [(w.update_inTurn src ts t).1]
      exact t.update.get?_apply_look w.extractor src t.document _ s
    by_cases hdoc : t.document.same doc = true
    · -- an update of the document at hand
      have hfilter : (ts ++ [t]).filter (fun t => t.document.same doc)
          = ts.filter (fun t => t.document.same doc) ++ [t] := by
        simp [List.filter_append, hdoc]
      refine ⟨?_, fun span hspan => ?_⟩
      · rw [hfilter, hstep, hstep, hentry]
      · rw [hstep] at hspan
        obtain hnew | ⟨-, hold⟩ := Option.or_eq_some_iff.1 hspan
        · rw [Update.document_of_look hnew]
          exact Or.inr hdoc
        · exact howner span (Option.filter_eq_some_iff.1 hold).1
    · -- an update of another document, which neither declares nor owns the symbol
      have hnone : (t.update.look w.extractor src t.document).bind (·.get? s) = none :=
        Option.eq_none_iff_forall_ne_some.2 fun span hspan =>
          hdoc (ht (Or.inl ⟨span, declared?_of_look hspan⟩))
      have hother : ∀ span, (w.inTurn src ts).1.index.get? s = some span →
          Index.ownedBy t.document span = false := by
        intro span hspan
        refine eq_false_of_ne_true fun hown => hdoc ?_
        obtain hold | hsame := howner span hspan
        · exact ht (Or.inr ⟨span, hold, hown⟩)
        · exact Path.same_iff.2 ((Path.same_iff.1 hown).symm.trans (Path.same_iff.1 hsame))
      have hkept : (w.inTurn src (ts ++ [t])).1.index.get? s
          = (w.inTurn src ts).1.index.get? s := by
        rw [hstep, hnone, Option.none_or]
        cases hspan : (w.inTurn src ts).1.index.get? s with
        | none => rfl
        | some span => simp [Option.filter, hother span hspan]
      have hfilter : (ts ++ [t]).filter (fun t => t.document.same doc)
          = ts.filter fun t => t.document.same doc := by
        simp [List.filter_append, hdoc]
      rw [hkept, hfilter]
      exact ⟨hentry, howner⟩

/-- **Orders that agree on the updates of each document leave the same table.** -/
theorem table_inTurn_congr {ts ts' : List Task}
    (hsep : w.extractor.SeparateAmong src w.index (ts.map Task.document))
    (horder : ∀ doc : Path, ts'.filter (fun t => t.document.same doc)
      = ts.filter fun t => t.document.same doc) :
    (w.inTurn src ts').1.index.table = (w.inTurn src ts).1.index.table := by
  have hmem : ∀ t ∈ ts', t ∈ ts := by
    intro t ht
    have hfilter : t ∈ ts'.filter fun u => u.document.same t.document :=
      List.mem_filter.2 ⟨ht, Path.same_self _⟩
    rw [horder] at hfilter
    exact (List.mem_filter.1 hfilter).1
  refine Table.ext_get? fun s => ?_
  show (w.inTurn src ts').1.index.get? s = (w.inTurn src ts).1.index.get? s
  obtain ⟨doc, honly⟩ := hsep.exists_only s
  have honly : ∀ t ∈ ts, w.extractor.Associated src w.index t.document s →
      t.document.same doc = true := fun t ht => honly t.document (List.mem_map_of_mem ht)
  rw [(w.get?_inTurn_of_only src honly).1,
    (w.get?_inTurn_of_only src fun t ht => honly t (hmem t ht)).1, horder]

/-- **Updates of unequal documents commute.** -/
theorem table_update_comm {a b : Update × Path}
    (hsep : w.extractor.SeparateAmong src w.index [a.2, b.2]) (hne : a.2.same b.2 = false) :
    ((w.update src a.1 a.2).1.update src b.1 b.2).1.index.table
      = ((w.update src b.1 b.2).1.update src a.1 a.2).1.index.table := by
  show (w.inTurn src [⟨0, a.1, a.2⟩, ⟨1, b.1, b.2⟩]).1.index.table
    = (w.inTurn src [⟨1, b.1, b.2⟩, ⟨0, a.1, a.2⟩]).1.index.table
  refine w.table_inTurn_congr src (hsep.mono ?_) fun doc => ?_
  · simp
  · by_cases ha : a.2.same doc = true
    · have hb : b.2.same doc = false := by
        refine eq_false_of_ne_true fun hb => ?_
        rw [Path.same_iff.2 ((Path.same_iff.1 ha).trans (Path.same_iff.1 hb).symm)] at hne
        exact absurd hne (by simp)
      simp [ha, hb]
    · simp [List.filter_cons, ha]

/-- The documents of tasks are those of their updates. -/
theorem map_document_tasks (updates : List (Update × Path)) :
    (tasks updates).map Task.document = updates.map Prod.snd := by
  unfold tasks
  rw [List.map_map]
  show updates.zipIdx.map (Prod.snd ∘ Prod.fst) = _
  rw [← List.map_map, List.zipIdx_map_fst]

/-- What calls leave that have all read the same documents is what updates one at a
time leave, in the order in which the calls acted. -/
theorem replay_eq_inTurn {log : List Effect}
    (h : ∀ e ∈ log, e.found = e.task.update.look w.extractor src e.task.document) :
    Traffic.replay w.index log = (w.inTurn src (log.map Effect.task)).1.index := by
  induction log using List.reverseRecOn with
  | nil => rfl
  | append_singleton log e ih =>
    have he := h e (List.mem_append_right _ (List.mem_singleton_self e))
    have hlog := ih fun e' he' => h e' (List.mem_append_left _ he')
    rw [List.map_append, List.map_singleton, (w.update_inTurn src _ e.task).1, ← hlog, ← he]
    exact List.foldl_concat _ _ _ _

/-- **Calls in any interleaving leave the same table**, if all read the same
documents and all are done. -/
theorem table_interleaved {updates : List (Update × Path)} {steps : List Traffic.Step}
    (hsep : w.extractor.SeparateAmong src w.index (updates.map Prod.snd))
    (hedit : ∀ a ∈ steps, a.isEdit = false)
    (hissued : ((Traffic.start w.index src).run w.extractor steps).issued = tasks updates)
    (hcalls : ((Traffic.start w.index src).run w.extractor steps).calls = []) :
    ((Traffic.start w.index src).run w.extractor steps).index.table
      = (w.inTurn src (tasks updates)).1.index.table := by
  have hsound := (Traffic.sound_start w.extractor w.index src).run steps
  have hlooked : ∀ e ∈ ((Traffic.start w.index src).run w.extractor steps).log,
      e.found = e.task.update.look w.extractor src e.task.document := by
    intro e he
    have hsources : Activity.sources src (steps.map .call) = [src] := by
      refine congrArg (src :: ·) (List.filterMap_eq_nil_iff.2 fun b hb => ?_)
      obtain ⟨a, ha, rfl⟩ := List.mem_map.1 hb
      have hno := hedit a ha
      cases a with
      | edit src => exact absurd hno (by simp [Traffic.Step.isEdit])
      | _ => rfl
    have hmem : e ∈ ((Activity.start w.index src).run w.extractor (steps.map .call)).effects := by
      rw [Activity.run_map_call]
      exact List.mem_append_left _ he
    obtain ⟨src', hsrc, hfound⟩ := Activity.lookedIn_run w.extractor w.index src _ e hmem
    rw [hsources, List.mem_singleton] at hsrc
    rw [hfound, hsrc]
  rw [hsound.index, w.replay_eq_inTurn src hlooked]
  refine w.table_inTurn_congr src ?_ fun doc => ?_
  · rw [map_document_tasks]
    exact hsep
  · rw [← hissued, ← hsound.order doc, hcalls]
    exact congrArg _ (List.append_nil _).symm

/-- **Independent updates do not show their schedule.** Where no symbol is
associated with two of the updated documents, updates issued together leave one
table whatever their reads take, namely that of running them one at a time in the
order of issue; and so do calls whose steps come in any order at all, once all of
them are done. In particular, two updates of unequal documents commute. -/
theorem table_overlap_schedule_free (updates : List (Update × Path))
    (hsep : w.extractor.SeparateAmong src w.index (updates.map Prod.snd)) :
    (∀ ticks, (w.overlap src ticks updates).1.index.table
        = (w.inTurn src (tasks updates)).1.index.table)
      ∧ (∀ ticks ticks', (w.overlap src ticks updates).1.index.table
        = (w.overlap src ticks' updates).1.index.table)
      ∧ (∀ steps : List Traffic.Step, (∀ a ∈ steps, a.isEdit = false) →
        ((Traffic.start w.index src).run w.extractor steps).issued = tasks updates →
        ((Traffic.start w.index src).run w.extractor steps).calls = [] →
        ((Traffic.start w.index src).run w.extractor steps).index.table
          = (w.inTurn src (tasks updates)).1.index.table)
      ∧ ∀ a ∈ updates, ∀ b ∈ updates, a.2.same b.2 = false →
        ((w.update src a.1 a.2).1.update src b.1 b.2).1.index.table
          = ((w.update src b.1 b.2).1.update src a.1 a.2).1.index.table := by
  have hticks : ∀ ticks, (w.overlap src ticks updates).1.index.table
      = (w.inTurn src (tasks updates)).1.index.table := by
    intro ticks
    obtain ⟨steps, log, hedit, hrun, -⟩ := w.schedule_interleaves src ticks updates
    have htable := w.table_interleaved src hsep hedit (by rw [hrun]) (by rw [hrun])
    rw [hrun] at htable
    exact htable
  refine ⟨hticks, fun ticks ticks' => (hticks ticks).trans (hticks ticks').symm,
    fun steps hedit hissued hcalls => w.table_interleaved src hsep hedit hissued hcalls,
    fun a ha b hb hne => ?_⟩
  refine w.table_update_comm src (hsep.mono ?_) hne
  simp only [List.cons_subset, List.nil_subset, and_true]
  exact ⟨List.mem_map_of_mem ha, List.mem_map_of_mem hb⟩

/-- One document is read slowly, deleted under another spelling and made again,
while another one is made. -/
def apart : List (Update × Path) :=
  [(.changed, ⟨"a.dec"⟩), (.created, ⟨"b.dec"⟩), (.deleted, ⟨"a.dec/"⟩), (.created, ⟨"a.dec"⟩)]

/-- The first of them declares what it owned before, and a symbol more. -/
def grown : Source where
  documents := [⟨"a.dec"⟩, ⟨"b.dec"⟩]
  read doc := if doc.same ⟨"a.dec"⟩ then .ok "g.PcdOld|1\ng.PcdNew|1" else .ok "g.PcdOther|1"

/-- The reads cross, and the lock of the second one is kept for long. -/
def crossed : List Traffic.Step :=
  [.issue .changed ⟨"a.dec"⟩, .issue .created ⟨"b.dec"⟩, .issue .deleted ⟨"a.dec/"⟩,
    .issue .created ⟨"a.dec"⟩, .read 0, .read 1, .apply 1, .apply 0, .release 0, .read 2, .apply 2,
    .release 2, .prune, .read 3, .release 1, .apply 3, .release 3]

theorem table_overlap_schedule_free_apart :
    let w := ((default : Workspace).created aged ⟨"a.dec"⟩).1
    w.extractor.SeparateAmong grown w.index (apart.map Prod.snd)
      ∧ (w.overlap grown (fun doc => if doc.same ⟨"a.dec"⟩ then 3 else 0) apart).1.index.table
        = (w.overlap grown (fun doc => if doc.same ⟨"a.dec"⟩ then 0 else 2) apart).1.index.table
      ∧ (w.overlap grown (fun doc => if doc.same ⟨"a.dec"⟩ then 3 else 0) apart).1.index.symbols
        = ["PcdNew", "PcdOld", "PcdOther"]
      ∧ ((Traffic.start w.index grown).run w.extractor crossed).index.table
        = (w.inTurn grown (tasks apart)).1.index.table
      ∧ ((w.update grown .changed ⟨"a.dec"⟩).1.update grown .created ⟨"b.dec"⟩).1.index.table
        = ((w.update grown .created ⟨"b.dec"⟩).1.update grown .changed ⟨"a.dec"⟩).1.index.table := by
  intro w
  have hsep : w.extractor.SeparateAmong grown w.index (apart.map Prod.snd) := by decide +kernel
  have hdone : ((Traffic.start w.index grown).run w.extractor crossed).calls.isEmpty = true := by
    decide +kernel
  have hissued : ((Traffic.start w.index grown).run w.extractor crossed).issued = tasks apart := by
    decide +kernel
  obtain ⟨-, hticks, hsteps, hcomm⟩ := table_overlap_schedule_free w grown apart hsep
  refine ⟨hsep, ?_, ?_, ?_, ?_⟩
  · exact hticks _ _
  · decide +kernel
  · exact hsteps crossed (by decide) hissued (List.isEmpty_iff.1 hdone)
  · have hne : (⟨"a.dec"⟩ : Path).same ⟨"b.dec"⟩ = false := by decide
    simpa only using
      hcomm (.changed, ⟨"a.dec"⟩) (by simp [apart]) (.created, ⟨"b.dec"⟩) (by simp [apart]) hne

end Workspace

end PcdCatalog

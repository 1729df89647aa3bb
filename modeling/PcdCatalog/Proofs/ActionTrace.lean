import Mathlib.Data.List.Induction
import PcdCatalog.Proofs.IndexLaws
import PcdCatalog.Proofs.SourceLaws

/-!
# What an index holds, read off its history

A workspace is built, rebuilt and told about documents, and between any two of
these operations the documents may be edited. To the index an operation is a
handful of actions: the declarations of a document are merged, a document is
purged of what it does not declare any more, or everything is cleared.

`get?_runAll_iff` reads the index off the actions of the whole history. A
symbol has an entry exactly if some merge brought it and nothing ended it since
(`IndexAction.ends`): no later merge that has the symbol, no purge of the same
document that does not keep it, and no clearing.

Who owns an entry changes with every overwrite, and a purge looks at the owner
an entry has at that moment. The statement gets by without it because a span
names the document it was extracted from (`IndexAction.Genuine`): the entry that a
merge brought is owned by the document of that merge for as long as it lasts.
-/

namespace PcdCatalog

/-! ## Operations and actions -/

/-- What is asked of a workspace. -/
inductive Operation where
  | build
  | rebuild
  | created (document : Path)
  | changed (document : Path)
  | deleted (document : Path)

/-- What happens to an index. -/
inductive IndexAction where
  /-- The declarations of a document are merged. -/
  | merge (document : Path) (found : Declarations)
  /-- A document loses what it owns, but for the names that it keeps. -/
  | purge (document : Path) (keep : List String)
  | clear

namespace Operation

/-- The workspace after an operation, with the documents as they are then. -/
def perform (w : Workspace) (src : Source) : Operation → Workspace
  | build => (w.build src).1
  | rebuild => (w.rebuild src).1
  | created doc => (w.created src doc).1
  | changed doc => (w.changed src doc).1
  | deleted doc => (w.deleted src doc).1

/-- The workspace after a history of operations, each with the documents as they
were then. -/
def runAll (w : Workspace) (history : List (Source × Operation)) : Workspace :=
  history.foldl (fun w o => o.2.perform w o.1) w

/-- The merges of a build: one for each document that can be read, in the order
in which they are listed. -/
def merges (x : Extractor) (src : Source) (docs : List Path) : List IndexAction :=
  docs.filterMap fun doc => (x.look src doc).map (IndexAction.merge doc)

/-- **The actions of an operation.** -/
def actions (x : Extractor) (src : Source) : Operation → List IndexAction
  | build => merges x src src.documents
  | rebuild => .clear :: merges x src src.documents
  | created doc => merges x src [doc]
  | changed doc =>
    [.purge doc ((x.look src doc).getD ∅).keys, .merge doc ((x.look src doc).getD ∅)]
  | deleted doc => [.purge doc []]

/-- The actions of a history. -/
def actionsOf (x : Extractor) (history : List (Source × Operation)) : List IndexAction :=
  history.flatMap fun o => o.2.actions x o.1

end Operation

namespace IndexAction

/-- **Whether an action ends the entry of a symbol** that a merge of a document
brought. -/
def ends (doc : Path) (s : String) : IndexAction → Bool
  | merge _ found => found.contains s
  | purge d keep => d.same doc && !keep.contains s
  | clear => true

/-- What is merged for a document was extracted from it. -/
def Genuine : IndexAction → Prop
  | merge doc found => ∀ s span, found.get? s = some span → span.document = doc
  | purge _ _ => True
  | clear => True

/-! ## One action -/

/-- The entry of a symbol after an action. -/
def entry (s : String) (old : Option Span) : IndexAction → Option Span
  | merge _ found => (found.get? s).or old
  | purge doc keep => old.filter fun span => !Index.ownedBy doc span || keep.contains s
  | clear => none

/-- **Some merge brought a span under a symbol, and nothing ended it since.** -/
def Lasts (s : String) (span : Span) (acts : List IndexAction) : Prop :=
  ∃ front doc found back, acts = front ++ merge doc found :: back
    ∧ found.get? s = some span ∧ ∀ a ∈ back, a.ends doc s = false

/-- What lasts was brought by the last action, or was there and is not ended by
it. -/
theorem lasts_concat {s : String} {span : Span} {acts : List IndexAction} {a : IndexAction} :
    Lasts s span (acts ++ [a])
      ↔ (∃ doc found, a = merge doc found ∧ found.get? s = some span)
        ∨ ∃ front doc found back, acts = front ++ merge doc found :: back
          ∧ found.get? s = some span ∧ (∀ b ∈ back, b.ends doc s = false)
          ∧ a.ends doc s = false := by
  constructor
  · rintro ⟨front, doc, found, back, hacts, hget, hback⟩
    rcases List.eq_nil_or_concat back with rfl | ⟨init, b, rfl⟩
    · obtain ⟨-, ha⟩ := List.append_inj' hacts rfl
      exact Or.inl ⟨doc, found, (List.cons.inj ha).1, hget⟩
    · rw [List.concat_eq_append, ← List.cons_append, ← List.append_assoc] at hacts
      obtain ⟨rfl, hb⟩ := List.append_inj' hacts rfl
      obtain rfl := (List.cons.inj hb).1
      rw [List.concat_eq_append] at hback
      refine Or.inr ⟨front, doc, found, init, rfl, hget, fun b hb => ?_, ?_⟩
      · exact hback b (List.mem_append_left _ hb)
      · exact hback a (List.mem_append_right _ (List.mem_singleton_self a))
  · rintro (⟨doc, found, rfl, hget⟩ | ⟨front, doc, found, back, rfl, hget, hback, ha⟩)
    · exact ⟨acts, doc, found, [], rfl, hget, fun b hb => absurd hb List.not_mem_nil⟩
    · refine ⟨front, doc, found, back ++ [a], by simp, hget, fun b hb => ?_⟩
      rcases List.mem_append.1 hb with hb | hb
      · exact hback b hb
      · rw [List.mem_singleton.1 hb]
        exact ha

/-- **An action keeps the reading**: if the entry is what has lasted so far, it is
what lasts then. -/
theorem entry_eq_some_iff {s : String} {acts : List IndexAction} {a : IndexAction}
    {old : Option Span}
    (hgenuine : ∀ b ∈ acts, b.Genuine) (hold : ∀ span, old = some span ↔ Lasts s span acts)
    (span : Span) : a.entry s old = some span ↔ Lasts s span (acts ++ [a]) := by
  rw [lasts_concat]
  cases a with
  | clear => simp [entry, ends]
  | merge doc found =>
    have hends : found.contains s = false ↔ found.get? s = none := by
      unfold Table.contains
      cases found.get? s <;> simp
    show (found.get? s).or old = some span ↔ _
    rw [Option.or_eq_some_iff, hold span]
    constructor
    · rintro (hnew | ⟨hnone, front, d, m, back, hacts, hget, hback⟩)
      · exact Or.inl ⟨doc, found, rfl, hnew⟩
      · exact Or.inr ⟨front, d, m, back, hacts, hget, hback, hends.2 hnone⟩
    · rintro (⟨d, m, heq, hget⟩ | ⟨front, d, m, back, hacts, hget, hback, ha⟩)
      · cases heq
        exact Or.inl hget
      · exact Or.inr ⟨hends.1 ha, front, d, m, back, hacts, hget, hback⟩
  | purge doc keep =>
    show old.filter (fun span => !Index.ownedBy doc span || keep.contains s) = some span ↔ _
    rw [Option.filter_eq_some_iff, hold span]
    -- the owner of an entry is the document of the merge that brought it
    have howner : ∀ {front back d m}, acts = front ++ merge d m :: back → m.get? s = some span →
        ((!Index.ownedBy doc span || keep.contains s) = true
          ↔ (purge doc keep).ends d s = false) := by
      rintro front back d m rfl hget
      have hdoc : span.document = d :=
        hgenuine (merge d m) (List.mem_append_right _ List.mem_cons_self) s span hget
      have hsame : Index.ownedBy doc span = doc.same d := by
        unfold Index.ownedBy
        rw [hdoc, Bool.eq_iff_iff, Path.same_iff, Path.same_iff]
        exact eq_comm
      rw [hsame]
      show (!doc.same d || keep.contains s) = true ↔ (doc.same d && !keep.contains s) = false
      cases doc.same d <;> cases keep.contains s <;> simp
    constructor
    · rintro ⟨⟨front, d, m, back, hacts, hget, hback⟩, hp⟩
      exact Or.inr ⟨front, d, m, back, hacts, hget, hback, (howner hacts hget).1 hp⟩
    · rintro (⟨d, m, heq, -⟩ | ⟨front, d, m, back, hacts, hget, hback, ha⟩)
      · cases heq
      · exact ⟨⟨front, d, m, back, hacts, hget, hback⟩, (howner hacts hget).2 ha⟩

/-- **What actions leave of an empty index is what lasts.** -/
theorem foldl_entry_iff {s : String} {acts : List IndexAction} (hgenuine : ∀ a ∈ acts, a.Genuine)
    (span : Span) : acts.foldl (entry s) none = some span ↔ Lasts s span acts := by
  induction acts using List.reverseRecOn generalizing span with
  | nil =>
    refine ⟨fun h => absurd h (by simp), ?_⟩
    rintro ⟨front, doc, found, back, hacts, -⟩
    exact absurd hacts (by simp)
  | append_singleton acts a ih =>
    have hinit : ∀ b ∈ acts, b.Genuine := fun b hb => hgenuine b (List.mem_append_left _ hb)
    rw [List.foldl_append, List.foldl_cons, List.foldl_nil]
    exact entry_eq_some_iff hinit (ih hinit) span

end IndexAction

/-! ## Operations through their actions -/

namespace Operation

open IndexAction

/-- The merges of a build act one after the other. -/
theorem get?_foldl_absorb_eq (x : Extractor) (src : Source) (docs : List Path)
    (acc : Index × UpdateCounts) (s : String) :
    (docs.foldl (Workspace.absorb x src) acc).1.get? s
      = (merges x src docs).foldl (entry s) (acc.1.get? s) := by
  induction docs generalizing acc with
  | nil => rfl
  | cons doc docs ih =>
    have hone : (Workspace.absorb x src acc doc).1.get? s
        = ((x.look src doc).bind (·.get? s)).or (acc.1.get? s) :=
      Index.get?_mergedOrFailed acc.1 doc (x.look src doc) s
    rw [List.foldl_cons, ih, hone]
    unfold merges
    rw [List.filterMap_cons]
    cases x.look src doc <;> rfl

/-- **An operation is the sum of its actions**, for every symbol. -/
theorem get?_perform (w : Workspace) (src : Source) (o : Operation) (s : String) :
    (o.perform w src).index.get? s
      = (o.actions w.extractor src).foldl (entry s) (w.index.get? s) := by
  cases o with
  | build => exact get?_foldl_absorb_eq w.extractor src src.documents (w.index, {}) s
  | rebuild => exact get?_foldl_absorb_eq w.extractor src src.documents (w.index.clear, {}) s
  | created doc => exact get?_foldl_absorb_eq w.extractor src [doc] (w.index, {}) s
  | changed doc =>
    have hkeys : ∀ found : Declarations, found.keys.contains s = found.contains s := by
      intro found
      rw [Bool.eq_iff_iff, List.contains_iff_mem, Table.mem_keys]
      unfold Table.contains
      exact Option.isSome_iff_exists.symm
    show ((w.index.retain doc _).1.merge doc _).1.get? s = _
    rw [Index.get?_merge, Index.get?_retain]
    simp only [actions, List.foldl_cons, List.foldl_nil, entry, hkeys]
    rfl
  | deleted doc =>
    show (w.index.remove doc).1.get? s = _
    rw [Index.get?_remove]
    simp only [actions, List.foldl_cons, List.foldl_nil, entry, List.contains_nil, Bool.or_false]

theorem extractor_perform (w : Workspace) (src : Source) (o : Operation) :
    (o.perform w src).extractor = w.extractor := by
  cases o <;> rfl

/-- A history acts as all its actions, one after the other. -/
theorem get?_runAll (w : Workspace) (history : List (Source × Operation)) (s : String) :
    (runAll w history).index.get? s
      = (actionsOf w.extractor history).foldl (entry s) (w.index.get? s) := by
  induction history generalizing w with
  | nil => rfl
  | cons o history ih =>
    show (runAll (o.2.perform w o.1) history).index.get? s = _
    rw [ih, extractor_perform, get?_perform]
    unfold actionsOf
    rw [List.flatMap_cons, List.foldl_append]

/-- What a document declares was extracted from it. -/
theorem genuine_merge {x : Extractor} {src : Source} {doc : Path} {found : Declarations}
    (h : x.look src doc = some found) : (IndexAction.merge doc found).Genuine := by
  intro s span hget
  have hdecl : x.declared? src doc s = some span := by
    unfold Extractor.declared?
    rw [h]
    exact hget
  exact Extractor.document_of_declared? hdecl

theorem genuine_merges (x : Extractor) (src : Source) (docs : List Path) :
    ∀ a ∈ merges x src docs, a.Genuine := by
  intro a ha
  obtain ⟨doc, -, hdoc⟩ := List.mem_filterMap.1 ha
  obtain ⟨found, hfound, rfl⟩ := Option.map_eq_some_iff.1 hdoc
  exact genuine_merge hfound

/-- The actions of an operation merge nothing but what was extracted. -/
theorem genuine_actions (x : Extractor) (src : Source) (o : Operation) :
    ∀ a ∈ o.actions x src, a.Genuine := by
  cases o with
  | build => exact genuine_merges x src src.documents
  | rebuild => exact List.forall_mem_cons.2 ⟨trivial, genuine_merges x src src.documents⟩
  | created doc => exact genuine_merges x src [doc]
  | deleted doc => exact List.forall_mem_singleton.2 trivial
  | changed doc =>
    refine List.forall_mem_cons.2 ⟨trivial, List.forall_mem_singleton.2 ?_⟩
    cases hlook : x.look src doc with
    | some found => exact genuine_merge hlook
    | none => exact fun s span hget => absurd hget (by simp [EmptyCollection.emptyCollection])

/-- **The trace of an index.** After any history of a new workspace, with the
documents edited at will between the operations, a symbol has an entry exactly
if a merge of the history brought it and nothing ended it since. -/
theorem get?_runAll_iff (x : Extractor) (mode : CompletionMode) (limit : Nat)
    (rankings : Nat → Ranking) (history : List (Source × Operation)) (s : String) (span : Span) :
    (runAll (Workspace.empty x mode limit rankings) history).index.get? s = some span
      ↔ ∃ front doc found back,
          actionsOf x history = front ++ .merge doc found :: back
            ∧ found.get? s = some span ∧ ∀ a ∈ back, a.ends doc s = false := by
  have hgenuine : ∀ a ∈ actionsOf x history, a.Genuine := by
    intro a ha
    obtain ⟨o, -, ho⟩ := List.mem_flatMap.1 ha
    exact genuine_actions x o.1 o.2 a ho
  rw [get?_runAll]
  exact foldl_entry_iff hgenuine span

end Operation

end PcdCatalog

import Mathlib.Data.List.DropRight
import PcdCatalog.Proofs.Activity

/-!
# The log of handovers is a window over their history

An index forgets its oldest handover when it is about to exceed its limit. So
what it remembers should be the end of a longer story: of all overwrites so far
that took a symbol from another document, the latest ones, as many as the limit
allows. `IndexCommand.history` tells that story without a limit and without
looking at the log, only at what the table held when a declaration was placed,
and `handovers_eq_window` says that the log is its end (`List.rtake`).

That one note keeps the window (`Index.note_rtake`) is all there is to it, but it
needs the window to be exact: the log is cut when its length *equals* the limit,
so had it ever grown longer it would grow forever.

A command names the document that it merges, and a span names the document that
it belongs to. Nothing makes the two agree for an arbitrary command, and then
both sides of a handover may belong to one document. In a workspace they do
agree, since what is merged was extracted from the document that is named; there
the two sides of a handover are always different documents (`Handover.Apart`).
-/

namespace PcdCatalog

/-! ## One note -/

namespace Handover

/-- Whether the overwritten declaration belongs to another document than `doc`. -/
def leaves (doc : Path) (h : Handover) : Bool := !h.previous.document.same doc

/-- **Both sides belong to different documents.** -/
def Apart (h : Handover) : Prop := h.previous.document.same h.replacement.document = false

end Handover

namespace Index

/-- **A note moves the window on.** -/
theorem note_rtake (limit : Nat) (history : List Handover) (h : Handover) :
    note limit (history.rtake limit) h = (history ++ [h]).rtake limit := by
  cases limit with
  | zero => simp [note]
  | succ n =>
    unfold note
    rw [List.rtake_concat_succ, if_neg (Nat.succ_ne_zero n)]
    unfold List.rtake
    rw [List.length_drop]
    by_cases hfull : n + 1 ≤ history.length
    · rw [if_pos (by omega), List.drop_drop]
      congr 2
      omega
    · rw [if_neg (by omega)]
      congr 2
      omega

/-- What is in the log after a note was there, or was just noted. -/
theorem mem_note {limit : Nat} {log : List Handover} {h h' : Handover}
    (hmem : h' ∈ note limit log h) : h' ∈ log ∨ h' = h := by
  unfold note at hmem
  split at hmem
  · exact Or.inl hmem
  · split at hmem
    · obtain hmem | hmem := List.mem_append.1 hmem
      · exact Or.inl (List.mem_of_mem_drop hmem)
      · exact Or.inr (List.mem_singleton.1 hmem)
    · obtain hmem | hmem := List.mem_append.1 hmem
      · exact Or.inl hmem
      · exact Or.inr (List.mem_singleton.1 hmem)

/-! ## One merge -/

/-- **The overwrites of declarations that are placed one after the other**: each
that finds its symbol taken, with what was there. -/
def overwrites (t : Table String Span) : List (String × Span) → List Handover
  | [] => []
  | e :: rest =>
    match t.get? e.1 with
    | none => overwrites (t.insert e.1 e.2) rest
    | some previous => ⟨e.1, previous, e.2⟩ :: overwrites (t.insert e.1 e.2) rest

/-- **Where no symbol is placed twice** an overwrite finds what was there at the
beginning. -/
theorem overwrites_eq_filterMap {l : List (String × Span)}
    (h : (l.map Prod.fst).Nodup) (t : Table String Span) :
    overwrites t l
      = l.filterMap fun e => (t.get? e.1).map fun previous => ⟨e.1, previous, e.2⟩ := by
  induction l generalizing t with
  | nil => rfl
  | cons e l ih =>
    obtain ⟨he, hl⟩ := List.nodup_cons.1 h
    have hrest : overwrites (t.insert e.1 e.2) l
        = l.filterMap fun e => (t.get? e.1).map fun previous => ⟨e.1, previous, e.2⟩ := by
      rw [ih hl]
      refine List.filterMap_congr fun e' he' => ?_
      rw [Table.get?_insert, if_neg]
      intro heq
      exact he (Std.LawfulEqCmp.eq_of_compare heq ▸ List.mem_map_of_mem he')
    unfold overwrites
    rw [hrest, List.filterMap_cons]
    cases t.get? e.1 <;> rfl

/-- The overwrites are what a merge counts as replaced. -/
theorem replaced_foldl_placed (doc : Path) (l : List (String × Span)) (acc : Index × MergeCounts) :
    (l.foldl (placed doc) acc).2.replaced
      = acc.2.replaced + (overwrites acc.1.table l).length := by
  induction l generalizing acc with
  | nil => rfl
  | cons e l ih =>
    have htable : (placed doc acc e).1.table = acc.1.table.insert e.1 e.2 := rfl
    have hone : (placed doc acc e).2.replaced
        = acc.2.replaced + (acc.1.table.get? e.1).toList.length := by
      unfold placed Table.contains
      cases acc.1.table.get? e.1 <;> rfl
    rw [List.foldl_cons, ih, htable, hone, overwrites]
    cases acc.1.table.get? e.1 with
    | none => rfl
    | some previous => exact Nat.add_right_comm _ 1 _

/-- Placing declarations leaves the limit alone. -/
theorem limit_foldl_placed (doc : Path) (l : List (String × Span)) (acc : Index × MergeCounts) :
    (l.foldl (placed doc) acc).1.limit = acc.1.limit := by
  induction l generalizing acc with
  | nil => rfl
  | cons e l ih => exact ih _

/-- Placing a declaration notes the handover that it causes. -/
theorem handovers_placed (doc : Path) (acc : Index × MergeCounts) (e : String × Span) :
    (placed doc acc e).1.handovers
      = (acc.1.handover? doc e.1 e.2).elim acc.1.handovers
          (note acc.1.limit acc.1.handovers) := by
  unfold placed put
  cases acc.1.handover? doc e.1 e.2 <;> rfl

/-- The handover that placing a declaration causes is its overwrite, if that takes
the symbol from another document. -/
theorem filter_leaves_overwrites (i : Index) (doc : Path) (e : String × Span)
    (l : List (String × Span)) :
    (overwrites i.table (e :: l)).filter (Handover.leaves doc)
      = (i.handover? doc e.1 e.2).toList
          ++ (overwrites (i.table.insert e.1 e.2) l).filter (Handover.leaves doc) := by
  rw [overwrites]
  unfold handover?
  cases i.table.get? e.1 with
  | none => rfl
  | some previous =>
    by_cases hsame : previous.document.same doc = true
    · simp [Handover.leaves, hsame]
    · simp [Handover.leaves, hsame]

/-- It goes from another document to the declaration that is placed. -/
theorem sides_of_handover? {i : Index} {doc : Path} {s : String} {span : Span} {h : Handover}
    (hh : i.handover? doc s span = some h) :
    h.previous.document.same doc = false ∧ h.replacement = span := by
  unfold handover? at hh
  split at hh
  · exact absurd hh (by simp)
  · split at hh
    · exact absurd hh (by simp)
    next hsame =>
      rw [← Option.some.inj hh]
      exact ⟨eq_false_of_ne_true hsame, rfl⟩

/-- **A merge moves the window over its overwrites** that take a symbol from
another document. -/
theorem handovers_foldl_placed (doc : Path) (l : List (String × Span)) (acc : Index × MergeCounts)
    (history : List Handover) (h : acc.1.handovers = history.rtake acc.1.limit) :
    (l.foldl (placed doc) acc).1.handovers
      = (history ++ (overwrites acc.1.table l).filter (Handover.leaves doc)).rtake acc.1.limit := by
  induction l generalizing acc history with
  | nil => simpa [overwrites] using h
  | cons e l ih =>
    rw [filter_leaves_overwrites, ← List.append_assoc]
    refine ih (placed doc acc e) (history ++ (acc.1.handover? doc e.1 e.2).toList) ?_
    rw [handovers_placed, h]
    cases acc.1.handover? doc e.1 e.2 with
    | none => exact congrArg (List.rtake · acc.1.limit) (List.append_nil history).symm
    | some handover => exact note_rtake acc.1.limit history handover

/-- A merge of what belongs to a document keeps the sides of handovers apart. -/
theorem apart_foldl_placed {doc : Path} {l : List (String × Span)} (hl : ∀ e ∈ l, e.2.document = doc)
    (acc : Index × MergeCounts) (h : ∀ h ∈ acc.1.handovers, h.Apart) :
    ∀ h ∈ (l.foldl (placed doc) acc).1.handovers, h.Apart := by
  induction l generalizing acc with
  | nil => exact h
  | cons e l ih =>
    rw [List.forall_mem_cons] at hl
    refine ih hl.2 (placed doc acc e) fun h' hmem => ?_
    rw [handovers_placed] at hmem
    cases hh : acc.1.handover? doc e.1 e.2 with
    | none =>
      rw [hh] at hmem
      exact h h' hmem
    | some handover =>
      rw [hh] at hmem
      obtain hmem | rfl := mem_note hmem
      · exact h h' hmem
      · obtain ⟨hprevious, hreplacement⟩ := sides_of_handover? hh
        show h'.previous.document.same h'.replacement.document = false
        rw [hreplacement, hl.1]
        exact hprevious

end Index

/-! ## Runs of commands -/

/-- **What is asked of an index.** A merge goes through the declarations in some
order, which is that of the list. -/
inductive IndexCommand where
  | merge (document : Path) (declared : List (String × Span))
  | retain (document : Path) (keep : Declarations)
  | remove (document : Path)
  | clear

namespace IndexCommand

/-- The index after a command. -/
def perform (i : Index) : IndexCommand → Index
  | merge doc declared => (i.mergeList doc declared).1
  | retain doc keep => (i.retain doc keep).1
  | remove doc => (i.remove doc).1
  | clear => i.clear

/-- The index after some commands. -/
def runAll (i : Index) (commands : List IndexCommand) : Index := commands.foldl perform i

/-- The story so far, told on for a command that finds this index. -/
def tell (i : Index) (history : List Handover) : IndexCommand → List Handover
  | merge doc declared => history ++ (Index.overwrites i.table declared).filter (Handover.leaves doc)
  | retain _ _ => history
  | remove _ => history
  | clear => []

/-- **The overwrites since the last clearing that took a symbol from another
document** than the one merged, in the order in which they happened. -/
def history (limit : Nat) (commands : List IndexCommand) : List Handover :=
  (commands.foldl (fun s c => (c.perform s.1, c.tell s.1 s.2)) (Index.empty limit, [])).2

theorem history_concat (limit : Nat) (commands : List IndexCommand) (c : IndexCommand) :
    history limit (commands ++ [c])
      = c.tell (runAll (Index.empty limit) commands) (history limit commands) := by
  have hindex : ∀ (commands : List IndexCommand) (s : Index × List Handover),
      (commands.foldl (fun s c => (c.perform s.1, c.tell s.1 s.2)) s).1 = runAll s.1 commands := by
    intro commands
    induction commands with
    | nil => exact fun _ => rfl
    | cons c commands ih => exact fun s => ih _
  unfold history
  rw [List.foldl_concat, hindex]

theorem runAll_concat (i : Index) (commands : List IndexCommand) (c : IndexCommand) :
    runAll i (commands ++ [c]) = c.perform (runAll i commands) :=
  List.foldl_concat _ _ _ _

/-- No command changes the limit. -/
theorem limit_perform (i : Index) (c : IndexCommand) : (c.perform i).limit = i.limit := by
  cases c with
  | merge doc declared => exact Index.limit_foldl_placed doc declared (i, ⟨0, 0⟩)
  | retain doc keep => rfl
  | remove doc => rfl
  | clear => rfl

/-- **A command moves the window as it tells the story on.** -/
theorem handovers_perform {i : Index} {history : List Handover}
    (h : i.handovers = history.rtake i.limit) (c : IndexCommand) :
    (c.perform i).handovers = (c.tell i history).rtake (c.perform i).limit := by
  rw [limit_perform]
  cases c with
  | merge doc declared => exact Index.handovers_foldl_placed doc declared (i, ⟨0, 0⟩) history h
  | retain doc keep => exact h
  | remove doc => exact h
  | clear => exact (List.rtake_nil i.limit).symm

/-- A run of commands leaves the end of its history. -/
theorem handovers_runAll (limit : Nat) (commands : List IndexCommand) :
    (runAll (Index.empty limit) commands).limit = limit
      ∧ (runAll (Index.empty limit) commands).handovers = (history limit commands).rtake limit := by
  induction commands using List.reverseRecOn with
  | nil => exact ⟨rfl, (List.rtake_nil limit).symm⟩
  | append_singleton commands c ih =>
    obtain ⟨hlimit, hlog⟩ := ih
    have hstep := handovers_perform (hlog.trans (by rw [hlimit])) c
    rw [limit_perform, hlimit] at hstep
    rw [runAll_concat, history_concat]
    exact ⟨(limit_perform _ c).trans hlimit, hstep⟩

end IndexCommand

/-! ## Workspaces -/

/-- What a call or a document of a build does keeps the sides of handovers
apart. -/
theorem Effect.LookedIn.apart_apply {x : Extractor} {seen : List Source} {e : Effect}
    (he : e.LookedIn x seen) {i : Index} (hi : ∀ h ∈ i.handovers, h.Apart) :
    ∀ h ∈ (e.apply i).handovers, h.Apart := by
  obtain ⟨⟨id, u, doc⟩, found, counts⟩ := e
  obtain ⟨src, -, hlook : found = u.look x src doc⟩ := he
  have hown : ∀ s span, (found.getD ∅).get? s = some span → span.document = doc := by
    intro s span hget
    have hdecl : (u.look x src doc).bind (·.get? s) = some span := by
      rw [← hlook]
      cases found with
      | none => exact absurd hget (by simp [EmptyCollection.emptyCollection])
      | some found => exact hget
    exact Update.document_of_look hdecl
  have hlist : ∀ r : Ranking, ∀ e ∈ r.arrange (found.getD ∅), e.2.document = doc :=
    fun r e he => hown e.1 e.2
      ((found.getD ∅).get?_eq_some_iff.2 ((r.arrange_perm (found.getD ∅)).mem_iff.1 he))
  cases u with
  | deleted => exact hi
  | changed =>
    exact Index.apart_foldl_placed (hlist _) ((i.retain doc (found.getD ∅)).1.advance, ⟨0, 0⟩) hi
  | created =>
    cases found with
    | none => exact hi
    | some found => exact Index.apart_foldl_placed (hlist _) (i.advance, ⟨0, 0⟩) hi

/-- In a workspace both sides of a handover belong to different documents, in
whatever order calls and builds come. -/
theorem Activity.apart_run (x : Extractor) (limit : Nat) (rankings : Nat → Ranking) (src : Source)
    (steps : List Activity.Step) :
    ∀ h ∈ ((Activity.start (.empty limit rankings) src).run x steps).index.handovers, h.Apart := by
  refine Activity.run_induction (P := fun s => ∀ h ∈ s.index.handovers, h.Apart)
    (fun h hmem => absurd hmem List.not_mem_nil) (fun seen s s' hs hact => ?_)
    (fun _ s _ h hmem => absurd hmem List.not_mem_nil)
  cases hact with
  | idle hindex heffects =>
    rw [hindex]
    exact hs
  | acts e hindex hcounts heffects hlooked =>
    rw [hindex]
    exact hlooked.apart_apply hs

namespace IndexCommand

/-- **The log of handovers is a sliding window over their history.** After any
commands the log is the end of the history, as much of it as the limit allows,
oldest first; and neither kind of removal alters it. In every state that a
workspace reaches – by operations one at a time, with the documents edited
between them, or by calls and builds in any interleaving, whatever orders the
merges come in – both sides of each remembered handover belong to different
documents. -/
theorem handovers_eq_window (limit : Nat) :
    (∀ commands, (runAll (Index.empty limit) commands).handovers
          = (history limit commands).rtake limit
        ∧ (runAll (Index.empty limit) commands).handovers.length
          = min limit (history limit commands).length)
      ∧ (∀ i doc keep, ((retain doc keep).perform i).handovers = i.handovers
        ∧ ((remove doc).perform i).handovers = i.handovers)
      ∧ (∀ x mode rankings operations, ∀ h ∈
          (Operation.runAll (Workspace.empty x mode limit rankings) operations).index.handovers,
            h.Apart)
      ∧ ∀ x rankings src steps, ∀ h ∈
          ((Activity.start (.empty limit rankings) src).run x steps).index.handovers, h.Apart := by
  refine ⟨fun commands => ?_, fun i doc keep => ⟨rfl, rfl⟩, fun x mode rankings operations => ?_,
    fun x rankings src steps => Activity.apart_run x limit rankings src steps⟩
  · have hlog := (handovers_runAll limit commands).2
    refine ⟨hlog, ?_⟩
    rw [hlog, List.rtake, List.length_drop]
    omega
  · obtain ⟨steps, hindex, -, -⟩ :=
      Activity.exists_run_runAll (Workspace.empty x mode limit rankings)
        ⟨[], fun _ => .error .missing⟩ operations
    rw [← hindex]
    exact Activity.apart_run x limit rankings _ steps

end IndexCommand

end PcdCatalog

import Mathlib.Algebra.BigOperators.Group.List.Lemmas
import PcdCatalog.Proofs.HandoverLog
import PcdCatalog.Proofs.Upkeep

/-!
# Symbols that several documents declare

A build reads the documents in the order in which they are listed. A symbol that
several of them declare goes from one to the next, and the last one keeps it. So
three things that a build leaves – the entry of the symbol, the handovers that
the log shows for it, and the counts – are all read off one list, that of its
declarations in the order of their documents (`Extractor.declaredIn`): the entry
is its last element, the handovers are the links between its neighbours
(`Handover.chain`), and the counts add up over all symbols.

The tie between them is `Told`: some history of handovers whose part for each
symbol is the chain of its declarations so far, whose length is the number of
replaced symbols, and whose end is the log. One more document extends every chain
whose symbol it declares by one link (`Told.absorb`), because a merge overwrites
a symbol once and finds there what the documents before have left. The log itself
is complete as soon as the limit allows for the whole history.
-/

namespace PcdCatalog

/-! ## Chains of handovers -/

namespace Handover

/-- **From each declaration of a symbol to the next.** -/
def chain (s : String) (spans : List Span) : List Handover :=
  List.zipWith (fun previous replacement => ⟨s, previous, replacement⟩) spans spans.tail

@[simp] theorem length_chain (s : String) (spans : List Span) :
    (chain s spans).length = spans.length - 1 := by
  simp [chain]

/-- One more declaration adds a link from the last one. -/
theorem chain_concat (s : String) (spans : List Span) (span : Span) :
    chain s (spans ++ [span])
      = chain s spans ++ (spans.getLast?.map fun previous => ⟨s, previous, span⟩).toList := by
  induction spans with
  | nil => rfl
  | cons a spans ih =>
    cases spans with
    | nil => rfl
    | cons b spans =>
      rw [List.getLast?_cons_cons]
      exact congrArg (⟨s, a, b⟩ :: ·) ih

end Handover

namespace Index

/-- Of one symbol a merge overwrites at most one declaration. -/
theorem filter_symbol_overwrites (t : Table String Span) {found : Declarations}
    {l : List (String × Span)} (hl : l.Perm found.toList) (s : String) :
    (overwrites t l).filter (fun h => h.symbol = s)
      = ((t.get? s).bind fun previous =>
          (found.get? s).map fun span => (⟨s, previous, span⟩ : Handover)).toList := by
  have hkey : ∀ e : String × Span,
      (((t.get? e.1).map fun previous => (⟨e.1, previous, e.2⟩ : Handover)).filter
          fun h => h.symbol = s)
        = if compare s e.1 == .eq
          then (t.get? e.1).map fun previous => (⟨e.1, previous, e.2⟩ : Handover) else none := by
    intro e
    by_cases h : s = e.1
    · subst h
      cases t.get? e.1 <;> simp
    · have hne : compare s e.1 ≠ .eq := fun heq => h (Std.LawfulEqCmp.eq_of_compare heq)
      cases t.get? e.1 <;> simp [hne, Ne.symm h]
  -- at most one declaration is under the symbol, so the order does not matter
  have hone : l.filter (fun e => compare s e.1 == .eq)
      = ((found.get? s).map fun span => (s, span)).toList := by
    have hperm := hl.filter fun e => compare s e.1 == .eq
    rw [Table.filter_eq_lookup s found.ascending] at hperm
    unfold Table.get?
    cases hget : Table.lookup s found.toList with
    | none =>
      rw [hget] at hperm
      exact hperm.eq_nil
    | some span =>
      rw [hget] at hperm
      exact hperm.eq_singleton
  have hkeys : (l.map Prod.fst).Nodup := (hl.map Prod.fst).nodup_iff.2 found.nodup_keys
  rw [overwrites_eq_filterMap hkeys, List.filter_filterMap]
  simp only [hkey]
  rw [← List.filterMap_filter, hone]
  cases found.get? s <;> cases hs : t.get? s <;> simp [hs]

end Index

/-! ## Documents one after the other -/

namespace Extractor

/-- **The declarations of a symbol** in some documents, in the order of these. -/
def declaredIn (x : Extractor) (src : Source) (docs : List Path) (s : String) : List Span :=
  docs.filterMap fun doc => x.declared? src doc s

theorem declaredIn_concat (x : Extractor) (src : Source) (docs : List Path) (doc : Path)
    (s : String) :
    x.declaredIn src (docs ++ [doc]) s
      = x.declaredIn src docs s ++ (x.declared? src doc s).toList := by
  unfold declaredIn
  rw [List.filterMap_append]
  cases h : x.declared? src doc s <;> simp [h]

/-- **How many handovers a build makes**: over all symbols that are declared, the
links between their declarations. -/
def handoverTotal (x : Extractor) (src : Source) : Nat :=
  ((src.documents.flatMap (x.symbolsIn src)).dedup.map fun s =>
    (Handover.chain s (x.declaredIn src src.documents s)).length).sum

end Extractor

/-- **What reading some documents has told**: the last declaration of each symbol
stands in the index, and a history of handovers links all of them. The history is
as long as the number of replaced symbols, and the log is its end. -/
structure Told (x : Extractor) (src : Source) (limit : Nat) (docs : List Path)
    (r : Index × UpdateCounts) (history : List Handover) : Prop where
  entry : ∀ s, r.1.get? s = (x.declaredIn src docs s).getLast?
  links : ∀ s, history.filter (fun h => h.symbol = s) = Handover.chain s (x.declaredIn src docs s)
  updated : history.length = r.2.updated
  log : r.1.handovers = history.rtake limit
  limit : r.1.limit = limit

namespace Told

variable {x : Extractor} {src : Source} {limit : Nat} {docs : List Path}
  {r : Index × UpdateCounts} {history : List Handover}

/-- Nothing has been told of no documents. -/
theorem nil (x : Extractor) (src : Source) (limit : Nat) (rankings : Nat → Ranking) :
    Told x src limit [] (Index.empty limit rankings, {}) [] where
  entry _ := rfl
  links _ := rfl
  updated := rfl
  log := (List.rtake_nil limit).symm
  limit := rfl

/-- What is in the index was declared by one of the documents. -/
theorem document_of_get? (h : Told x src limit docs r history) {s : String} {span : Span}
    (hs : r.1.get? s = some span) : span.document ∈ docs := by
  rw [h.entry s] at hs
  obtain ⟨doc, hdoc, hdecl⟩ := List.mem_filterMap.1 (List.mem_of_getLast? hs)
  rw [Extractor.document_of_declared? hdecl]
  exact hdoc

/-- Another document takes its symbols from other documents only. -/
theorem filter_leaves (h : Told x src limit docs r history) {doc : Path}
    (hnew : ∀ d ∈ docs, ¬ d.same doc) {l : List (String × Span)} (hl : (l.map Prod.fst).Nodup) :
    (Index.overwrites r.1.table l).filter (Handover.leaves doc) = Index.overwrites r.1.table l := by
  refine List.filter_eq_self.2 fun handover hmem => ?_
  rw [Index.overwrites_eq_filterMap hl] at hmem
  obtain ⟨e, -, hmem⟩ := List.mem_filterMap.1 hmem
  obtain ⟨previous, hget, rfl⟩ := Option.map_eq_some_iff.1 hmem
  have hother := hnew previous.document (h.document_of_get? hget)
  simpa [Handover.leaves] using hother

/-- **Another document extends the chains of what it declares.** -/
theorem absorb (h : Told x src limit docs r history) {doc : Path}
    (hnew : ∀ d ∈ docs, ¬ d.same doc) :
    ∃ more, Told x src limit (docs ++ [doc]) (Workspace.absorb x src r doc) (history ++ more) := by
  have hentry : ∀ s, (Workspace.absorb x src r doc).1.get? s
      = (x.declaredIn src (docs ++ [doc]) s).getLast? := by
    intro s
    rw [x.declaredIn_concat, List.getLast?_append, ← h.entry s]
    refine (Index.get?_mergedOrFailed r.1 doc (x.look src doc) s).trans ?_
    show (x.declared? src doc s).or _ = _
    cases x.declared? src doc s <;> rfl
  cases hlook : x.look src doc with
  | none =>
    have hnone : ∀ s, x.declaredIn src (docs ++ [doc]) s = x.declaredIn src docs s := by
      intro s
      rw [x.declaredIn_concat, Extractor.declared?, hlook]
      exact List.append_nil _
    have hsame := Workspace.absorb_of_unread hlook r
    refine ⟨[], hentry, fun s => ?_, ?_, ?_, ?_⟩
    · rw [List.append_nil, hnone]
      exact h.links s
    · rw [List.append_nil, hsame]
      exact h.updated
    · rw [List.append_nil, hsame]
      exact h.log
    · rw [hsame]
      exact h.limit
  | some found =>
    have hmerge := Workspace.absorb_of_look hlook r
    have hperm : (r.1.arranged found).Perm found.toList := Ranking.arrange_perm _ found
    have hkeys : ((r.1.arranged found).map Prod.fst).Nodup := Ranking.nodup_symbols_arrange _ found
    refine ⟨Index.overwrites r.1.table (r.1.arranged found), hentry, fun s => ?_, ?_, ?_, ?_⟩
    · have hdecl : x.declared? src doc s = found.get? s := by
        rw [Extractor.declared?, hlook]
        rfl
      have hold : r.1.table.get? s = (x.declaredIn src docs s).getLast? := h.entry s
      rw [List.filter_append, h.links s, Index.filter_symbol_overwrites _ hperm,
        x.declaredIn_concat, hdecl, hold]
      cases found.get? s with
      | none => simp
      | some span =>
        refine Eq.trans ?_ (Handover.chain_concat s _ span).symm
        cases (x.declaredIn src docs s).getLast? <;> rfl
    · rw [hmerge, List.length_append, h.updated]
      refine congrArg (r.2.updated + ·) ?_
      exact ((Index.replaced_foldl_placed doc _ (r.1.advance, ⟨0, 0⟩)).trans
        (Nat.zero_add _)).symm
    · have hlog : r.1.handovers = history.rtake r.1.limit := h.limit.symm ▸ h.log
      rw [hmerge, ← h.filter_leaves hnew hkeys, ← h.limit]
      exact Index.handovers_foldl_placed doc _ (r.1.advance, ⟨0, 0⟩) history hlog
    · rw [hmerge]
      exact (Index.limit_foldl_placed doc _ (r.1.advance, ⟨0, 0⟩)).trans h.limit

end Told

/-- **Reading distinct documents tells of all of them.** -/
theorem exists_told (x : Extractor) (src : Source) (limit : Nat) (rankings : Nat → Ranking)
    {docs : List Path} (h : docs.Pairwise fun a b => ¬ a.same b) :
    ∃ history, Told x src limit docs
      (docs.foldl (Workspace.absorb x src) (Index.empty limit rankings, {})) history := by
  induction docs using List.reverseRecOn with
  | nil => exact ⟨[], Told.nil x src limit rankings⟩
  | append_singleton docs doc ih =>
    obtain ⟨hfront, -, hlast⟩ := List.pairwise_append.1 h
    obtain ⟨history, htold⟩ := ih hfront
    obtain ⟨more, hmore⟩ :=
      htold.absorb fun d hd => hlast d hd doc (List.mem_singleton_self doc)
    rw [List.foldl_concat]
    exact ⟨history ++ more, hmore⟩

/-! ## Counting -/

namespace Workspace

/-- **The counts of reading documents one after the other.** -/
theorem counts_foldl_absorb (x : Extractor) (src : Source) (docs : List Path)
    (acc : Index × UpdateCounts) :
    (docs.foldl (absorb x src) acc).2.documents = acc.2.documents + docs.length
      ∧ (docs.foldl (absorb x src) acc).2.errors = acc.2.errors + docs.countP src.unreadable
      ∧ (docs.foldl (absorb x src) acc).2.added + (docs.foldl (absorb x src) acc).2.updated
        = acc.2.added + acc.2.updated + (docs.map fun doc => ((x.look src doc).getD ∅).size).sum
      ∧ (docs.foldl (absorb x src) acc).1.size + acc.2.added
        = acc.1.size + (docs.foldl (absorb x src) acc).2.added := by
  induction docs generalizing acc with
  | nil => exact ⟨rfl, rfl, rfl, rfl⟩
  | cons doc docs ih =>
    have hdocuments : (absorb x src acc doc).2.documents = acc.2.documents + 1 := by
      unfold absorb
      cases x.look src doc <;> rfl
    have herrors : (absorb x src acc doc).2.errors
        = acc.2.errors + if src.unreadable doc then 1 else 0 := by
      refine congrArg (acc.2.errors + ·)
        ((Update.errors_apply_look .created x src doc acc.1).trans (if_congr ?_ rfl rfl))
      rw [Extractor.look_eq_none_iff]
      simp
    have hfound : (absorb x src acc doc).2.added + (absorb x src acc doc).2.updated
        = acc.2.added + acc.2.updated + ((x.look src doc).getD ∅).size := by
      rw [← Update.added_add_updated_apply (u := .created) (by simp) doc (x.look src doc) acc.1]
      exact Nat.add_add_add_comm _ _ _ _
    have hsize : (absorb x src acc doc).1.size + acc.2.added
        = acc.1.size + (absorb x src acc doc).2.added := by
      have hbalance := Update.size_apply .created doc (x.look src doc) acc.1
      have hremoved : (Update.created.apply doc (x.look src doc) acc.1).2.removed = 0 := by
        cases x.look src doc <;> rfl
      show (Update.created.apply doc (x.look src doc) acc.1).1.size + acc.2.added
        = acc.1.size + (acc.2.added + (Update.created.apply doc (x.look src doc) acc.1).2.added)
      omega
    obtain ⟨ihdocuments, iherrors, ihfound, ihsize⟩ := ih (absorb x src acc doc)
    rw [List.foldl_cons, List.length_cons, List.countP_cons, List.map_cons, List.sum_cons]
    exact ⟨by omega, by omega, by omega, by omega⟩

end Workspace

namespace Extractor

variable (x : Extractor) (src : Source)

/-- A document names a symbol once if it declares it. -/
theorem count_symbolsIn (doc : Path) (s : String) :
    (x.symbolsIn src doc).count s = (x.declared? src doc s).toList.length := by
  have hnodup : (x.symbolsIn src doc).Nodup := Table.nodup_keys _
  cases h : x.declared? src doc s with
  | none =>
    refine List.count_eq_zero.2 fun hmem => ?_
    obtain ⟨span, hspan⟩ := mem_symbolsIn.1 hmem
    rw [h] at hspan
    exact absurd hspan (by simp)
  | some span => exact List.count_eq_one_of_mem hnodup (mem_symbolsIn.2 ⟨span, h⟩)

/-- Documents name a symbol as often as they declare it. -/
theorem count_flatMap_symbolsIn (docs : List Path) (s : String) :
    (docs.flatMap (x.symbolsIn src)).count s = (x.declaredIn src docs s).length := by
  induction docs using List.reverseRecOn with
  | nil => rfl
  | append_singleton docs doc ih =>
    rw [List.flatMap_append, List.count_append, ih, List.flatMap_singleton,
      x.count_symbolsIn, x.declaredIn_concat, List.length_append]

/-- **Every declaration is the first of its symbol or takes it over**: the
symbols and the handovers make up all that is declared. -/
theorem handoverTotal_add_length_dedup :
    x.handoverTotal src + (src.documents.flatMap (x.symbolsIn src)).dedup.length
      = (src.documents.map fun doc => ((x.look src doc).getD ∅).size).sum := by
  have hone : ∀ s ∈ (src.documents.flatMap (x.symbolsIn src)).dedup,
      (Handover.chain s (x.declaredIn src src.documents s)).length + 1
        = (src.documents.flatMap (x.symbolsIn src)).count s := by
    intro s hs
    have hpos := List.count_pos_iff.2 (List.mem_dedup.1 hs)
    rw [x.count_flatMap_symbolsIn] at hpos ⊢
    rw [Handover.length_chain]
    omega
  have hlength : (src.documents.flatMap (x.symbolsIn src)).length
      = (src.documents.map fun doc => ((x.look src doc).getD ∅).size).sum := by
    rw [List.length_flatMap]
    simp [symbolsIn, Table.keys, Table.size]
  have hsum : x.handoverTotal src + (src.documents.flatMap (x.symbolsIn src)).dedup.length
      = ((src.documents.flatMap (x.symbolsIn src)).dedup.map fun s =>
          (Handover.chain s (x.declaredIn src src.documents s)).length + 1).sum := by
    rw [List.sum_map_add]
    simp [handoverTotal]
  rw [hsum, List.map_congr_left hone, List.sum_map_count_dedup_eq_length, hlength]

end Extractor

namespace Workspace

variable (x : Extractor) (mode : CompletionMode) (limit : Nat) (rankings : Nat → Ranking)
  (src : Source)

/-- The entry of a symbol after a build is its last declaration. -/
theorem get?_build_empty (s : String) :
    ((empty x mode limit rankings).build src).1.index.get? s
      = (x.declaredIn src src.documents s).getLast? := by
  rw [get?_build, Extractor.declaredIn, List.getLast?_filterMap]
  exact Option.or_none

/-- A build indexes what some document declares. -/
theorem mem_symbols_build (s : String) :
    s ∈ ((empty x mode limit rankings).build src).1.index.symbols
      ↔ ∃ doc ∈ src.documents, s ∈ x.symbolsIn src doc := by
  refine Table.mem_keys.trans ?_
  show (∃ span, ((empty x mode limit rankings).build src).1.index.get? s = some span) ↔ _
  rw [get?_build_empty, ← Option.isSome_iff_exists, List.getLast?_isSome]
  simp [Extractor.declaredIn, List.filterMap_eq_nil_iff, Extractor.mem_symbolsIn,
    Option.ne_none_iff_exists']

/-- It indexes every declared symbol once. -/
theorem size_build :
    ((empty x mode limit rankings).build src).1.index.size
      = (src.documents.flatMap (x.symbolsIn src)).dedup.length := by
  have hsize : ((empty x mode limit rankings).build src).1.index.size
      = ((empty x mode limit rankings).build src).1.index.symbols.length := (List.length_map _).symm
  rw [hsize]
  refine List.Perm.length_eq ((List.perm_ext_iff_of_nodup (Table.nodup_keys _)
    (List.nodup_dedup _)).2 fun s => ?_)
  rw [List.mem_dedup, List.mem_flatMap]
  exact mem_symbols_build x mode limit rankings src s

/-- What a build adds is what it indexes. -/
theorem added_build :
    ((empty x mode limit rankings).build src).2.added = ((empty x mode limit rankings).build src).1.index.size := by
  have hsize := (counts_foldl_absorb x src src.documents (Index.empty limit rankings, {})).2.2.2
  exact (hsize.trans (Nat.zero_add _)).symm

/-- What a build replaces is what is handed over. -/
theorem updated_build :
    ((empty x mode limit rankings).build src).2.updated = x.handoverTotal src := by
  have hfound : ((empty x mode limit rankings).build src).2.added
      + ((empty x mode limit rankings).build src).2.updated
        = 0 + 0 + (src.documents.map fun doc => ((x.look src doc).getD ∅).size).sum :=
    (counts_foldl_absorb x src src.documents (Index.empty limit rankings, {})).2.2.1
  have htotal := x.handoverTotal_add_length_dedup src
  rw [added_build, size_build] at hfound
  omega

/-- **To build again over the same documents changes no entry.** -/
theorem table_build_build (w : Workspace) (src : Source) :
    ((w.build src).1.build src).1.index.table = (w.build src).1.index.table := by
  refine Table.ext_get? fun s => ?_
  show ((w.build src).1.build src).1.index.get? s = (w.build src).1.index.get? s
  rw [get?_build, get?_build, ← Option.or_assoc]
  exact congrArg (Option.or · _) Option.or_self

/-- **A build settles every symbol by the order of the documents**, and the log and
the counts tell of it. The documents are distinct, and the log has room for all
handovers.

A symbol is indexed exactly if some document declares it, where the last of its
declarations is; the log has for it the handovers from each declaration to the
next, and nothing else. The counts follow from this, and to build a second time
adds nothing and changes no entry. In whatever orders the declarations of the
documents are gone through it comes out the same, and at whatever width and in
whatever order the documents are read, a build can be done, and then has done just
that. -/
theorem build_resolves (hdistinct : src.documents.Pairwise fun a b => ¬ a.same b)
    (hlimit : x.handoverTotal src ≤ limit) :
    let w := empty x mode limit rankings
    let b := w.build src
    (∀ s, b.1.index.get? s = (x.declaredIn src src.documents s).getLast?)
      ∧ (∀ s, s ∈ b.1.index.symbols ↔ ∃ doc ∈ src.documents, s ∈ x.symbolsIn src doc)
      ∧ (∀ s, b.1.index.handovers.filter (fun h => h.symbol = s)
        = Handover.chain s (x.declaredIn src src.documents s))
      ∧ b.1.index.handovers.length = x.handoverTotal src
      ∧ b.2.added = b.1.index.size
      ∧ b.2.updated = x.handoverTotal src
      ∧ b.2.added + b.2.updated
        = (src.documents.map fun doc => ((x.look src doc).getD ∅).size).sum
      ∧ b.2.documents = src.documents.length
      ∧ b.2.errors = src.documents.countP src.unreadable
      ∧ (b.1.build src).1.index.table = b.1.index.table
      ∧ (b.1.build src).2.added = 0
      ∧ ∀ v ∈ [w, b.1], ∀ width steps,
        (∃ more, (Build.run x src (v.index, .start width src) (steps ++ more)).2.isDone = true)
          ∧ ((Build.run x src (v.index, .start width src) steps).2.isDone = true →
            (Build.run x src (v.index, .start width src) steps).1 = (v.build src).1.index
              ∧ (Build.run x src (v.index, .start width src) steps).2.counts
                = (v.build src).2) := by
  intro w b
  obtain ⟨hdocuments, herrors, hfound, -⟩ :=
    counts_foldl_absorb x src src.documents (Index.empty limit rankings, {})
  obtain ⟨history, htold⟩ := exists_told x src limit rankings hdistinct
  have hlength : history.length = x.handoverTotal src :=
    htold.updated.trans (updated_build x mode limit rankings src)
  have hlog : b.1.index.handovers = history := by
    refine htold.log.trans ?_
    rw [List.rtake, hlength, Nat.sub_eq_zero_of_le hlimit, List.drop_zero]
  have htable := table_build_build w src
  refine ⟨get?_build_empty x mode limit rankings src,
    mem_symbols_build x mode limit rankings src, fun s => ?_, ?_,
    added_build x mode limit rankings src, updated_build x mode limit rankings src,
    hfound.trans (Nat.zero_add _), hdocuments.trans (Nat.zero_add _),
    herrors.trans (Nat.zero_add _), htable, ?_, fun v hv width steps => ?_⟩
  · rw [hlog]
    exact htold.links s
  · rw [hlog]
    exact hlength
  · have hsize : (b.1.build src).1.index.size + 0 = b.1.index.size + (b.1.build src).2.added :=
      (counts_foldl_absorb x src src.documents (b.1.index, {})).2.2.2
    have hsame : (b.1.build src).1.index.size = b.1.index.size := congrArg Table.size htable
    omega
  · have hx : v.extractor = x := by
      obtain rfl | hv := List.mem_cons.1 hv
      · rfl
      · rw [List.mem_singleton.1 hv]
        rfl
    rw [← hx]
    exact Build.run_eq_build v src width steps

/-- Three documents declare a symbol one after the other, with one between them
that cannot be read, and the last one declares another symbol twice. -/
def handedOn : Source where
  documents := [⟨"a.dec"⟩, ⟨"b.dec"⟩, ⟨"c.dec"⟩, ⟨"d.dec"⟩]
  read doc :=
    if doc.text = "b.dec" then .error .missing
    else if doc.text = "d.dec" then .ok "g.PcdB|1\ng.PcdA|1\ng.PcdB|2"
    else .ok "g.PcdA|1"

theorem build_resolves_handedOn :
    (handedOn.documents.Pairwise fun a b => ¬ a.same b)
      ∧ Extractor.ordinary.handoverTotal handedOn = 2
      ∧ ((empty .ordinary default 2).build handedOn).1.index.handovers.filter
          (fun h => h.symbol = "PcdA")
        = [⟨"PcdA", ⟨⟨"a.dec"⟩, ⟨0, 0⟩, ⟨0, 8⟩, 0, 8⟩, ⟨⟨"c.dec"⟩, ⟨0, 0⟩, ⟨0, 8⟩, 0, 8⟩⟩,
          ⟨"PcdA", ⟨⟨"c.dec"⟩, ⟨0, 0⟩, ⟨0, 8⟩, 0, 8⟩, ⟨⟨"d.dec"⟩, ⟨1, 0⟩, ⟨1, 8⟩, 9, 17⟩⟩]
      ∧ ((empty .ordinary default 2).build handedOn).2 = ⟨4, 2, 2, 0, 1⟩ := by
  have hdistinct : handedOn.documents.Pairwise fun a b => ¬ a.same b := by decide
  have htotal : Extractor.ordinary.handoverTotal handedOn = 2 := by decide +kernel
  obtain ⟨-, -, hlinks, -⟩ :=
    build_resolves .ordinary default 2 (fun _ => .ascending) handedOn hdistinct (Nat.le_of_eq htotal)
  exact ⟨hdistinct, htotal, (hlinks "PcdA").trans (by decide +kernel), by decide +kernel⟩

end Workspace

end PcdCatalog

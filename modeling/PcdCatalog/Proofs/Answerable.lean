import PcdCatalog.Proofs.Activity
import PcdCatalog.Proofs.DeclarationScan
import PcdCatalog.Proofs.Upkeep

/-!
# Every indexed symbol can be asked for

Three searches have to agree on what a PCD name is. The pattern of declarations
decides what enters an index, a second search finds the name in a text whose
definition is asked for, and a third one the name that is to be completed. Were
one of them to draw the line elsewhere, some symbols would be indexed and yet be
out of reach of every query.

`Entry.Regular` is what ordinary declarations have in common: the symbol is `Pcd`
and word characters behind it, and the span lies on one line with its ends in
order. That a symbol of this form is the first name in its own text
(`Text.findName_name`) makes the queries answer it. Every entry of a workspace is
regular because every entry was declared by some document in one of the sources
that there have been (`Index.DrawnFrom`), whatever has happened to the index since;
this needs no invariant beyond that, and holds for calls and builds that overlap
as well.
-/

namespace PcdCatalog

/-! ## Names and queries -/

namespace Text

/-- **A PCD name**: `Pcd` and at least one word character. -/
def IsName (cs : List Char) : Prop :=
  ∃ tail, cs = 'P' :: 'c' :: 'd' :: tail ∧ tail ≠ [] ∧ ∀ c ∈ tail, isWordChar c = true

/-- A text of `Pcd` and word characters is the first name in it. -/
theorem findName_name {least : Nat} {tail : List Char} (hword : ∀ c ∈ tail, isWordChar c = true)
    (hleast : least ≤ tail.length) :
    findName least ('P' :: 'c' :: 'd' :: tail) = some ('P' :: 'c' :: 'd' :: tail) := by
  have hrun : tail.takeWhile isWordChar = tail := List.takeWhile_eq_self_iff.2 hword
  simp [findName, nameAtHead, afterPcd, hrun, hleast]

theorem IsName.definitionName {cs : List Char} (h : IsName cs) : definitionName cs = some cs := by
  obtain ⟨tail, rfl, hne, hword⟩ := h
  exact findName_name hword (List.length_pos_iff.2 hne)

theorem IsName.completionName {cs : List Char} (h : IsName cs) : completionName cs = some cs := by
  obtain ⟨tail, rfl, -, hword⟩ := h
  exact findName_name hword (Nat.zero_le _)

end Text

/-- What a candidate begins with is completed by it in either mode. -/
theorem CompletionMode.accepts_of_begins (m : CompletionMode) {typed candidate : List Char}
    (h : typed <+: candidate) : m.accepts typed candidate = true := by
  cases m with
  | leading => exact List.isPrefixOf_iff_prefix.2 h
  | anywhere =>
    show occurs typed candidate = true
    cases candidate with
    | nil => simp [occurs, List.prefix_nil.1 h]
    | cons c rest => simp [occurs, List.isPrefixOf_iff_prefix.2 h]

namespace Index

theorem symbols_eq_map_entries (i : Index) : i.symbols = i.entries.map Entry.symbol := by
  simp [symbols, entries, Table.keys]

/-- Symbols ascend. -/
theorem pairwise_symbols (i : Index) : i.symbols.Pairwise (· < ·) :=
  List.pairwise_map.2 (i.table.ascending.imp fun h => compareOfLessAndEq_eq_lt.1 h)

/-- What is asked for by its own name is found. -/
theorem definition_of_isName {i : Index} {s : String} (h : Text.IsName s.toList) :
    i.definition s = i.get? s := by
  unfold definition
  rw [h.definitionName, Option.bind_some, String.ofList_toList]

/-- What begins with the name in a text completes it. -/
theorem mem_completions_of_begins {i : Index} {s text : String} {typed : List Char}
    (hs : s ∈ i.symbols) (htext : Text.completionName text.toList = some typed)
    (hbegins : typed <+: s.toList) (mode : CompletionMode) : s ∈ i.completions text mode := by
  unfold completions
  rw [htext]
  exact List.mem_filter.2 ⟨hs, mode.accepts_of_begins hbegins⟩

/-- Where all symbols begin with the name in a text, all of them complete it. -/
theorem completions_eq_symbols {i : Index} {text : String} {typed : List Char}
    (htext : Text.completionName text.toList = some typed)
    (hall : ∀ s ∈ i.symbols, typed <+: s.toList) (mode : CompletionMode) :
    i.completions text mode = i.symbols := by
  unfold completions
  rw [htext]
  exact List.filter_eq_self.2 fun s hs => mode.accepts_of_begins (hall s hs)

end Index

/-! ## Regular entries -/

/-- **What ordinary declarations have in common**: the symbol is a PCD name, and
the span is on one line, with its positions and its bytes in order. -/
structure Entry.Regular (e : Entry) : Prop where
  name : Text.IsName e.symbol.toList
  line : e.span.start.line = e.span.stop.line
  order : compare e.span.start e.span.stop = .lt
  bytes : e.span.first < e.span.past

namespace Grammar

open Text (byteLength unitLength)

/-- A PCD name of the scanner is one. -/
theorem isName_of_scanLine {line : List Char} {h : Head} (hh : scanLine line = some h) :
    Text.IsName h.name := by
  obtain ⟨cs, -, hheads⟩ := heads_of_leftmost (Option.filter_eq_some_iff.1 hh).1
  have hpcd : isPcdName h.name = true := hheads.name_pcd
  have hword : ∀ c ∈ h.name, Text.isWordChar c = true := hheads.name_word
  unfold isPcdName at hpcd
  split at hpcd
  next c tail hname =>
    rw [hname] at hword
    exact ⟨c :: tail, hname, List.cons_ne_nil c tail, fun c' hc' =>
      hword c' (List.mem_cons_of_mem _ (List.mem_cons_of_mem _ (List.mem_cons_of_mem _ hc')))⟩
  next => exact absurd hpcd Bool.false_ne_true

/-- What a line declares takes up room on it, in code units and in bytes. -/
theorem before_lt_through {line : List Char} {h : Head} (hh : scanLine line = some h) :
    unitLength h.before < unitLength (through line)
      ∧ byteLength h.before < byteLength (through line) := by
  have hd := declares_of_scanLine hh
  have hunits : 0 < unitLength h.lead := by
    have hdot : Text.unitWidth '.' = 1 := by decide
    simp only [Head.lead, Text.unitLength_append, unitLength, hdot]
    omega
  have hbytes := Text.unitLength_le_byteLength h.lead
  rw [← hd.reach_eq, Head.reach]
  simp only [Text.unitLength_append, Text.byteLength_append]
  omega

/-- **What the ordinary extractor finds is regular**, in texts of less than 2³²
bytes. -/
theorem regular_of_extract {doc : Path} {text s : String} {span : Span}
    (h : (Extractor.ordinary.extract doc text).get? s = some span)
    (hlength : byteLength text.toList < UInt32.size) : (⟨s, span⟩ : Entry).Regular := by
  have hmem : (s, span) ∈ scan doc text.toList := by
    rw [← declarationsOf_ordinary]
    exact Table.mem_of_get?_ofList h
  obtain ⟨number, line, hn, hdecl⟩ := mem_scanLines hmem
  have hstart := Text.le_lineStart (Nat.le_of_lt (List.getElem?_eq_some_iff.1 hn).1)
  have hwithin := Text.lineStart_add_le hn
  obtain ⟨head, hh, hloc⟩ := located_of_declarationOn hdecl (by omega) (by omega)
  obtain ⟨hunits, hbytes⟩ := before_lt_through hh
  have hline : span.start.line = span.stop.line :=
    UInt32.toNat_inj.1 (hloc.startLine.trans hloc.stopLine.symm)
  have hcolumn : span.start.character < span.stop.character := by
    rw [UInt32.lt_iff_toNat_lt, hloc.startColumn, hloc.stopColumn]
    exact hunits
  refine ⟨?_, hline, ?_, ?_⟩
  · have hname : s.toList = head.name := by
      rw [show s = String.ofList head.name from hloc.name, String.toList_ofList]
    exact hname ▸ isName_of_scanLine hh
  · exact Position.compare_eq_lt_iff.2 (.inr ⟨hline, hcolumn⟩)
  · exact hloc.first ▸ hloc.past ▸ Nat.add_lt_add_left hbytes _

end Grammar

/-! ## Where entries come from -/

/-- **Every entry was declared** by some document in one of the sources. -/
def Index.DrawnFrom (x : Extractor) (seen : List Source) (i : Index) : Prop :=
  ∀ s span, i.get? s = some span → ∃ src ∈ seen, ∃ doc, x.declared? src doc s = some span

namespace Index.DrawnFrom

variable {x : Extractor} {seen : List Source} {i : Index}

theorem empty (x : Extractor) (seen : List Source) (limit : Nat) (rankings : Nat → Ranking) :
    (Index.empty limit rankings).DrawnFrom x seen :=
  fun _ _ h => absurd h (by simp [Index.empty, Index.get?, EmptyCollection.emptyCollection])

theorem mono (h : i.DrawnFrom x seen) {more : List Source} (hsub : seen ⊆ more) :
    i.DrawnFrom x more := by
  intro s span hs
  obtain ⟨src, hsrc, hdecl⟩ := h s span hs
  exact ⟨src, hsub hsrc, hdecl⟩

/-- **An update brings in what its document declares**, and nothing else. -/
theorem apply (h : i.DrawnFrom x seen) {src : Source} (hsrc : src ∈ seen) (u : Update)
    (doc : Path) : (u.apply doc (u.look x src doc) i).1.DrawnFrom x seen := by
  intro s span hs
  rw [Update.get?_apply_look] at hs
  obtain hnew | ⟨-, hold⟩ := Option.or_eq_some_iff.1 hs
  · cases u with
    | created => exact ⟨src, hsrc, doc, hnew⟩
    | changed => exact ⟨src, hsrc, doc, hnew⟩
    | deleted => exact absurd hnew (by simp [Update.look])
  · exact h s span (Option.filter_eq_some_iff.1 hold).1

/-- A build brings in what the listed documents declare. -/
theorem build {w : Workspace} (h : w.index.DrawnFrom w.extractor seen) {src : Source}
    (hsrc : src ∈ seen) : (w.build src).1.index.DrawnFrom w.extractor seen := by
  intro s span hs
  rw [Workspace.get?_build] at hs
  obtain hnew | ⟨-, hold⟩ := Option.or_eq_some_iff.1 hs
  · obtain ⟨doc, -, hdecl⟩ := List.exists_of_findSome?_eq_some hnew
    exact ⟨src, hsrc, doc, hdecl⟩
  · exact h s span hold

theorem perform {w : Workspace} (h : w.index.DrawnFrom w.extractor seen) {src : Source}
    (hsrc : src ∈ seen) (o : Operation) : (o.perform w src).index.DrawnFrom w.extractor seen := by
  cases o with
  | build => exact h.build hsrc
  | rebuild =>
    exact build (w := { w with index := w.index.clear }) (empty w.extractor seen _ _) hsrc
  | created doc => exact h.apply hsrc .created doc
  | changed doc => exact h.apply hsrc .changed doc
  | deleted doc => exact h.apply hsrc .deleted doc

/-- **What operations leave in an index was declared** in the source of one of
them. -/
theorem runAll {w : Workspace} (h : w.index.DrawnFrom w.extractor seen)
    {history : List (Source × Operation)} (hsub : ∀ o ∈ history, o.1 ∈ seen) :
    (Operation.runAll w history).index.DrawnFrom w.extractor seen := by
  induction history generalizing w with
  | nil => exact h
  | cons o history ih =>
    obtain ⟨ho, hrest⟩ := List.forall_mem_cons.1 hsub
    have hnext := h.perform ho o.2
    rw [← Operation.extractor_perform w o.1 o.2] at hnext ⊢
    exact ih hnext hrest

end Index.DrawnFrom

/-- **What calls and builds leave in an index was declared** in one of the sources
that there have been, in whatever order their steps come. -/
theorem Activity.drawnFrom_run (x : Extractor) (limit : Nat) (rankings : Nat → Ranking)
    (src : Source) (steps : List Step) :
    ((start (.empty limit rankings) src).run x steps).index.DrawnFrom x (sources src steps) := by
  induction steps using List.reverseRecOn with
  | nil => exact Index.DrawnFrom.empty x [src] limit rankings
  | append_singleton steps a ih =>
    have hmore : sources src steps ⊆ sources src (steps ++ [a]) := by
      rw [sources_concat]
      exact List.subset_append_left _ _
    rw [run_concat]
    by_cases ha : a = .clear
    · subst ha
      exact Index.DrawnFrom.empty x _ _ _
    · cases (heard_run x (.empty limit rankings) src steps).act ha with
      | idle hindex heffects =>
        rw [hindex]
        exact ih.mono hmore
      | acts e hindex hcounts heffects hlooked =>
        obtain ⟨src', hsrc', hfound⟩ := hlooked
        rw [hindex, Effect.apply, hfound]
        exact (ih.apply hsrc' e.task.update e.task.document).mono hmore

/-! ## Workspaces -/

/-- **Every entry can be asked for**: it is regular and stands under its own
symbol, its symbol is defined by it and completes itself, and `Pcd` is completed
by all symbols. -/
structure Workspace.Answerable (w : Workspace) : Prop where
  regular : ∀ e ∈ w.index.entries, e.Regular
  keyed : ∀ e ∈ w.index.entries, w.index.get? e.symbol = some e.span
  defined : ∀ e ∈ w.index.entries, w.definition e.symbol = some e.span
  completed : ∀ e ∈ w.index.entries, ∀ mode, e.symbol ∈ w.completions e.symbol mode
  listed : ∀ mode, w.completions "Pcd" mode = w.index.entries.map Entry.symbol
  ascending : (w.index.entries.map Entry.symbol).Pairwise (· < ·)

/-- **Regular entries can be asked for.** -/
theorem Workspace.answerable_of_regular {w : Workspace} (h : ∀ e ∈ w.index.entries, e.Regular) :
    w.Answerable where
  regular := h
  keyed e he := Index.mem_entries.1 he
  defined e he := (Index.definition_of_isName (h e he).name).trans (Index.mem_entries.1 he)
  completed e he mode := by
    refine Index.mem_completions_of_begins ?_ (h e he).name.completionName List.prefix_rfl _
    rw [Index.symbols_eq_map_entries]
    exact List.mem_map_of_mem he
  listed mode := by
    have htext : Text.completionName "Pcd".toList = some ['P', 'c', 'd'] := by decide
    rw [← Index.symbols_eq_map_entries]
    refine Index.completions_eq_symbols htext (fun s hs => ?_) _
    rw [Index.symbols_eq_map_entries] at hs
    obtain ⟨e, he, rfl⟩ := List.mem_map.1 hs
    obtain ⟨tail, htail, -⟩ := (h e he).name
    exact ⟨tail, htail.symm⟩
  ascending := by
    rw [← Index.symbols_eq_map_entries]
    exact w.index.pairwise_symbols

/-- Every text of a source has less than 2³² bytes. -/
def Source.Short (src : Source) : Prop :=
  ∀ doc text, src.read doc = .ok text → Text.byteLength text.toList < UInt32.size

/-- What was declared in short texts is regular. -/
theorem Index.DrawnFrom.regular {seen : List Source} {i : Index}
    (h : i.DrawnFrom .ordinary seen) (hshort : ∀ src ∈ seen, src.Short) :
    ∀ e ∈ i.entries, e.Regular := by
  intro e he
  obtain ⟨src, hsrc, doc, hdecl⟩ := h e.symbol e.span (mem_entries.1 he)
  obtain ⟨text, hread, hget⟩ := Extractor.declared?_eq_some_iff.1 hdecl
  exact Grammar.regular_of_extract hget (hshort src hsrc doc text hread)

namespace Workspace

/-- **Every indexed symbol can be asked for**, in every state that a workspace of
ordinary declarations reaches – by operations one at a time, with the documents
edited between them, or by calls and builds in any interleaving, whatever orders the
merges come in – as long as no text has 2³² bytes. -/
theorem ordinary_answerable (mode : CompletionMode) (limit : Nat) (rankings : Nat → Ranking) :
    (∀ history : List (Source × Operation), (∀ o ∈ history, o.1.Short) →
      (Operation.runAll (empty .ordinary mode limit rankings) history).Answerable)
    ∧ ∀ (src : Source) (steps : List Activity.Step),
      (∀ src' ∈ Activity.sources src steps, src'.Short) →
      Answerable ⟨.ordinary, mode,
        ((Activity.start (.empty limit rankings) src).run .ordinary steps).index⟩ := by
  refine ⟨fun history hshort => ?_, fun src steps hshort => ?_⟩
  · have hdrawn : (empty .ordinary mode limit rankings).index.DrawnFrom .ordinary
        (history.map Prod.fst) := Index.DrawnFrom.empty _ _ limit rankings
    refine answerable_of_regular ((hdrawn.runAll fun o ho => List.mem_map_of_mem ho).regular ?_)
    exact fun src hsrc => by
      obtain ⟨o, ho, rfl⟩ := List.mem_map.1 hsrc
      exact hshort o ho
  · exact answerable_of_regular
      ((Activity.drawnFrom_run .ordinary limit rankings src steps).regular hshort)

/-- Every document has one text. -/
def sole (text : String) : Source := ⟨[⟨"a.dec"⟩], fun _ => .ok text⟩

/-- A build, and two changes by which one name inside another is declared too. -/
def nested : List (Source × Operation) :=
  [(sole "µg.PcdUsePcdBase |1;\r\n", .build), (sole "g.PcdBase|µ", .changed ⟨"b.dec"⟩),
    (sole "g.PcdX|\n  h.PcdBase  |Pcd", .changed ⟨"b.dec/"⟩)]

/-- A call that reads, and acts when its document has another text. -/
def outdated : List Activity.Step :=
  [.call (.issue .created ⟨"a.dec"⟩), .call (.read 0), .call (.edit (sole "")), .call (.apply 0)]

theorem ordinary_answerable_nested :
    (∀ o ∈ nested, o.1.Short)
      ∧ (Operation.runAll (empty .ordinary default 0) nested).index.symbols
        = ["PcdBase", "PcdUsePcdBase"]
      ∧ (Operation.runAll (empty .ordinary default 0) nested).Answerable
      ∧ (∀ src ∈ Activity.sources (sole "g.PcdA|1") outdated, src.Short)
      ∧ ((Activity.start (.empty 0) (sole "g.PcdA|1")).run .ordinary outdated).index.symbols = ["PcdA"]
      ∧ Answerable ⟨.ordinary, default,
        ((Activity.start (.empty 0) (sole "g.PcdA|1")).run .ordinary outdated).index⟩ := by
  have hshort : ∀ text : String, Text.byteLength text.toList < UInt32.size → (sole text).Short :=
    fun text h doc text' hread => Except.ok.inj hread ▸ h
  have hnested : ∀ o ∈ nested, o.1.Short := by
    unfold nested
    rw [List.forall_mem_cons, List.forall_mem_cons, List.forall_mem_singleton]
    exact ⟨hshort _ (by decide), hshort _ (by decide), hshort _ (by decide)⟩
  have houtdated : ∀ src ∈ Activity.sources (sole "g.PcdA|1") outdated, src.Short := by
    have hsources : Activity.sources (sole "g.PcdA|1") outdated = [sole "g.PcdA|1", sole ""] := rfl
    rw [hsources, List.forall_mem_cons, List.forall_mem_singleton]
    exact ⟨hshort _ (by decide), hshort _ (by decide)⟩
  exact ⟨hnested, by decide +kernel, (ordinary_answerable default 0 fun _ => .ascending).1 nested hnested,
    houtdated, by decide +kernel,
    (ordinary_answerable default 0 fun _ => .ascending).2 _ outdated houtdated⟩

end Workspace

end PcdCatalog

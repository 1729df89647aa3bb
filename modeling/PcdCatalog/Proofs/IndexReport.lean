import PcdCatalog.Proofs.DiskLaws
import PcdCatalog.Proofs.Listing
import PcdCatalog.Proofs.Redeclaration
import PcdCatalog.Run

/-!
# What the index command says about redeclared symbols

The index command announces a number of PCDs that are declared in more than one file,
and lists below the announcement one handover a line. The number is that of the lines.

How many symbols there are with more than one document is another number
(`Extractor.redeclared`). A symbol that two documents declare changes hands once, and
is rightly counted; but with every document more it changes hands once more, and is
counted again. So the two numbers differ by one for every document after the second
that declares a symbol (`Extractor.handoverTotal_eq`), and they are the same exactly if
no symbol has a third (`Extractor.handoverTotal_eq_length_iff`). Whether anything is
announced does not depend on which of them is meant: the one is zero exactly if the
other is.

All of this needs a log with room for every handover. The documents are the files that
a walk finds on a file tree, which are distinct.
-/

namespace PcdCatalog

/-! ## Symbols with more than one document -/

namespace Extractor

variable (x : Extractor) (src : Source)

/-- The documents that declare a symbol. One that cannot be read declares nothing. -/
def declarers (s : String) : List Path :=
  src.documents.filter fun doc => (x.declared? src doc s).isSome

/-- **The symbols declared in more than one document**, each once. -/
def redeclared : List String :=
  (src.documents.flatMap (x.symbolsIn src)).dedup.filter fun s => 1 < (x.declarers src s).length

variable {x src}

theorem mem_declarers {s : String} {doc : Path} :
    doc ∈ x.declarers src s ↔ doc ∈ src.documents ∧ s ∈ x.symbolsIn src doc := by
  rw [declarers, List.mem_filter, Option.isSome_iff_exists, mem_symbolsIn]

theorem mem_redeclared {s : String} :
    s ∈ x.redeclared src ↔ 1 < (x.declarers src s).length := by
  rw [redeclared, List.mem_filter, List.mem_dedup, List.mem_flatMap, decide_eq_true_iff]
  refine ⟨And.right, fun h => ⟨?_, h⟩⟩
  obtain ⟨doc, hdoc⟩ := List.exists_mem_of_length_pos (Nat.zero_lt_of_lt h)
  exact ⟨doc, mem_declarers.1 hdoc⟩

/-- **A symbol is redeclared exactly if two documents declare it**, where no document is
listed twice. -/
theorem mem_redeclared_iff (hdistinct : src.documents.Pairwise fun a b => ¬ a.same b)
    {s : String} :
    s ∈ x.redeclared src
      ↔ ∃ a ∈ src.documents, ∃ b ∈ src.documents, ¬ a.same b ∧ s ∈ x.symbolsIn src a
        ∧ s ∈ x.symbolsIn src b := by
  rw [mem_redeclared]
  constructor
  · intro h
    have hpair : (x.declarers src s).Pairwise fun a b => ¬ a.same b := hdistinct.filter _
    match hdocs : x.declarers src s with
    | [] | [_] => simp [hdocs] at h
    | a :: b :: _ =>
      rw [hdocs] at hpair
      have ha : a ∈ x.declarers src s := hdocs ▸ List.mem_cons_self
      have hb : b ∈ x.declarers src s := hdocs ▸ List.mem_cons_of_mem a List.mem_cons_self
      obtain ⟨ha, hsa⟩ := mem_declarers.1 ha
      obtain ⟨hb, hsb⟩ := mem_declarers.1 hb
      exact ⟨a, ha, b, hb, (List.pairwise_cons.1 hpair).1 b List.mem_cons_self, hsa, hsb⟩
  · rintro ⟨a, ha, b, hb, hab, hsa, hsb⟩
    have ha := mem_declarers.2 ⟨ha, hsa⟩
    have hb := mem_declarers.2 ⟨hb, hsb⟩
    match hdocs : x.declarers src s with
    | [] => simp [hdocs] at ha
    | [c] =>
      obtain rfl : a = c := by simpa [hdocs] using ha
      obtain rfl : b = a := by simpa [hdocs] using hb
      exact absurd (Path.same_self b) hab
    | _ :: _ :: _ => simp

/-! ## Symbols and handovers -/

/-- Every document that declares a symbol adds a declaration of it. -/
theorem length_declaredIn (s : String) :
    (x.declaredIn src src.documents s).length = (x.declarers src s).length := by
  rw [declaredIn, List.length_filterMap_eq_countP, List.countP_eq_length_filter, declarers]

/-- **The handovers are the redeclared symbols, and one more for every document after the
second** that declares one of them. -/
theorem handoverTotal_eq :
    x.handoverTotal src
      = (x.redeclared src).length
        + ((x.redeclared src).map fun s => (x.declarers src s).length - 2).sum := by
  have hchain : ∀ s, (Handover.chain s (x.declaredIn src src.documents s)).length
      = (x.declarers src s).length - 1 := by
    intro s
    rw [Handover.length_chain, length_declaredIn]
  have hone : ∀ s ∈ x.redeclared src,
      (x.declarers src s).length - 1 = 1 + ((x.declarers src s).length - 2) := by
    intro s hs
    have hmore := mem_redeclared.1 hs
    omega
  calc x.handoverTotal src
      = ((src.documents.flatMap (x.symbolsIn src)).dedup.map fun s =>
          (x.declarers src s).length - 1).sum := by
        unfold handoverTotal
        simp only [hchain]
    _ = ((x.redeclared src).map fun s => (x.declarers src s).length - 1).sum := by
        rw [← List.sum_map_filter_add_sum_map_filter_not
          fun s => 1 < (x.declarers src s).length, redeclared, Nat.add_eq_left,
          List.sum_eq_zero_iff_forall_eq_nat, List.forall_mem_map]
        intro s hs
        have hfew := of_decide_eq_true (List.mem_filter.1 hs).2
        omega
    _ = ((x.redeclared src).map fun s => 1 + ((x.declarers src s).length - 2)).sum := by
        rw [List.map_congr_left hone]
    _ = _ := by
        rw [List.sum_map_add]
        simp

/-- There are handovers exactly if there are redeclared symbols. -/
theorem handoverTotal_ne_zero_iff : x.handoverTotal src ≠ 0 ↔ x.redeclared src ≠ [] := by
  rw [handoverTotal_eq]
  cases h : x.redeclared src with
  | nil => simp
  | cons s l =>
    rw [List.length_cons]
    exact iff_of_true (by omega) (by simp)

/-- **There are as many handovers as redeclared symbols** exactly if no symbol is declared
in a third document. -/
theorem handoverTotal_eq_length_iff :
    x.handoverTotal src = (x.redeclared src).length
      ↔ ∀ s, (x.declarers src s).length ≤ 2 := by
  rw [handoverTotal_eq, Nat.add_eq_left, List.sum_eq_zero_iff_forall_eq_nat,
    List.forall_mem_map]
  constructor
  · intro h s
    by_contra hmore
    have hzero := h s (mem_redeclared.2 (by omega))
    omega
  · intro h s _
    exact Nat.sub_eq_zero_of_le (h s)

end Extractor

/-! ## Sources that say the same -/

section SaysSame

variable {src src' : Source} (hdocs : src.documents = src'.documents)
  (hread : ∀ doc ∈ src.documents, src.read doc = src'.read doc)

include hdocs hread

theorem Extractor.redeclared_congr (x : Extractor) :
    (∀ s, x.declarers src s = x.declarers src' s) ∧ x.redeclared src = x.redeclared src' := by
  have hlook : ∀ doc ∈ src.documents, x.look src doc = x.look src' doc :=
    fun doc hdoc => x.look_congr (congrArg Except.toOption (hread doc hdoc))
  have hdeclarers : ∀ s, x.declarers src s = x.declarers src' s := by
    intro s
    rw [declarers, declarers, ← hdocs]
    refine List.filter_congr fun doc hdoc => ?_
    rw [declared?, declared?, hlook doc hdoc]
  have hsymbols : src.documents.flatMap (x.symbolsIn src)
      = src'.documents.flatMap (x.symbolsIn src') := by
    rw [← hdocs]
    refine List.flatMap_congr fun doc hdoc => ?_
    rw [symbolsIn, symbolsIn, hlook doc hdoc]
  refine ⟨hdeclarers, ?_⟩
  rw [redeclared, redeclared, hsymbols]
  simp only [hdeclarers]

end SaysSame

/-! ## What is printed -/

/-- The announcement of `n` symbols, and the handovers below it. -/
def Opened.announcement (n : Nat) (hs : List Handover) : List String :=
  if n = 0 then []
  else ["", toString n ++ " PCDs are declared in more than one file:"]
    ++ hs.map fun h =>
      "  " ++ h.symbol ++ ": " ++ h.previous.display ++ " replaced by " ++ h.replacement.display

/-- What is announced is the number of handovers in the log. -/
theorem Opened.handoverLines_eq (o : Opened) :
    o.handoverLines
      = announcement o.workspace.index.handovers.length o.workspace.index.handovers := by
  unfold handoverLines announcement
  cases o.workspace.index.handovers with
  | nil => rfl
  | cons h hs => exact (if_neg (Nat.succ_ne_zero hs.length)).symm

/-- The log of a build has a handover for every one there is, if it has room for them. -/
theorem Workspace.length_handovers_build (x : Extractor) (mode : CompletionMode) {limit : Nat}
    (rankings : Nat → Ranking) {src : Source}
    (hdistinct : src.documents.Pairwise fun a b => ¬ a.same b)
    (hlimit : x.handoverTotal src ≤ limit) :
    ((empty x mode limit rankings).build src).1.index.handovers.length = x.handoverTotal src := by
  obtain ⟨history, htold⟩ := exists_told x src limit rankings hdistinct
  have hlength : history.length = x.handoverTotal src :=
    htold.updated.trans (updated_build x mode limit rankings src)
  have hlog : ((empty x mode limit rankings).build src).1.index.handovers = history.rtake limit :=
    htold.log
  rw [hlog, List.rtake, hlength, Nat.sub_eq_zero_of_le hlimit, List.drop_zero, hlength]

/-- The log is as long as the configuration says. -/
theorem IndexConfig.limit_of_settings {c : IndexConfig} {settings : Settings}
    (h : c.settings = .ok settings) : settings.limit = c.collisionLogLimit := by
  obtain ⟨extensions, ignored, mode, reads, limit, pattern⟩ := c
  cases pattern with
  | none => exact congrArg Settings.limit (Except.ok.inj h).symm
  | some p =>
    have hread : ((Extractor.ofPattern p).bind fun x =>
        .ok ⟨x, mode, max reads 1, limit⟩ : Except PatternFault Settings) = .ok settings := h
    cases hx : Extractor.ofPattern p with
    | error e =>
      rw [hx] at hread
      exact absurd hread (by simp [Except.bind])
    | ok x =>
      rw [hx] at hread
      exact congrArg Settings.limit (Except.ok.inj hread).symm

namespace Surroundings

/-- The declaration files that a configuration selects, as documents. -/
def source (s : Surroundings) (c : Config) : Source :=
  Selection.source ⟨s.root, c.index.extensions, c.index.ignorePatterns⟩ s.disk s.cwd s.user

/-- The workspace of a configuration. -/
def opened (s : Surroundings) (c : Config) (settings : Settings) : Opened where
  root := s.root
  config := c
  selection := ⟨s.root, c.index.extensions, c.index.ignorePatterns⟩
  workspace := ((settings.workspace s.rankings).build (s.source c)).1
  notes := Narration.build (settings.workspace s.rankings) (s.source c) s.root

variable {s : Surroundings} {c : Config} {settings : Settings}

/-- **A workspace opens** if its configuration can be loaded and its pattern read. -/
theorem openWorkspace_eq (hload : Config.load s.disk s.cwd s.root = .ok c)
    (hsettings : c.index.settings = .ok settings) :
    s.openWorkspace = .ok (s.opened c settings) := by
  unfold openWorkspace
  rw [hload]
  show (c.index.settings.mapError Failure.pattern).bind _ = _
  rw [hsettings]
  rfl

theorem withWorkspace_of_ok {o : Opened} (h : s.openWorkspace = .ok o) (k : Opened → Outcome) :
    s.withWorkspace k = { k o with notes := o.notes ++ (k o).notes } := by
  unfold withWorkspace
  rw [h]

/-- **What the index command prints** once the workspace is open. -/
theorem run_index_eq (list : Bool) {o : Opened} (h : s.openWorkspace = .ok o) :
    (Command.index list).run s
      = { disk := s.disk
          notes := o.notes
          out := Text.unlines (o.indexLines s.elapsed list) } := by
  have hrun : (Command.index list).run s = s.withWorkspace fun o =>
      { disk := s.disk, out := Text.unlines (o.indexLines s.elapsed list) } := rfl
  rw [hrun, withWorkspace_of_ok h, List.append_nil]

/-- **The index command announces handovers.** On a file tree whose configuration loads, with
a pattern that can be read and a log with room for all handovers, the workspace opens and
the command prints the announcement of as many symbols as there are handovers, and these
below it.

Something is announced exactly if some symbol is redeclared, which is to say that two
distinct documents declare it. The number is that of the redeclared symbols, and one more
for every document after the second that declares one of them; so it is their number
exactly if no symbol is declared in a third document. -/
theorem run_index_announces (list : Bool) (htree : s.disk.Tree)
    (hload : Config.load s.disk s.cwd s.root = .ok c)
    (hsettings : c.index.settings = .ok settings)
    (hlimit : settings.extractor.handoverTotal (s.source c) ≤ c.index.collisionLogLimit) :
    let x := settings.extractor
    let src := s.source c
    (∃ o hs, s.openWorkspace = .ok o ∧ hs.length = x.handoverTotal src
        ∧ (Command.index list).run s
          = { disk := s.disk
              notes := o.notes
              out := Text.unlines
                (["Workspace root: " ++ s.root.text, o.countText ++ " in " ++ s.elapsed ++ "s"]
                  ++ Opened.announcement (x.handoverTotal src) hs
                  ++ if list then "" :: o.workspace.index.entries.map o.entryLine else []) })
      ∧ (x.redeclared src).Nodup
      ∧ (∀ t, t ∈ x.redeclared src
        ↔ ∃ a ∈ src.documents, ∃ b ∈ src.documents, ¬ a.same b ∧ t ∈ x.symbolsIn src a
          ∧ t ∈ x.symbolsIn src b)
      ∧ (x.handoverTotal src ≠ 0 ↔ x.redeclared src ≠ [])
      ∧ x.handoverTotal src = (x.redeclared src).length
        + ((x.redeclared src).map fun t => (x.declarers src t).length - 2).sum
      ∧ (x.handoverTotal src = (x.redeclared src).length
        ↔ ∀ t, (x.declarers src t).length ≤ 2) := by
  intro x src
  have hdistinct : src.documents.Pairwise fun a b => ¬ a.same b :=
    (Selection.distinct_files _ s.cwd s.user htree).imp Bool.eq_false_iff.1
  have hlength : (s.opened c settings).workspace.index.handovers.length = x.handoverTotal src :=
    Workspace.length_handovers_build x settings.mode s.rankings hdistinct
      ((IndexConfig.limit_of_settings hsettings).symm ▸ hlimit)
  refine ⟨⟨s.opened c settings, _, openWorkspace_eq hload hsettings, hlength, ?_⟩,
    (List.nodup_dedup _).filter _, fun t => Extractor.mem_redeclared_iff hdistinct,
    Extractor.handoverTotal_ne_zero_iff, Extractor.handoverTotal_eq,
    Extractor.handoverTotal_eq_length_iff⟩
  rw [run_index_eq list (openWorkspace_eq hload hsettings), Opened.indexLines,
    Opened.handoverLines_eq, hlength]
  rfl

/-! ### A symbol in three documents -/

/-- A disk on which three files declare one symbol. -/
def thrice : Disk where
  nodes :=
    { toList := ["a.dec", "b.dec", "c.dec"].map fun name => ([name], .file "g.PcdA|1".toUTF8)
      ascending := by decide +kernel }

/-- The root of that disk. -/
def atThrice : Surroundings where
  disk := thrice
  cwd := []
  elapsed := "0.00"

theorem tree_thrice : thrice.Tree := ⟨by decide +kernel, by decide +kernel⟩

theorem root_atThrice : atThrice.root = ⟨"/"⟩ := by decide +kernel

/-- It has no configuration of its own. -/
theorem load_atThrice : Config.load atThrice.disk atThrice.cwd atThrice.root = .ok {} := by
  have hfile : Config.file ⟨"/"⟩ = ⟨"/.pcdindex/config.toml"⟩ := by decide +kernel
  have hpieces : Disk.pieces "/.pcdindex/config.toml" = [".pcdindex", "config.toml"] := by
    decide +kernel
  have hname : ¬ ".pcdindex".utf8ByteSize > Disk.nameLimit := by decide +kernel
  have hfollow : Disk.Followable ⟨"/.pcdindex/config.toml"⟩ := by decide +kernel
  have hresolve : thrice.resolve [] (Config.file ⟨"/"⟩) = .error .notFound := by
    have hroot : thrice.isDirectoryAt [] = true := rfl
    have habsent : thrice.at? [".pcdindex"] = none := by decide +kernel
    rw [hfile, Disk.resolve, Disk.locate_eq hfollow, hpieces, Disk.origin, if_pos (by decide),
      Disk.pursue]
    simp [hroot, habsent, hname]
  have habsent : ¬ thrice.present [] (Config.file ⟨"/"⟩) = true := by
    rw [Disk.present_iff, hresolve]
    simp
  rw [root_atThrice]
  exact if_neg habsent

/-- What its files say. -/
def thriceSource : Source where
  documents := [⟨"/a.dec"⟩, ⟨"/b.dec"⟩, ⟨"/c.dec"⟩]
  read _ := .ok "g.PcdA|1"

theorem documents_atThrice : (atThrice.source {}).documents = thriceSource.documents := by
  have hruleless : Walk.Ruleless thrice := by decide +kernel
  unfold source
  rw [root_atThrice]
  refine (Selection.files_of_ruleless [] _ hruleless _ _).trans ?_
  decide +kernel

theorem read_atThrice : ∀ doc ∈ (atThrice.source {}).documents,
    (atThrice.source {}).read doc = thriceSource.read doc := by
  have hnames : ∀ name ∈ ["a.dec", "b.dec", "c.dec"], Path.IsName name
      ∧ name.toList.any (·.toNat == 0) = false ∧ Disk.Piece name
      ∧ ¬ (Path.join ⟨"/"⟩ ⟨name⟩).text.utf8ByteSize ≥ Disk.pathLimit := by decide +kernel
  have hat : ∀ name ∈ ["a.dec", "b.dec", "c.dec"],
      thrice.at? [name] = some (.file "g.PcdA|1".toUTF8) := by
    simp only [List.forall_mem_cons]
    exact ⟨rfl, rfl, rfl, fun _ h => absurd h List.not_mem_nil⟩
  have hjoin : thriceSource.documents
      = ["a.dec", "b.dec", "c.dec"].map fun name => Path.join ⟨"/"⟩ ⟨name⟩ := by decide +kernel
  rw [documents_atThrice, hjoin]
  intro doc hdoc
  obtain ⟨name, hname, rfl⟩ := List.mem_map.1 hdoc
  unfold source
  rw [root_atThrice]
  exact Selection.read_source_of_root _ _ (hnames name hname) (hat name hname)

theorem handoverTotal_atThrice : Extractor.ordinary.handoverTotal (atThrice.source {}) = 2 := by
  obtain ⟨hdeclarers, hredeclared⟩ :=
    Extractor.redeclared_congr documents_atThrice read_atThrice .ordinary
  have htotal : Extractor.ordinary.handoverTotal (atThrice.source {})
      = Extractor.ordinary.handoverTotal thriceSource := by
    rw [Extractor.handoverTotal_eq, Extractor.handoverTotal_eq, hredeclared]
    simp only [hdeclarers]
  rw [htotal]
  decide +kernel

theorem run_index_announces_thrice :
    (atThrice.disk.Tree ∧ Config.load atThrice.disk atThrice.cwd atThrice.root = .ok {}
        ∧ ({} : Config).index.settings = .ok ⟨.ordinary, .leading, 16, 256⟩
        ∧ Extractor.ordinary.handoverTotal (atThrice.source {}) = 2)
      ∧ (∃ o hs, atThrice.openWorkspace = .ok o ∧ hs.length = 2
        ∧ (Command.index true).run atThrice
          = { disk := atThrice.disk
              notes := o.notes
              out := Text.unlines
                (["Workspace root: " ++ atThrice.root.text,
                    o.countText ++ " in " ++ atThrice.elapsed ++ "s"]
                  ++ Opened.announcement 2 hs
                  ++ "" :: o.workspace.index.entries.map o.entryLine) })
      ∧ ¬ ∀ t, (Extractor.ordinary.declarers (atThrice.source {}) t).length ≤ 2 := by
  have hlimit : Extractor.ordinary.handoverTotal (atThrice.source {}) ≤ 256 := by
    rw [handoverTotal_atThrice]
    decide
  obtain ⟨⟨o, hs, hopen, hlength, hrun⟩, -, -, -, -, hfew⟩ :=
    run_index_announces true tree_thrice load_atThrice rfl hlimit
  rw [handoverTotal_atThrice] at hlength hrun
  rw [if_pos rfl] at hrun
  refine ⟨⟨tree_thrice, load_atThrice, rfl, handoverTotal_atThrice⟩, ⟨o, hs, hopen, hlength, hrun⟩,
    fun hall => ?_⟩
  have hcount := hfew.2 hall
  obtain ⟨-, hredeclared⟩ :=
    Extractor.redeclared_congr documents_atThrice read_atThrice .ordinary
  rw [handoverTotal_atThrice, hredeclared] at hcount
  exact absurd hcount (by decide +kernel)

/-- **A symbol in three files is counted twice**: the index command announces two PCDs where
one is redeclared. -/
theorem run_index_counts_again :
    ((Command.index false).run atThrice).out
        = "Workspace root: /\nIndexed 1 PCDs from 1 declaration files in 0.00s\n\n"
          ++ "2 PCDs are declared in more than one file:\n"
          ++ "  PcdA: /a.dec:1:1 replaced by /b.dec:1:1\n"
          ++ "  PcdA: /b.dec:1:1 replaced by /c.dec:1:1\n"
      ∧ Extractor.ordinary.redeclared (atThrice.source {}) = ["PcdA"] := by
  obtain ⟨-, hredeclared⟩ :=
    Extractor.redeclared_congr documents_atThrice read_atThrice .ordinary
  refine ⟨?_, hredeclared.trans (by decide +kernel)⟩
  have hopen : atThrice.openWorkspace = .ok (atThrice.opened {} ⟨.ordinary, .leading, 16, 256⟩) :=
    openWorkspace_eq load_atThrice rfl
  rw [run_index_eq false hopen]
  unfold opened
  rw [Workspace.build_congr documents_atThrice read_atThrice]
  decide +kernel

end Surroundings

end PcdCatalog

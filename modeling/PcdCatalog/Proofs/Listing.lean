import PcdCatalog.Proofs.BuildOrder
import PcdCatalog.Proofs.DepthFirst
import PcdCatalog.Proofs.DiskLaws
import PcdCatalog.Proofs.SourceLaws

/-!
# The files of a disk as documents

A shelf lists its documents in path order because it keeps them in that order. A
disk lists them as a walk meets them, and which of two documents owns a symbol
that both declare depends on which of them is listed last. Here the two come to
the same: the files found on a file tree strictly ascend in path order
(`Selection.ascending_files`), so the shelf that holds those of them that can be
read lists them in the same order.

That is all a build needs. Over any source whose documents strictly ascend, it
makes the same index as over the shelf of the readable ones
(`Workspace.build_shelved`): a document that cannot be read leaves the index alone,
and of the others the shelf has the text under the same path.

The order in which the merges of a build go through the declarations of a document is
not that of the files. It leaves the entries alone, but not the log of handovers
(`Selection.handovers_twice`). Where a disk brings no rules, the walk is kept from a
file by nothing but a name to be ignored or a dot (`Walk.Ruleless.reached_eq`).
-/

namespace PcdCatalog

/-! ## Shelves of ascending documents -/

/-- What is greater than all keys goes to the end. -/
theorem Table.insertList_of_gt {κ ν : Type} [Ord κ] [Std.OrientedOrd κ] {k : κ} {v : ν}
    {l : List (κ × ν)} (h : ∀ e ∈ l, compare e.1 k = .lt) : insertList k v l = l ++ [(k, v)] := by
  induction l with
  | nil => rfl
  | cons e l ih =>
    obtain ⟨he, hl⟩ := List.forall_mem_cons.1 h
    rw [insertList, Std.OrientedCmp.gt_of_lt he, List.cons_append, ih hl]

namespace Shelf

/-- A document behind all others is filed at the end, as it is spelled. -/
theorem toList_insert_of_gt {s : Shelf} {doc : Path} (text : String)
    (h : ∀ e ∈ s.texts.toList, compare e.1 doc.key = .lt) :
    (s.insert doc text).texts.toList = s.texts.toList ++ [(doc.key, doc, text)] := by
  have hnew : s.texts.get? doc.key = none := by
    rw [Option.eq_none_iff_forall_ne_some]
    intro e he
    exact absurd (h _ ((Table.get?_eq_some_iff _).1 he)) (by simp)
  show Table.insertList doc.key (((s.texts.get? doc.key).map Prod.fst).getD doc, text) _ = _
  rw [hnew]
  exact Table.insertList_of_gt h

theorem toList_foldl_insert {docs : List (Path × String)} {s : Shelf}
    (hdocs : docs.Pairwise fun a b => compare a.1 b.1 = .lt)
    (hs : ∀ e ∈ s.texts.toList, ∀ d ∈ docs, compare e.1 d.1.key = .lt) :
    (docs.foldl (fun s d => s.insert d.1 d.2) s).texts.toList
      = s.texts.toList ++ docs.map fun d => (d.1.key, d) := by
  induction docs generalizing s with
  | nil => simp
  | cons d docs ih =>
    obtain ⟨hd, hdocs⟩ := List.pairwise_cons.1 hdocs
    have hput := toList_insert_of_gt d.2 fun e he => hs e he d List.mem_cons_self
    rw [List.foldl_cons, ih hdocs, hput, List.map_cons, List.append_assoc, List.singleton_append]
    intro e he d' hd'
    rw [hput, List.mem_append, List.mem_singleton] at he
    cases he with
    | inl he => exact hs e he d' (List.mem_cons_of_mem d hd')
    | inr he => exact he ▸ hd d' hd'

variable {docs : List (Path × String)}

/-- **A shelf of ascending documents** holds them as they are listed. -/
theorem toList_ofList (h : docs.Pairwise fun a b => compare a.1 b.1 = .lt) :
    (ofList docs).texts.toList = docs.map fun d => (d.1.key, d) :=
  toList_foldl_insert h fun e he => absurd he (List.not_mem_nil (a := e))

theorem documents_ofList (h : docs.Pairwise fun a b => compare a.1 b.1 = .lt) :
    (ofList docs).documents = docs.map Prod.fst := by
  rw [(tidy_ofList docs).documents_eq, toList_ofList h, List.map_map]
  rfl

theorem read_ofList (h : docs.Pairwise fun a b => compare a.1 b.1 = .lt) {doc : Path}
    {text : String} (hd : (doc, text) ∈ docs) : (ofList docs).read doc = .ok text := by
  refine (tidy_ofList docs).read_eq_ok_iff.2 ⟨doc, (Table.get?_eq_some_iff _).2 ?_⟩
  rw [toList_ofList h]
  exact List.mem_map.2 ⟨_, hd, rfl⟩

end Shelf

/-! ## Building from either -/

namespace Source

/-- **The documents of a source that can be read**, with their texts. -/
def readable (src : Source) : List (Path × String) :=
  src.documents.filterMap fun doc => (src.read doc).toOption.map fun text => (doc, text)

theorem mem_readable {src : Source} {doc : Path} {text : String} (hdoc : doc ∈ src.documents)
    (h : src.read doc = .ok text) : (doc, text) ∈ src.readable := by
  refine List.mem_filterMap.2 ⟨doc, hdoc, ?_⟩
  rw [h]
  rfl

theorem map_fst_readable (src : Source) :
    src.readable.map Prod.fst = src.documents.filter fun doc => !src.unreadable doc := by
  unfold readable
  rw [List.map_filterMap, ← List.filterMap_eq_filter]
  refine congrArg (fun f => List.filterMap f src.documents) (funext fun doc => ?_)
  cases hread : src.read doc with
  | ok text => simp [unreadable, hread, Except.toOption, Option.guard]
  | error e => simp [unreadable, hread, Except.toOption, Option.guard]

/-- What can be read of ascending documents ascends. -/
theorem ascending_readable {src : Source}
    (h : src.documents.Pairwise fun p q => compare p q = .lt) :
    src.readable.Pairwise fun a b => compare a.1 b.1 = .lt := by
  have hfst : (src.readable.map Prod.fst).Pairwise fun p q => compare p q = .lt := by
    rw [map_fst_readable]
    exact h.filter _
  exact List.pairwise_map.1 hfst

end Source

namespace Workspace

/-- The index that reading documents makes is that of reading those which can be
read, from wherever they have the same texts. -/
theorem foldl_absorb_readable (x : Extractor) {src src' : Source} {docs : List Path}
    (h : ∀ doc ∈ docs, ∀ text, src.read doc = .ok text → src'.read doc = .ok text)
    {acc acc' : Index × UpdateCounts} (hacc : acc.1 = acc'.1) :
    (docs.foldl (absorb x src) acc).1
      = ((docs.filter fun doc => !src.unreadable doc).foldl (absorb x src') acc').1 := by
  induction docs generalizing acc acc' with
  | nil => exact hacc
  | cons doc docs ih =>
    obtain ⟨hdoc, hdocs⟩ := List.forall_mem_cons.1 h
    rw [List.foldl_cons]
    cases hread : src.read doc with
    | error e =>
      have hskip : src.unreadable doc = true := by simp [Source.unreadable, hread]
      rw [List.filter_cons_of_neg (by simp [hskip])]
      refine ih hdocs ?_
      -- The index is left alone, whatever is counted.
      simp [absorb, Extractor.look, hread, Index.mergedOrFailed, hacc]
    | ok text =>
      have hkeep : src.unreadable doc = false := by simp [Source.unreadable, hread]
      rw [List.filter_cons_of_pos (by simp [hkeep]), List.foldl_cons]
      refine ih hdocs ?_
      simp [absorb, Extractor.look, hread, hdoc text hread, hacc]

/-- A build looks at what its documents say and at nothing else. -/
theorem build_congr {src src' : Source} (hdocs : src.documents = src'.documents)
    (hread : ∀ doc ∈ src.documents, src.read doc = src'.read doc) (w : Workspace) :
    w.build src = w.build src' := by
  have hfold : src.documents.foldl (absorb w.extractor src) (w.index, {})
      = src.documents.foldl (absorb w.extractor src') (w.index, {}) := by
    refine List.foldl_ext _ _ _ fun acc doc hdoc => ?_
    rw [absorb, absorb, w.extractor.look_congr (congrArg Except.toOption (hread doc hdoc))]
  rw [build, build, hfold, hdocs]

/-- **A build over ascending documents is a build over a shelf of them.** -/
theorem build_shelved (w : Workspace) {src : Source}
    (h : src.documents.Pairwise fun p q => compare p q = .lt) :
    (w.build src).1 = (w.build (Shelf.ofList src.readable).source).1 := by
  have hasc := Source.ascending_readable h
  have hdocs : (Shelf.ofList src.readable).source.documents
      = src.documents.filter fun doc => !src.unreadable doc :=
    (Shelf.documents_ofList hasc).trans src.map_fst_readable
  have hread : ∀ doc ∈ src.documents, ∀ text, src.read doc = .ok text →
      (Shelf.ofList src.readable).source.read doc = .ok text :=
    fun doc hdoc text htext => Shelf.read_ofList hasc (Source.mem_readable hdoc htext)
  show ({ w with index := (src.documents.foldl (absorb w.extractor src) (w.index, {})).1 }
    : Workspace) = _
  rw [foldl_absorb_readable w.extractor hread rfl, ← hdocs]
  rfl

end Workspace

/-! ## Disks without rules -/

namespace Disk

theorem pieces_of_isName {name : String} (h : Path.IsName name) : pieces name = [name] := by
  unfold pieces
  rw [Path.pieces_of_slashless h.2.2.2]
  simp [String.ofList_toList, h.1]

/-- A name that nothing in a directory has leads nowhere. -/
theorem resolve_of_absent {d : Disk} {dir : Location} {name : String}
    (hdir : d.isDirectoryAt dir = true) (hname : Path.IsName name)
    (hshort : name.utf8ByteSize ≤ nameLimit) (hnull : name.toList.any (·.toNat == 0) = false)
    (habsent : d.at? (dir ++ [name]) = none) : d.resolve dir ⟨name⟩ = .error .notFound := by
  have hempty : name.isEmpty = false := by simpa using hname.1
  have hlong : ¬ name.utf8ByteSize ≥ pathLimit := by
    unfold nameLimit at hshort
    unfold pathLimit
    omega
  have hrel : Path.isAbsolute ⟨name⟩ = false := by
    refine beq_eq_false_iff_ne.2 fun hhead => hname.2.2.2 ?_
    exact List.mem_of_head? hhead
  unfold resolve locate
  rw [hnull, hempty, if_neg Bool.false_ne_true, if_neg Bool.false_ne_true, if_neg hlong, hrel,
    pieces_of_isName hname, pursue]
  simp [hdir, hname.2.1, hname.2.2.1, hshort, habsent]

end Disk

namespace Walk

/-- The names of what brings rules. -/
def ruleNames : List String := [".ignore", ".gitignore", ".git"]

/-- **A disk without rules**: nothing on it is an ignore file or a repository. -/
def Ruleless (d : Disk) : Prop := ∀ l ∈ d.nodes.keys, ∀ name ∈ ruleNames, l.getLast? ≠ some name

instance (d : Disk) : Decidable (Ruleless d) :=
  inferInstanceAs (Decidable (∀ l ∈ d.nodes.keys, ∀ name ∈ ruleNames, l.getLast? ≠ some name))

variable {d : Disk}

/-- No directory of it says anything. -/
theorem Ruleless.localRules_eq (h : Ruleless d) (cwd : Location) {dir : Location}
    (hdir : d.isDirectoryAt dir = true) : localRules d cwd dir = ⟨[], [], [], false⟩ := by
  have hnames : ∀ name ∈ ruleNames, Path.IsName name ∧ name.utf8ByteSize ≤ Disk.nameLimit
      ∧ name.toList.any (·.toNat == 0) = false := by decide +kernel
  have habsent : ∀ name ∈ ruleNames, d.resolve dir ⟨name⟩ = .error .notFound := by
    intro name hname
    obtain ⟨hin, hshort, hnull⟩ := hnames name hname
    refine Disk.resolve_of_absent hdir hin hshort hnull ?_
    rw [Option.eq_none_iff_forall_ne_some]
    intro node hat
    exact h _ (Disk.mem_keys_of_at? (by simp) hat) name hname List.getLast?_concat
  have hcontent : ∀ name ∈ ruleNames, content? d dir ⟨name⟩ = none := by
    intro name hname
    unfold content?
    rw [habsent name hname]
  simp only [ruleNames, List.forall_mem_cons] at habsent hcontent
  obtain ⟨-, -, hgit, -⟩ := habsent
  obtain ⟨hignore, hgitignore, hmark, -⟩ := hcontent
  have hexcluded : excludedRules d cwd dir = [] := by
    have hcommon : commonDirectory? d cwd dir = none := by
      unfold commonDirectory?
      rw [hmark]
      rfl
    have hdirectory : ¬ d.isDirectory dir ⟨".git"⟩ = true := by simp [Disk.isDirectory, hgit]
    unfold excludedRules
    rw [if_neg hdirectory, hcommon]
  unfold localRules fileRules Disk.present
  rw [hignore, hgitignore, hexcluded, hgit]
  rfl

theorem Ruleless.get?_allRules (h : Ruleless d) {cwd dir : Location} {said : Local}
    (hget : (allRules d cwd).get? dir = some said) : said = ⟨[], [], [], false⟩ := by
  unfold allRules at hget
  simp only [Table.get?_insert, Table.get?_map, Table.get?_filter] at hget
  split at hget
  · rw [← Option.some.inj hget]
    exact h.localRules_eq cwd rfl
  · obtain ⟨node, hnode, rfl⟩ := Option.map_eq_some_iff.1 hget
    exact h.localRules_eq cwd (Option.filter_eq_some_iff.1 hnode).2

theorem Ruleless.verdict?_eq (h : Ruleless d) {r : Rules} {cwd : Location}
    (hr : r.directories = allRules d cwd) (l : Location) (isDirectory : Bool) :
    verdict? r l isDirectory = none := by
  have hdirs : ∀ e ∈ (above l).filterMap (fun dir => (r.directories.get? dir).map (dir, ·)),
      e.2 = ⟨[], [], [], false⟩ := by
    intro e he
    obtain ⟨dir, -, hdir⟩ := List.mem_filterMap.1 he
    obtain ⟨said, hsaid, rfl⟩ := Option.map_eq_some_iff.1 hdir
    rw [hr] at hsaid
    exact h.get?_allRules hsaid
  unfold verdict?
  dsimp only
  generalize (above l).filterMap (fun dir => (r.directories.get? dir).map (dir, ·)) = dirs at hdirs
  have htop : (dirs.any fun e => e.2.isTop) = false := by
    rw [List.any_eq_false]
    intro e he
    rw [hdirs e he]
    exact Bool.false_ne_true
  have hfirst : firstVerdict? Local.always dirs l isDirectory = none := by
    refine List.findSome?_eq_none_iff.2 fun e he => ?_
    rw [hdirs e he]
    rfl
  rw [hfirst, htop]
  rfl

/-- **Without rules only the configuration and a dot hide**: the walk goes as if there
were nothing to read of any directory, and the user is not asked. -/
theorem Ruleless.reached_eq (h : Ruleless d) {r : Rules} {cwd : Location}
    (hr : r.directories = allRules d cwd) (root l : Location) :
    reached d r root l = reached d ⟨r.configured, ∅, fun _ _ => none⟩ root l := by
  have hnone : ∀ p isDirectory,
      verdict? ⟨r.configured, ∅, fun _ _ => none⟩ p isDirectory = none := by
    intro p isDirectory
    have hdirs : (above p).filterMap (fun dir => ((∅ : Table Location Local).get? dir).map
        (dir, ·)) = [] := List.filterMap_eq_nil_iff.2 fun _ _ => rfl
    unfold verdict?
    dsimp only
    rw [hdirs]
    rfl
  unfold reached hidden
  simp only [h.verdict?_eq hr, hnone]

end Walk

/-! ## The files of a disk -/

/-- What lies on a tree has names that a directory can have, from wherever they are
counted. -/
theorem Disk.Tree.names_below {d : Disk} (hd : d.Tree) {base rest : Location}
    (h : base ++ rest ∈ d.nodes.keys) : ∀ n ∈ rest, Path.IsName n :=
  fun n hn => (hd.named _ h).2 n (List.mem_append_right base hn)

namespace Walk

theorem spell_append (root : Path) (base rest : Location) :
    spell root base (base ++ rest) = root.join ⟨String.intercalate "/" rest⟩ := by
  simp [spell]

section Spelled

variable {d : Disk} (hd : d.Tree) (root : Path) {base rest rest' : Location} (hne : rest ≠ [])
  (hne' : rest' ≠ []) (hin : base ++ rest ∈ d.nodes.keys) (hin' : base ++ rest' ∈ d.nodes.keys)

include hd hne hne' hin hin'

/-- **What lies below one root is ordered by the names from there on**, however the
root is spelled. -/
theorem compare_spell :
    compare (spell root base (base ++ rest)) (spell root base (base ++ rest'))
      = compare rest rest' := by
  rw [spell_append, spell_append,
    Path.compare_join root hne hne' (hd.names_below hin) (hd.names_below hin')]

/-- What is spelled alike is the same. -/
theorem spell_inj (h : spell root base (base ++ rest) = spell root base (base ++ rest')) :
    rest = rest' := by
  have hcmp := compare_spell hd root hne hne' hin hin'
  rw [h] at hcmp
  refine Std.LawfulEqOrd.eq_of_compare (hcmp.symm.trans ?_)
  show compare (spell root base (base ++ rest')).key (spell root base (base ++ rest')).key = .eq
  exact Std.ReflOrd.compare_self

end Spelled

end Walk

namespace Selection

variable (s : Selection) (d : Disk) (cwd : Location) (user : Walk.UserRules)

/-- **The declaration files as a walk meets them.** -/
def walked : List Path :=
  match d.resolve cwd s.root with
  | .error _ => []
  | .ok base =>
    let found :=
      if d.isDirectoryAt base then
        (Walk.visit d (Walk.skips d (s.rules d cwd user) base) base).map (Walk.spell s.root base)
      else [s.root]
    found.filter s.selects

/-- **A shelf with the declaration files that hold a text**, under the paths under
which they are found. -/
def shelf : Shelf :=
  .ofList ((s.files d cwd user).filterMap fun p =>
    (d.readText cwd p).toOption.map fun text => (p, text))

theorem ofList_readable_source : Shelf.ofList (s.source d cwd user).readable = s.shelf d cwd user := by
  have hread : ∀ p, ((s.source d cwd user).read p).toOption = (d.readText cwd p).toOption := by
    intro p
    unfold source
    dsimp only
    split <;> simp_all [Except.toOption]
  unfold shelf Source.readable
  simp only [hread]
  rfl

variable {d}

theorem files_eq_walked (hd : d.Tree) : s.files d cwd user = s.walked d cwd user := by
  unfold files walked
  cases d.resolve cwd s.root with
  | error e => rfl
  | ok base => simp only [Walk.visit_eq_filesBelow hd]

/-- **The files found on a tree strictly ascend in path order.** -/
theorem ascending_files (hd : d.Tree) :
    (s.files d cwd user).Pairwise fun p q => compare p q = .lt := by
  unfold files
  split
  next => exact .nil
  next base _ =>
    refine List.Pairwise.filter _ ?_
    split
    · refine List.pairwise_map.2 ((Walk.ascending_filesBelow d _ base).imp_of_mem ?_)
      intro l m hl hm hlm
      obtain ⟨⟨rest, hne, rfl⟩, hfile, -⟩ := Walk.mem_filesBelow.1 hl
      obtain ⟨⟨rest', hne', rfl⟩, hfile', -⟩ := Walk.mem_filesBelow.1 hm
      rwa [Walk.compare_spell hd s.root hne hne' (Walk.mem_keys_of_isFileAt hfile)
        (Walk.mem_keys_of_isFileAt hfile'), ← compare_append_left base]
    · exact List.pairwise_singleton _ _

/-- The files found on a tree are distinct. -/
theorem distinct_files (hd : d.Tree) :
    (s.files d cwd user).Pairwise fun p q => p.same q = false := by
  refine (s.ascending_files cwd user hd).imp fun {p q} hpq => Bool.eq_false_iff.2 fun hsame => ?_
  have hkey : compare p.key q.key = .lt := hpq
  rw [Path.same_iff.1 hsame] at hkey
  exact absurd hkey (by simp)

/-- **A disk and a shelf of its files build the same entries.** On every file tree,
whatever the root, the extensions, the names to be ignored and what the user has
ignored, the declaration files are those that a depth-first walk meets, in its order,
and they strictly ascend component by component with names compared by their bytes.

So a build over the disk leaves a workspace with the same entries as a build over a
shelf that holds exactly the files among them that are texts. It leaves the same
handovers too if the merges of both go through the declarations in the same orders.
Whatever the orders, each log is the end of a story that has a part for every file
that is a text, in the order of the files, with the handovers to that file; and the
parts of the two stories are the same ones, each in one order or in another. -/
theorem files_listed_in_order (hd : d.Tree) :
    s.files d cwd user = s.walked d cwd user
      ∧ (s.files d cwd user).Pairwise (fun p q => p.bytewise q = .lt)
      ∧ (s.files d cwd user).Pairwise (fun p q => p.same q = false)
      ∧ (∀ w : Workspace,
        (w.build (s.source d cwd user)).1 = (w.build (s.shelf d cwd user).source).1)
      ∧ ∀ x mode limit rankings rankings',
        let onDisk := (Workspace.empty x mode limit rankings).build (s.source d cwd user)
        let onShelf := (Workspace.empty x mode limit rankings').build (s.shelf d cwd user).source
        onDisk.1.index.table = onShelf.1.index.table
          ∧ ∃ told told' : List (List Handover), List.Forall₂ List.Perm told told'
            ∧ List.Forall₂ (fun doc part => ∀ h ∈ part, h.replacement.document = doc)
              ((s.source d cwd user).readable.map Prod.fst) told
            ∧ onDisk.1.index.handovers = told.flatten.rtake limit
            ∧ onShelf.1.index.handovers = told'.flatten.rtake limit := by
  have hasc := s.ascending_files cwd user hd
  have hbuild : ∀ w : Workspace,
      (w.build (s.source d cwd user)).1 = (w.build (s.shelf d cwd user).source).1 := by
    intro w
    rw [← ofList_readable_source]
    exact w.build_shelved hasc
  refine ⟨s.files_eq_walked cwd user hd, ?_, s.distinct_files cwd user hd, hbuild, ?_⟩
  · exact hasc.imp fun {p q} hpq => (Path.compare_eq_bytewise p q).symm.trans hpq
  · intro x mode limit rankings rankings' onDisk onShelf
    obtain ⟨htable, -, htold⟩ :=
      Workspace.build_orders x (s.source d cwd user) mode limit rankings rankings'
    have hshelf : onShelf.1.index
        = ((Workspace.empty x mode limit rankings').build (s.source d cwd user)).1.index :=
      congrArg Workspace.index (hbuild _).symm
    rw [hshelf, Source.map_fst_readable]
    exact ⟨htable, htold⟩

/-- Where a disk brings no rules, the files found on it are those that neither the names
to be ignored nor a dot on the way hide. -/
theorem files_of_ruleless (h : Walk.Ruleless d) (extensions ignored : List String) :
    files ⟨⟨"/"⟩, extensions, ignored⟩ d cwd user
      = ((d.nodes.filter fun l _ => Walk.isFileAt d l && Walk.reached d
          ⟨Ignore.configuredRules ignored, ∅, fun _ _ => none⟩ [] l).keys.map
            (Walk.spell ⟨"/"⟩ [])).filter (selects ⟨⟨"/"⟩, extensions, ignored⟩) := by
  have hkept : ∀ r, (d.nodes.filter fun l _ => ([] : Location).length < l.length
      && l.isBelow [] && Walk.isFileAt d l && Walk.reached d r [] l)
      = d.nodes.filter fun l _ => Walk.isFileAt d l && Walk.reached d r [] l := by
    intro r
    refine congrArg (Table.filter · d.nodes) (funext fun l => funext fun _ => ?_)
    cases l with
    | nil => rfl
    | cons name rest => simp [Location.isBelow]
  have hreached : ∀ l, Walk.reached d (rules ⟨⟨"/"⟩, extensions, ignored⟩ d cwd user) [] l
      = Walk.reached d ⟨Ignore.configuredRules ignored, ∅, fun _ _ => none⟩ [] l :=
    fun l => h.reached_eq rfl [] l
  unfold files Walk.filesBelow
  simp only [Disk.resolve_slash, hkept, hreached]
  rfl

/-- A disk on which the order of whole texts is not the order of paths: a full stop
comes before a slash. One of its files is not a text. -/
def stops : Disk where
  nodes :=
    { toList := [(["a"], .directory), (["a", "b.dec"], .file "  g.PcdA|1\n".toUTF8),
        (["a.dec"], .file "  g.PcdA|2\n".toUTF8), (["b.dec"], .file ⟨#[0xff]⟩)]
      ascending := by decide +kernel }

/-- Every file with the extension of declarations, anywhere on a disk. -/
def everywhere : Selection := ⟨⟨"/"⟩, ["dec"], []⟩

theorem files_listed_in_order_stops :
    stops.Tree
      ∧ everywhere.files stops [] = [⟨"/a/b.dec"⟩, ⟨"/a.dec"⟩, ⟨"/b.dec"⟩]
      ∧ compare "/a.dec" "/a/b.dec" = .lt
      ∧ everywhere.files stops [] = everywhere.walked stops [] (fun _ _ => none)
      ∧ (everywhere.files stops []).Pairwise (fun p q => p.bytewise q = .lt)
      ∧ (everywhere.files stops []).Pairwise (fun p q => p.same q = false)
      ∧ (∀ w : Workspace, (w.build (everywhere.source stops [])).1
          = (w.build (everywhere.shelf stops [] fun _ _ => none).source).1)
      ∧ ∀ x mode limit rankings rankings',
        ((Workspace.empty x mode limit rankings).build (everywhere.source stops [])).1.index.table
          = ((Workspace.empty x mode limit rankings').build
              (everywhere.shelf stops [] fun _ _ => none).source).1.index.table := by
  have htree : stops.Tree := ⟨by decide +kernel, by decide +kernel⟩
  have hfiles : everywhere.files stops [] = [⟨"/a/b.dec"⟩, ⟨"/a.dec"⟩, ⟨"/b.dec"⟩] := by
    have hruleless : Walk.Ruleless stops := by decide +kernel
    rw [everywhere, files_of_ruleless [] _ hruleless]
    decide +kernel
  obtain ⟨hwalked, hascending, hdistinct, hbuild, horders⟩ :=
    files_listed_in_order everywhere [] (fun _ _ => none) htree
  exact ⟨htree, hfiles, by decide +kernel, hwalked, hascending, hdistinct, hbuild,
    fun x mode limit rankings rankings' => (horders x mode limit rankings rankings').1⟩

/-- A disk with two files that declare the same two symbols. -/
def twice : Disk where
  nodes :=
    { toList := ["a.dec", "b.dec"].map fun name => ([name], .file "g.PcdA|1\ng.PcdB|1".toUTF8)
      ascending := by decide +kernel }

/-- What its files say. -/
def twiceSource : Source where
  documents := [⟨"/a.dec"⟩, ⟨"/b.dec"⟩]
  read _ := .ok "g.PcdA|1\ng.PcdB|1"

/-- What follows a symbol comes before it. -/
def backwards : Ranking := fun s => if s = "PcdA" then 1 else 0

theorem build_twice (w : Workspace) : w.build (everywhere.source twice []) = w.build twiceSource := by
  have hdocuments : (everywhere.source twice []).documents = twiceSource.documents := by
    have hruleless : Walk.Ruleless twice := by decide +kernel
    refine (files_of_ruleless [] _ hruleless _ _).trans ?_
    decide +kernel
  refine Workspace.build_congr hdocuments (fun doc hdoc => ?_) w
  have hnames : ∀ name ∈ ["a.dec", "b.dec"], Path.IsName name
      ∧ name.toList.any (·.toNat == 0) = false ∧ Disk.Piece name
      ∧ ¬ (Path.join ⟨"/"⟩ ⟨name⟩).text.utf8ByteSize ≥ Disk.pathLimit := by decide +kernel
  have hat : ∀ name ∈ ["a.dec", "b.dec"],
      twice.at? [name] = some (.file "g.PcdA|1\ng.PcdB|1".toUTF8) := by
    simp only [List.forall_mem_cons]
    exact ⟨rfl, rfl, fun _ h => absurd h List.not_mem_nil⟩
  have hjoin : twiceSource.documents
      = ["a.dec", "b.dec"].map fun name => Path.join ⟨"/"⟩ ⟨name⟩ := by decide +kernel
  rw [hdocuments, hjoin] at hdoc
  obtain ⟨name, hname, rfl⟩ := List.mem_map.1 hdoc
  exact read_source_of_root _ _ (hnames name hname) (hat name hname)

/-- **Orders that differ make logs that differ**: with room for one handover, the disk and
the shelf remember different ones. -/
theorem handovers_twice :
    twice.Tree
      ∧ ((Workspace.empty .ordinary default 1).build (everywhere.source twice [])).1.index.handovers
        = [⟨"PcdB", ⟨⟨"/a.dec"⟩, ⟨1, 0⟩, ⟨1, 8⟩, 9, 17⟩, ⟨⟨"/b.dec"⟩, ⟨1, 0⟩, ⟨1, 8⟩, 9, 17⟩⟩]
      ∧ ((Workspace.empty .ordinary default 1 fun _ => backwards).build
            (everywhere.shelf twice [] fun _ _ => none).source).1.index.handovers
        = [⟨"PcdA", ⟨⟨"/a.dec"⟩, ⟨0, 0⟩, ⟨0, 8⟩, 0, 8⟩, ⟨⟨"/b.dec"⟩, ⟨0, 0⟩, ⟨0, 8⟩, 0, 8⟩⟩]
      ∧ ¬ ∀ rankings rankings',
        ((Workspace.empty .ordinary default 1 rankings).build
            (everywhere.source twice [])).1.index.handovers
          = ((Workspace.empty .ordinary default 1 rankings').build
              (everywhere.shelf twice [] fun _ _ => none).source).1.index.handovers := by
  have htree : twice.Tree := ⟨by decide +kernel, by decide +kernel⟩
  have hshelf : ∀ w : Workspace,
      (w.build (everywhere.shelf twice [] fun _ _ => none).source).1 = (w.build twiceSource).1 := by
    intro w
    rw [← ofList_readable_source, ← w.build_shelved (everywhere.ascending_files [] _ htree),
      build_twice]
  rw [build_twice, hshelf]
  refine ⟨htree, by decide +kernel, by decide +kernel, fun hsame => ?_⟩
  have hlogs := hsame (fun _ => .ascending) (fun _ => backwards)
  rw [build_twice, hshelf] at hlogs
  exact absurd hlogs (by decide +kernel)

end Selection

end PcdCatalog

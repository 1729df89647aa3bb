import Mathlib.Data.List.Sort
import PcdCatalog.Proofs.PathLaws
import PcdCatalog.Proofs.TableLaws
import PcdCatalog.Walk

/-!
# The walk, entry by entry

`Walk.filesBelow` says which files below a directory are found and lists them in
the order of their places. A program that looks for them goes about it another
way: it opens the directory, takes its entries in the order of their names, and
where an entry is itself a directory goes through that one before it takes the
next. What it decides to skip it does not open. That is `Walk.visit`.

On a file tree (`Disk.Tree`) the two lists are the same
(`Walk.visit_eq_filesBelow`). A walk that sorts no more than the entries of one
directory at a time comes out in the order of whole places, because two places
below different entries are ordered as the entries are, however far down they lie
(`Walk.ascending_visit`); and a place is met exactly if nothing on the way to it is
skipped (`Walk.mem_visit`).
-/

namespace PcdCatalog

/-! ## File trees -/

namespace Disk

/-- **A file tree**: everything on it has a name, and lies in a directory. -/
structure Tree (d : Disk) : Prop where
  named : ∀ l ∈ d.nodes.keys, l ≠ [] ∧ ∀ name ∈ l, Path.IsName name
  housed : ∀ l ∈ d.nodes.keys, d.isDirectoryAt l.dropLast = true

/-- What is at a place other than the root is an entry of the disk. -/
theorem mem_keys_of_at? {d : Disk} {l : Location} {node : Inode} (hl : l ≠ [])
    (h : d.at? l = some node) : l ∈ d.nodes.keys := by
  unfold at? at h
  rw [if_neg (by simpa using hl)] at h
  exact Table.mem_keys.2 ⟨node, h⟩

theorem isDirectoryAt_iff {d : Disk} {l : Location} :
    d.isDirectoryAt l = true ↔ d.at? l = some .directory := by
  unfold isDirectoryAt
  split <;> simp_all

/-- **Everything above an entry of a tree is a directory.** -/
theorem Tree.isDirectoryAt_above {d : Disk} (hd : d.Tree) {dir rest : Location}
    (hrest : rest ≠ []) (h : dir ++ rest ∈ d.nodes.keys) : d.isDirectoryAt dir = true := by
  induction rest generalizing dir with
  | nil => exact absurd rfl hrest
  | cons name rest ih =>
    have hentry : dir ++ [name] ∈ d.nodes.keys := by
      by_cases hnil : rest = []
      · rwa [hnil] at h
      · have hdir : d.isDirectoryAt (dir ++ [name]) = true := ih hnil (by simpa using h)
        exact mem_keys_of_at? (by simp) (isDirectoryAt_iff.1 hdir)
    simpa using hd.housed _ hentry

end Disk

namespace Walk

theorem isFileAt_iff {d : Disk} {l : Location} :
    isFileAt d l = true ↔ ∃ content, d.at? l = some (.file content) := by
  unfold isFileAt
  split <;> simp_all

theorem mem_keys_of_isFileAt {d : Disk} {l : Location} (h : isFileAt d l = true) :
    l ∈ d.nodes.keys := by
  obtain ⟨content, hat⟩ := isFileAt_iff.1 h
  refine Disk.mem_keys_of_at? ?_ hat
  -- At the root there is a directory.
  rintro rfl
  exact absurd hat (by simp [Disk.at?])

/-! ## The entries of a directory -/

/-- **The names in a directory**, by their bytes. -/
def entries (d : Disk) (dir : Location) : List String :=
  (d.nodes.keys.filterMap fun l => if l.dropLast = dir then l.getLast? else none).mergeSort
    fun a b => (compare (Text.bytes a) (Text.bytes b)).isLE

/-- A place gives a name to a directory exactly if it is that name there. -/
theorem entry_eq_some_iff {l dir : Location} {name : String} :
    (if l.dropLast = dir then l.getLast? else none) = some name ↔ l = dir ++ [name] := by
  constructor
  · intro h
    split at h
    next hdir =>
      obtain ⟨front, rfl⟩ := List.getLast?_eq_some_iff.1 h
      rw [← hdir, List.dropLast_concat]
    next => exact absurd h (by simp)
  · rintro rfl
    rw [List.dropLast_concat, if_pos rfl, List.getLast?_concat]

theorem mem_entries {d : Disk} {dir : Location} {name : String} :
    name ∈ entries d dir ↔ dir ++ [name] ∈ d.nodes.keys := by
  unfold entries
  rw [List.mem_mergeSort, List.mem_filterMap]
  constructor
  · rintro ⟨l, hl, hname⟩
    rwa [entry_eq_some_iff.1 hname] at hl
  · intro h
    exact ⟨_, h, entry_eq_some_iff.2 rfl⟩

/-- The names of a directory ascend, and none occurs twice. -/
theorem ascending_entries (d : Disk) (dir : Location) :
    (entries d dir).Pairwise fun a b => compare a b = .lt := by
  have hnodup : (entries d dir).Nodup := by
    refine (List.mergeSort_perm _ _).nodup_iff.2 (d.nodes.nodup_keys.filterMap ?_)
    intro l m name hl hm
    rw [entry_eq_some_iff.1 hl, entry_eq_some_iff.1 hm]
  have hsorted : (entries d dir).Pairwise fun a b =>
      (compare (Text.bytes a) (Text.bytes b)).isLE = true :=
    pairwise_mergeSort_compare Text.bytes _
  refine (hsorted.and hnodup).imp fun {a b} hab => ?_
  rw [← Text.compare_eq_bytes] at hab
  exact compare_eq_lt_of_isLE hab.1 hab.2

/-! ## The walk -/

/-- How far down a disk goes. -/
def depth (d : Disk) : Nat := (d.nodes.keys.map List.length).foldr max 0

theorem length_le_depth {d : Disk} {l : Location} (h : l ∈ d.nodes.keys) :
    l.length ≤ depth d := by
  unfold depth
  generalize d.nodes.keys = keys at h ⊢
  induction keys with
  | nil => exact absurd h (by simp)
  | cons m keys ih =>
    rw [List.map_cons, List.foldr_cons]
    cases List.mem_cons.1 h with
    | inl heq => exact heq ▸ Nat.le_max_left _ _
    | inr hkeys => exact Nat.le_trans (ih hkeys) (Nat.le_max_right _ _)

/-- **The files that a walk meets**, in the order in which it does. -/
def visit (d : Disk) (skip : Location → Bool) (dir : Location) : List Location :=
  (entries d dir).attach.flatMap fun ⟨name, _⟩ =>
    if skip (dir ++ [name]) then []
    else match d.at? (dir ++ [name]) with
      | some .directory => visit d skip (dir ++ [name])
      | some (.file _) => [dir ++ [name]]
      | _ => []
termination_by depth d - dir.length
decreasing_by
  have hdepth := length_le_depth (mem_entries.1 (by assumption))
  rw [List.length_append, List.length_singleton] at hdepth ⊢
  omega

/-- What a walk meets at one entry. -/
def visitEntry (d : Disk) (skip : Location → Bool) (l : Location) : List Location :=
  if skip l then []
  else match d.at? l with
    | some .directory => visit d skip l
    | some (.file _) => [l]
    | _ => []

theorem visit_eq (d : Disk) (skip : Location → Bool) (dir : Location) :
    visit d skip dir = (entries d dir).flatMap fun name => visitEntry d skip (dir ++ [name]) := by
  rw [visit]
  conv_rhs => rw [← List.attach_map_subtype_val (entries d dir), List.flatMap_map]
  rfl

variable {d : Disk} {skip : Location → Bool}

theorem mem_visitEntry {l p : Location} :
    p ∈ visitEntry d skip l
      ↔ skip l = false
        ∧ (d.isDirectoryAt l = true ∧ p ∈ visit d skip l ∨ isFileAt d l = true ∧ p = l) := by
  unfold visitEntry Disk.isDirectoryAt isFileAt
  cases skip l with
  | true => simp
  | false =>
    cases d.at? l with
    | none => simp
    | some node => cases node <;> simp

/-- What is met in a directory lies below it. -/
theorem below_of_mem_visit {dir l : Location} (h : l ∈ visit d skip dir) :
    ∃ name rest, l = dir ++ name :: rest := by
  induction dir using visit.induct d with
  | case1 dir ih =>
    rw [visit_eq, List.mem_flatMap] at h
    obtain ⟨name, hname, hl⟩ := h
    refine ⟨name, ?_⟩
    cases (mem_visitEntry.1 hl).2 with
    | inl hdir =>
      obtain ⟨next, rest, rfl⟩ := ih name hname hdir.2
      exact ⟨next :: rest, by simp⟩
    | inr hfile => exact ⟨[], hfile.2⟩

theorem begins_of_mem_visitEntry {l p : Location} (h : p ∈ visitEntry d skip l) :
    ∃ rest, p = l ++ rest := by
  cases (mem_visitEntry.1 h).2 with
  | inl hdir =>
    obtain ⟨name, rest, hp⟩ := below_of_mem_visit hdir.2
    exact ⟨name :: rest, hp⟩
  | inr hfile => exact ⟨[], by rw [hfile.2, List.append_nil]⟩

/-! ## Its order -/

/-- **A walk goes up in the order of places**: what lies below one entry comes
before all that lies below the next. -/
theorem ascending_visit (d : Disk) (skip : Location → Bool) (dir : Location) :
    (visit d skip dir).Pairwise fun l m => compare l m = .lt := by
  induction dir using visit.induct d with
  | case1 dir ih =>
    rw [visit_eq, List.pairwise_flatMap]
    refine ⟨fun name hname => ?_, (ascending_entries d dir).imp fun {a b} hab => ?_⟩
    · show (visitEntry d skip (dir ++ [name])).Pairwise _
      unfold visitEntry
      split
      · exact .nil
      · split
        · exact ih name hname
        · exact List.pairwise_singleton _ _
        · exact .nil
    · intro l hl m hm
      obtain ⟨lrest, rfl⟩ := begins_of_mem_visitEntry hl
      obtain ⟨mrest, rfl⟩ := begins_of_mem_visitEntry hm
      rw [List.append_assoc, List.append_assoc, compare_append_left]
      show compare (a :: lrest) (b :: mrest) = .lt
      rw [List.compare_cons_cons, hab]
      rfl

/-! ## What is met -/

/-- The way to a place begins with the first entry on it. -/
theorem along_cons (dir : Location) (name : String) (rest : Location) :
    along dir (dir ++ name :: rest)
      = (dir ++ [name]) :: along (dir ++ [name]) (dir ++ [name] ++ rest) := by
  have hlen : (dir ++ name :: rest).length - dir.length = rest.length + 1 := by simp
  have hrest : (dir ++ [name] ++ rest).length - (dir ++ [name]).length = rest.length := by
    rw [List.length_append, Nat.add_sub_cancel_left]
  have hsplit : dir ++ name :: rest = dir ++ [name] ++ rest := by simp
  unfold along
  rw [hlen, hrest, List.range_succ_eq_map, List.map_cons, List.map_map, hsplit]
  refine congrArg₂ List.cons ?_ (List.map_congr_left fun n _ => ?_)
  · exact List.take_left' (by simp)
  · show (dir ++ [name] ++ rest).take (dir.length + (n + 1) + 1) = _
    rw [List.length_append, List.length_singleton]
    exact congrArg (List.take · _) (by omega)

@[simp] theorem along_self (dir : Location) : along dir dir = [] := by simp [along]

/-- To be met in a directory is to be met at the first entry on the way. -/
theorem mem_visit_cons {dir rest : Location} {name : String} :
    dir ++ name :: rest ∈ visit d skip dir
      ↔ name ∈ entries d dir ∧ dir ++ [name] ++ rest ∈ visitEntry d skip (dir ++ [name]) := by
  rw [visit_eq, List.mem_flatMap, List.append_assoc]
  constructor
  · rintro ⟨first, hfirst, hl⟩
    obtain ⟨more, hmore⟩ := begins_of_mem_visitEntry hl
    have hname : name = first := by simp_all
    subst hname
    exact ⟨hfirst, hl⟩
  · rintro ⟨hname, hl⟩
    exact ⟨name, hname, hl⟩

/-- **A walk through a tree meets exactly the files on the way to which nothing is
skipped.** -/
theorem mem_visit (hd : d.Tree) {dir rest : Location} :
    dir ++ rest ∈ visit d skip dir
      ↔ rest ≠ [] ∧ isFileAt d (dir ++ rest) = true
        ∧ ∀ p ∈ along dir (dir ++ rest), skip p = false := by
  induction rest generalizing dir with
  | nil =>
    constructor
    · intro h
      obtain ⟨name, rest, hl⟩ := below_of_mem_visit h
      exact absurd hl (by simp)
    · intro h
      exact absurd rfl h.1
  | cons name rest ih =>
    rw [mem_visit_cons, mem_visitEntry, ih, along_cons, List.forall_mem_cons,
      show dir ++ name :: rest = dir ++ [name] ++ rest by simp]
    constructor
    · rintro ⟨-, hskip, ⟨-, -, hfile, hway⟩ | ⟨hfile, hl⟩⟩
      · exact ⟨List.cons_ne_nil name rest, hfile, hskip, hway⟩
      · rw [hl, along_self]
        exact ⟨List.cons_ne_nil name rest, hfile, hskip, by simp⟩
    · rintro ⟨-, hfile, hskip, hway⟩
      by_cases hnil : rest = []
      · subst hnil
        rw [List.append_nil] at hfile ⊢
        exact ⟨mem_entries.2 (mem_keys_of_isFileAt hfile), hskip, .inr ⟨hfile, rfl⟩⟩
      · -- The place lies further down, so the entry is a directory.
        have hdir := hd.isDirectoryAt_above hnil (mem_keys_of_isFileAt hfile)
        have hentry := Disk.mem_keys_of_at? (by simp) (Disk.isDirectoryAt_iff.1 hdir)
        exact ⟨mem_entries.2 hentry, hskip, .inl ⟨hdir, hnil, hfile, hway⟩⟩

/-! ## The files below a root -/

/-- What a search below a root skips. -/
def skips (d : Disk) (r : Rules) (root p : Location) : Bool := hidden r root p (d.isDirectoryAt p)

theorem reached_iff {r : Rules} {root l : Location} :
    reached d r root l = true ↔ ∀ p ∈ along root l, skips d r root p = false := by
  simp [reached, skips]

theorem below_iff {root l : Location} :
    root.length < l.length ∧ l.isBelow root = true ↔ ∃ rest, rest ≠ [] ∧ l = root ++ rest := by
  unfold Location.isBelow
  rw [List.isPrefixOf_iff_prefix]
  constructor
  · rintro ⟨hlen, rest, rfl⟩
    refine ⟨rest, ?_, rfl⟩
    rintro rfl
    simp at hlen
  · rintro ⟨rest, hrest, rfl⟩
    refine ⟨?_, rest, rfl⟩
    rw [List.length_append]
    exact Nat.lt_add_of_pos_right (List.length_pos_iff.2 hrest)

/-- The files that are found, told one by one. -/
theorem mem_filesBelow {r : Rules} {root l : Location} :
    l ∈ filesBelow d r root
      ↔ (∃ rest, rest ≠ [] ∧ l = root ++ rest) ∧ isFileAt d l = true ∧ reached d r root l = true := by
  unfold filesBelow
  rw [Table.mem_keys, ← below_iff]
  simp only [Table.get?_filter, Option.filter_eq_some_iff, Bool.and_eq_true, decide_eq_true_eq]
  constructor
  · rintro ⟨node, -, ⟨hbelow, hfile⟩, hreached⟩
    exact ⟨hbelow, hfile, hreached⟩
  · rintro ⟨hbelow, hfile, hreached⟩
    obtain ⟨node, hnode⟩ := Table.mem_keys.1 (mem_keys_of_isFileAt hfile)
    exact ⟨node, hnode, ⟨hbelow, hfile⟩, hreached⟩

theorem ascending_filesBelow (d : Disk) (r : Rules) (root : Location) :
    (filesBelow d r root).Pairwise fun l m => compare l m = .lt :=
  List.pairwise_map.2 (Table.filter _ d.nodes).ascending

/-- **A walk finds the files below a root, in their order.** -/
theorem visit_eq_filesBelow (hd : d.Tree) (r : Rules) (root : Location) :
    visit d (skips d r root) root = filesBelow d r root := by
  have : Std.Antisymm fun l m : Location => compare l m = .lt :=
    ⟨fun l m hlm hml => absurd (Std.TransCmp.lt_trans hlm hml) (by simp)⟩
  have : Std.Irrefl fun l m : Location => compare l m = .lt := ⟨fun l => by simp⟩
  refine (ascending_visit d _ root).eq_of_mem_iff (ascending_filesBelow d r root) ?_
  intro l
  rw [mem_filesBelow, reached_iff]
  constructor
  · intro h
    obtain ⟨name, rest, rfl⟩ := below_of_mem_visit h
    obtain ⟨hne, hmet⟩ := (mem_visit hd).1 h
    exact ⟨⟨name :: rest, hne, rfl⟩, hmet⟩
  · rintro ⟨⟨rest, hne, rfl⟩, hmet⟩
    exact (mem_visit hd).2 ⟨hne, hmet⟩

end Walk

end PcdCatalog

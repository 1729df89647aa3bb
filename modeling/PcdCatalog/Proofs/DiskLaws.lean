import PcdCatalog.Disk
import PcdCatalog.Proofs.DepthFirst

/-!
# Laws of disks

Following a path can fail in many ways, and the function that does it says how.
`Disk.Leads` leaves the failures out: it says that a path leads to a place, with one
rule for each way in which a piece of it takes one on. A path resolves to a place
exactly if it leads there (`Disk.resolve_eq_ok_iff`).

Two things come from that. What leads to a place goes on leading there when more is
put on the disk (`Disk.Leads.extend`), and whatever is done along a path, following
it or making directories, comes down to what is done from the place to which a
front of it leads (`Disk.Leads.pursue_append`, `Disk.Leads.makeAlong_append`).
-/

namespace PcdCatalog.Disk

variable {d e : Disk}

/-! ## What is put on a disk -/

theorem at?_put {l : Location} (hl : l ≠ []) (node : Inode) (k : Location) :
    (d.put l node).at? k = if k = l then some node else d.at? k := by
  unfold at? put
  simp only [Table.get?_insert]
  by_cases hk : k = l
  · subst hk
    simp [hl]
  · simp [hk]

/-- A disk on which everything is as it was on another one, and maybe more. -/
def Extends (e d : Disk) : Prop := ∀ l node, d.at? l = some node → e.at? l = some node

theorem extends_put {l : Location} {node : Inode} (hl : l ≠ []) (habsent : d.at? l = none) :
    (d.put l node).Extends d := by
  intro k node' hk
  rw [at?_put hl, if_neg ?_, hk]
  rintro rfl
  rw [habsent] at hk
  exact absurd hk (by simp)

/-- Nothing lies below a place. -/
def Bare (d : Disk) (l : Location) : Prop := ∀ rest ≠ [], d.at? (l ++ rest) = none

/-- Nothing lies below what is not there. -/
theorem Tree.bare_of_absent {l : Location} (hd : d.Tree) (habsent : d.at? l = none) : d.Bare l := by
  intro rest hrest
  cases hat : d.at? (l ++ rest) with
  | none => rfl
  | some node =>
    have habove := hd.isDirectoryAt_above hrest (mem_keys_of_at? (by simp [hrest]) hat)
    rw [isDirectoryAt_iff, habsent] at habove
    exact absurd habove (by simp)

/-- Nor does it if a directory is put there. -/
theorem Bare.put {l : Location} (hbare : d.Bare l) (hl : l ≠ []) : (d.put l .directory).Bare l := by
  intro rest hrest
  rw [at?_put hl, if_neg (by simpa using hrest)]
  exact hbare rest hrest

/-- A name that can be looked up in a directory. -/
structure Piece (piece : String) : Prop where
  here : piece ≠ "."
  up : piece ≠ ".."
  short : ¬ piece.utf8ByteSize > nameLimit

instance (piece : String) : Decidable (Piece piece) :=
  decidable_of_iff (piece ≠ "." ∧ piece ≠ ".." ∧ ¬ piece.utf8ByteSize > nameLimit)
    ⟨fun h => ⟨h.1, h.2.1, h.2.2⟩, fun h => ⟨h.here, h.up, h.short⟩⟩

/-- Where a link at a place leads from there. -/
def linkStart (here : Location) (target : String) : Location :=
  if target.toList.head? = some '/' then [] else here

/-- **A path leads to a place**, through directories and at most so many links. -/
inductive Leads (d : Disk) : Nat → Location → List String → Location → Prop where
  | done (links : Nat) (here : Location) : Leads d links here [] here
  | dot {links here rest l} (hdir : d.isDirectoryAt here = true) (h : Leads d links here rest l) :
      Leads d links here ("." :: rest) l
  | up {links here rest l} (hdir : d.isDirectoryAt here = true)
      (h : Leads d links here.dropLast rest l) : Leads d links here (".." :: rest) l
  | enter {links here piece rest l node} (hdir : d.isDirectoryAt here = true) (hpiece : Piece piece)
      (hat : d.at? (here ++ [piece]) = some node) (hnode : ∀ target, node ≠ .link target)
      (h : Leads d links (here ++ [piece]) rest l) : Leads d links here (piece :: rest) l
  | follow {links here piece rest l target} (hdir : d.isDirectoryAt here = true)
      (hpiece : Piece piece) (hat : d.at? (here ++ [piece]) = some (.link target))
      (h : Leads d links (linkStart here target) (pieces target ++ rest) l) :
      Leads d (links + 1) here (piece :: rest) l

variable {links : Nat} {here l : Location} {ps qs : List String}

theorem leads_of_pursue (h : d.pursue {} links here ps = .ok l) : Leads d links here ps l := by
  fun_induction d.pursue {} links here ps with
  | case1 links here =>
    cases h
    exact .done links l
  | case3 links here rest hdir ih => exact .dot (by simpa using hdir) (ih h)
  | case4 links here rest hdir hdot ih => exact .up (by simpa using hdir) (ih h)
  | case10 here piece rest hdir hdot hup hlong next target hlink hstay links start ih =>
    exact .follow (by simpa using hdir) ⟨hdot, hup, hlong⟩ hlink (ih h)
  | case11 links here piece rest hdir hdot hup hlong next node hnode hat ih =>
    exact .enter (by simpa using hdir) ⟨hdot, hup, hlong⟩ hat hnode (ih h)
  | case2 links here piece rest hdir => exact absurd h (by simp)
  | case5 links here piece rest hdir hdot hup hlong => exact absurd h (by simp)
  | case6 links here piece rest hdir hdot hup hlong next hnone hcreate =>
    exact absurd hcreate (by simp)
  | case7 links here piece rest hdir hdot hup hlong next hnone hcreate => exact absurd h (by simp)
  | case8 links here piece rest hdir hdot hup hlong next target hlink hstay =>
    exact absurd hstay (by simp)
  | case9 here piece rest hdir hdot hup hlong next target hlink hstay => exact absurd h (by simp)

/-- What leads to a place leads there still when more is put on the disk. -/
theorem Leads.extend (he : e.Extends d) (h : Leads d links here ps l) :
    Leads e links here ps l := by
  have hdirectory : ∀ {k}, d.isDirectoryAt k = true → e.isDirectoryAt k = true :=
    fun hk => isDirectoryAt_iff.2 (he _ _ (isDirectoryAt_iff.1 hk))
  induction h with
  | done links here => exact .done links here
  | dot hdir _ ih => exact .dot (hdirectory hdir) ih
  | up hdir _ ih => exact .up (hdirectory hdir) ih
  | enter hdir hpiece hat hnode _ ih => exact .enter (hdirectory hdir) hpiece (he _ _ hat) hnode ih
  | follow hdir hpiece hat _ ih => exact .follow (hdirectory hdir) hpiece (he _ _ hat) ih

/-- It does so with more links to spare. -/
theorem Leads.mono (h : Leads d links here ps l) {more : Nat} (hmore : links ≤ more) :
    Leads d more here ps l := by
  induction h generalizing more with
  | done links here => exact .done more here
  | dot hdir _ ih => exact .dot hdir (ih hmore)
  | up hdir _ ih => exact .up hdir (ih hmore)
  | enter hdir hpiece hat hnode _ ih => exact .enter hdir hpiece hat hnode (ih hmore)
  | follow hdir hpiece hat _ ih =>
    obtain ⟨more, rfl⟩ : ∃ n, more = n + 1 := ⟨more - 1, by omega⟩
    exact .follow hdir hpiece hat (ih (Nat.le_of_succ_le_succ hmore))

/-- The front may be empty. -/
theorem Leads.split_nil {rest : List String} (hqs : [] ++ qs = rest)
    (h : Leads d links here rest l) :
    ∃ mid, Leads d links here [] mid ∧ Leads d links mid qs l := by
  rw [← hqs] at h
  exact ⟨here, .done links here, h⟩

/-- **A path leads somewhere by way of each of its fronts.** -/
theorem Leads.split (h : Leads d links here (ps ++ qs) l) :
    ∃ mid, Leads d links here ps mid ∧ Leads d links mid qs l := by
  generalize hall : ps ++ qs = all at h
  induction h generalizing ps with
  | done links here =>
    obtain ⟨rfl, rfl⟩ := List.append_eq_nil_iff.1 hall
    exact ⟨here, .done links here, .done links here⟩
  | @dot links here rest l hdir h ih =>
    cases ps with
    | nil => exact split_nil hall (.dot hdir h)
    | cons piece ps =>
      obtain ⟨rfl, rfl⟩ := List.cons.inj hall
      obtain ⟨mid, hfront, hback⟩ := ih rfl
      exact ⟨mid, .dot hdir hfront, hback⟩
  | @up links here rest l hdir h ih =>
    cases ps with
    | nil => exact split_nil hall (.up hdir h)
    | cons piece ps =>
      obtain ⟨rfl, rfl⟩ := List.cons.inj hall
      obtain ⟨mid, hfront, hback⟩ := ih rfl
      exact ⟨mid, .up hdir hfront, hback⟩
  | @enter links here piece rest l node hdir hpiece hat hnode h ih =>
    cases ps with
    | nil => exact split_nil hall (.enter hdir hpiece hat hnode h)
    | cons piece ps =>
      obtain ⟨rfl, rfl⟩ := List.cons.inj hall
      obtain ⟨mid, hfront, hback⟩ := ih rfl
      exact ⟨mid, .enter hdir hpiece hat hnode hfront, hback⟩
  | @follow links here piece rest l target hdir hpiece hat h ih =>
    cases ps with
    | nil => exact split_nil hall (.follow hdir hpiece hat h)
    | cons piece ps =>
      obtain ⟨rfl, rfl⟩ := List.cons.inj hall
      obtain ⟨mid, hfront, hback⟩ := @ih (pieces target ++ ps) (List.append_assoc _ _ _)
      exact ⟨mid, .follow hdir hpiece hat hfront, hback.mono (Nat.le_succ _)⟩

/-- **Following a path goes on where its front leads.** -/
theorem Leads.pursue_append (h : Leads d links here ps l) :
    ∃ left, ∀ (p : Pursuit) (qs : List String), qs ≠ [] →
      d.pursue p links here (ps ++ qs) = d.pursue p left l qs := by
  induction h with
  | done links here => exact ⟨links, fun p qs _ => rfl⟩
  | dot hdir _ ih =>
    obtain ⟨left, hleft⟩ := ih
    refine ⟨left, fun p qs hqs => ?_⟩
    rw [List.cons_append, pursue, ← hleft p qs hqs]
    simp [hdir]
  | up hdir _ ih =>
    obtain ⟨left, hleft⟩ := ih
    refine ⟨left, fun p qs hqs => ?_⟩
    rw [List.cons_append, pursue, ← hleft p qs hqs]
    simp [hdir]
  | @enter links here piece rest l node hdir hpiece hat hnode _ ih =>
    obtain ⟨left, hleft⟩ := ih
    refine ⟨left, fun p qs hqs => ?_⟩
    rw [List.cons_append, pursue, ← hleft p qs hqs]
    simp [hdir, hpiece.here, hpiece.up, hpiece.short, hat]
  | @follow links here piece rest l target hdir hpiece hat _ ih =>
    obtain ⟨left, hleft⟩ := ih
    refine ⟨left, fun p qs hqs => ?_⟩
    rw [List.cons_append, pursue, ← hleft p qs hqs, List.append_assoc]
    simp [hdir, hpiece.here, hpiece.up, hpiece.short, hat, hqs, linkStart]

/-- **Where a path leads it is followed to.** -/
theorem Leads.pursue_eq (h : Leads d links here ps l) : d.pursue {} links here ps = .ok l := by
  induction h with
  | done links here => rw [pursue]
  | dot hdir _ ih =>
    rw [pursue]
    simp [hdir, ih]
  | up hdir _ ih =>
    rw [pursue]
    simp [hdir, ih]
  | @enter links here piece rest l node hdir hpiece hat hnode _ ih =>
    rw [pursue]
    simp [hdir, hpiece.here, hpiece.up, hpiece.short, hat, ih]
  | @follow links here piece rest l target hdir hpiece hat _ ih =>
    rw [pursue, ← ih]
    simp [hdir, hpiece.here, hpiece.up, hpiece.short, hat, linkStart]

/-- **Making directories along a path goes on where its front leads.** Links on the
way cost fewer of the links left than following the path does, because each is
followed to its end apart from the rest. -/
theorem Leads.makeAlong_append (h : Leads d links here ps l) :
    ∃ left, ∀ qs, d.makeAlong links here (ps ++ qs) = d.makeAlong left l qs := by
  induction links using Nat.strong_induction_on generalizing here ps with
  | _ links ihl =>
    induction ps generalizing here with
    | nil =>
      cases h
      exact ⟨links, fun qs => rfl⟩
    | cons piece rest ih =>
      cases h with
      | dot hdir h =>
        obtain ⟨left, hleft⟩ := ih h
        refine ⟨left, fun qs => ?_⟩
        rw [List.cons_append, makeAlong, ← hleft qs]
        simp [hdir]
      | up hdir h =>
        obtain ⟨left, hleft⟩ := ih h
        refine ⟨left, fun qs => ?_⟩
        rw [List.cons_append, makeAlong, ← hleft qs]
        simp [hdir]
      | enter hdir hpiece hat hnode h =>
        obtain ⟨left, hleft⟩ := ih h
        refine ⟨left, fun qs => ?_⟩
        rw [List.cons_append, makeAlong, ← hleft qs]
        simp [hdir, hpiece.here, hpiece.up, hpiece.short, hat]
      | @follow links _ _ _ _ target hdir hpiece hat h =>
        obtain ⟨mid, hfront, hback⟩ := h.split
        obtain ⟨left, hleft⟩ := ihl links (Nat.lt_succ_self links) hback
        refine ⟨left, fun qs => ?_⟩
        have hend := hfront.pursue_eq
        unfold linkStart at hend
        rw [List.cons_append, makeAlong, ← hleft qs]
        simp [hdir, hpiece.here, hpiece.up, hpiece.short, hat, hend]

/-! ## Where paths lead -/

/-- A path that can be followed at all. -/
structure Followable (path : Path) : Prop where
  nonnull : path.text.toList.any (·.toNat == 0) = false
  nonempty : path.text.isEmpty = false
  short : ¬ path.text.utf8ByteSize ≥ pathLimit

instance (path : Path) : Decidable (Followable path) :=
  decidable_of_iff (path.text.toList.any (·.toNat == 0) = false ∧ path.text.isEmpty = false
      ∧ ¬ path.text.utf8ByteSize ≥ pathLimit)
    ⟨fun h => ⟨h.1, h.2.1, h.2.2⟩, fun h => ⟨h.nonnull, h.nonempty, h.short⟩⟩

/-- Where following a path begins. -/
def origin (cwd : Location) (path : Path) : Location := if path.isAbsolute then [] else cwd

theorem locate_eq {path : Path} (hpath : Followable path) (p : Pursuit) (cwd : Location) :
    d.locate p cwd path = d.pursue p linkLimit (origin cwd path) (pieces path.text) := by
  unfold locate
  rw [hpath.nonnull, hpath.nonempty, if_neg Bool.false_ne_true, if_neg Bool.false_ne_true,
    if_neg hpath.short]
  rfl

/-- **A path resolves to the place it leads to.** -/
theorem resolve_eq_ok_iff {cwd : Location} {path : Path} :
    d.resolve cwd path = .ok l
      ↔ Followable path ∧ Leads d linkLimit (origin cwd path) (pieces path.text) l := by
  constructor
  · intro h
    have hpath : Followable path := by
      unfold resolve locate at h
      split_ifs at h with hnull hempty hshort <;>
        exact ⟨eq_false_of_ne_true hnull, eq_false_of_ne_true hempty, hshort⟩
    rw [resolve, locate_eq hpath] at h
    exact ⟨hpath, leads_of_pursue h⟩
  · rintro ⟨hpath, h⟩
    rw [resolve, locate_eq hpath]
    exact h.pursue_eq

/-- What a path resolves to it resolves to still when more is put on the disk. -/
theorem resolve_extend (he : e.Extends d) {cwd : Location} {path : Path}
    (h : d.resolve cwd path = .ok l) : e.resolve cwd path = .ok l := by
  obtain ⟨hpath, hleads⟩ := resolve_eq_ok_iff.1 h
  exact resolve_eq_ok_iff.2 ⟨hpath, hleads.extend he⟩

theorem present_iff {cwd : Location} {path : Path} :
    d.present cwd path = true ↔ ∃ l, d.resolve cwd path = .ok l := by
  unfold present
  cases d.resolve cwd path with
  | error fault => simp [Except.isOk, Except.toBool]
  | ok l => simp [Except.isOk, Except.toBool]

theorem makeDirectories_eq_bind {path : Path} (hnull : path.text.toList.any (·.toNat == 0) = false)
    (hshort : ¬ path.text.utf8ByteSize ≥ pathLimit) (cwd : Location) :
    d.makeDirectories cwd path
      = (d.makeAlong linkLimit (origin cwd path) (pieces path.text)).bind fun made =>
          (made.pursue {} linkLimit (origin cwd path) (pieces path.text)).bind fun _ =>
            .ok made := by
  unfold makeDirectories
  rw [hnull, if_neg Bool.false_ne_true, if_neg hshort]
  rfl

/-! ## What lies in a directory -/

/-- The names in a path, and its dots. -/
def named (text : String) : List String :=
  ((Path.pieces text.toList).map String.ofList).filter (· != "")

/-- A slash at the end of a path leaves a dot. -/
theorem pieces_eq_named_or (text : String) :
    pieces text = named text ∨ pieces text = named text ++ ["."] := by
  unfold pieces
  dsimp only
  split
  next => exact Or.inr rfl
  next => exact Or.inl rfl

/-- A slash at the end of a path asks for a directory, and leads no further. -/
theorem Leads.of_pieces {text : String} (h : Leads d links here (pieces text) l) :
    Leads d links here (named text) l := by
  obtain hpieces | hpieces := pieces_eq_named_or text
  · rwa [hpieces] at h
  · rw [hpieces] at h
    obtain ⟨mid, hfront, hdot⟩ := h.split
    have hend := hdot.pursue_eq
    by_cases hdir : d.isDirectoryAt mid = true
    · simp only [pursue, hdir, Bool.not_true, Bool.false_eq_true, if_false, if_true,
        Except.ok.injEq] at hend
      rwa [← hend]
    · simp [pursue, hdir] at hend

variable {root : Path} {name : String}

/-- A name is relative. -/
theorem isAbsolute_name (hname : Path.IsName name) : Path.isAbsolute ⟨name⟩ = false :=
  beq_eq_false_iff_ne.2 fun hhead => hname.2.2.2 (List.mem_of_mem_head? hhead)

/-- A name below a directory is put behind a slash. -/
theorem exists_text_join (hroot : root.text ≠ "") (hname : Path.IsName name) :
    ∃ front, (root.join ⟨name⟩).text.toList = front ++ '/' :: name.toList
      ∧ (root.text.toList = front ∨ root.text.toList = front ++ ['/']) := by
  have hempty : root.text.isEmpty = false := by simpa using hroot
  unfold Path.join
  rw [isAbsolute_name hname, if_neg Bool.false_ne_true, hempty, Bool.false_or]
  by_cases hslash : root.text.toList.getLast? = some '/'
  · obtain ⟨front, hfront⟩ := List.getLast?_eq_some_iff.1 hslash
    exact ⟨front, by simp [hfront], Or.inr hfront⟩
  · exact ⟨root.text.toList, by simp [hslash], Or.inl rfl⟩

/-- Below the empty path a name stands by itself. -/
theorem join_of_empty (hroot : root.text = "") (hname : Path.IsName name) :
    root.join ⟨name⟩ = ⟨name⟩ := by
  unfold Path.join
  rw [isAbsolute_name hname, if_neg Bool.false_ne_true, hroot]
  simp

/-- **The names in a path below a directory** are those of the directory and the name
below it. -/
theorem pieces_join (hname : Path.IsName name) :
    pieces (root.join ⟨name⟩).text = named root.text ++ [name] := by
  have hne : name ≠ "" := hname.1
  by_cases hroot : root.text = ""
  · have hnamed : named root.text = [] := by
      rw [hroot]
      decide
    rw [join_of_empty hroot hname, hnamed]
    unfold pieces
    rw [Path.pieces_of_slashless hname.2.2.2]
    simp [hne]
  · obtain ⟨front, hjoin, hfront⟩ := exists_text_join hroot hname
    have hnamed : named root.text = ((Path.pieces front).map String.ofList).filter (· != "") := by
      unfold named
      obtain hfront | hfront := hfront
      · rw [hfront]
      · rw [hfront, Path.pieces_append_slash]
        simp [Path.pieces]
    unfold pieces
    rw [hjoin, Path.pieces_append_slash, Path.pieces_of_slashless hname.2.2.2, hnamed]
    simp [hne]

/-- No slash is at its end. -/
theorem named_join (hname : Path.IsName name) :
    named (root.join ⟨name⟩).text = named root.text ++ [name] := by
  obtain hpieces | hpieces := pieces_eq_named_or (root.join ⟨name⟩).text
  · rw [← hpieces, pieces_join hname]
  · rw [pieces_join hname] at hpieces
    have hlast := (List.append_inj' hpieces rfl).2
    exact absurd (List.cons.inj hlast).1 hname.2.1

theorem origin_join (hname : Path.IsName name) (cwd : Location) :
    origin cwd (root.join ⟨name⟩) = origin cwd root := by
  have hhead : (root.join ⟨name⟩).isAbsolute = root.isAbsolute := by
    by_cases hroot : root.text = ""
    · rw [join_of_empty hroot hname, isAbsolute_name hname]
      unfold Path.isAbsolute
      rw [hroot]
      rfl
    · obtain ⟨front, hjoin, hfront⟩ := exists_text_join hroot hname
      have hne : root.text.toList ≠ [] := by simpa using hroot
      unfold Path.isAbsolute
      rw [hjoin]
      obtain hfront | hfront := hfront
      · rw [← hfront, List.head?_append_of_ne_nil _ hne]
      · rw [hfront, List.head?_append, List.head?_append]
        rfl
  unfold origin
  rw [hhead]

/-- A name adds to the length of a path. -/
theorem utf8ByteSize_le_join (hname : Path.IsName name) :
    root.text.utf8ByteSize ≤ (root.join ⟨name⟩).text.utf8ByteSize := by
  unfold Path.join
  rw [isAbsolute_name hname, if_neg Bool.false_ne_true]
  split
  · rw [String.utf8ByteSize_append]
    exact Nat.le_add_right _ _
  · rw [String.utf8ByteSize_append, String.utf8ByteSize_append, Nat.add_assoc]
    exact Nat.le_add_right _ _

/-- A path can be followed if one below it can. -/
theorem Followable.of_join (hroot : root.text ≠ "") (hname : Path.IsName name)
    (h : Followable (root.join ⟨name⟩)) : Followable root := by
  obtain ⟨front, hjoin, hfront⟩ := exists_text_join hroot hname
  have hnull := h.nonnull
  rw [hjoin, List.any_append, List.any_cons, Bool.or_eq_false_iff, Bool.or_eq_false_iff] at hnull
  refine ⟨?_, by simpa using hroot, ?_⟩
  · obtain hfront | hfront := hfront
    · rw [hfront, hnull.1]
    · simp only [hfront, List.any_append, List.any_cons, List.any_nil, hnull.1, hnull.2.1,
        Bool.or_self]
  · exact fun hlong => h.short (Nat.le_trans hlong (utf8ByteSize_le_join hname))

/-- **A place in a directory**, as a name below the path of the directory, whether
or not there is anything. -/
structure Slot (d : Disk) (cwd : Location) (root : Path) (base : Location) (name : String) :
    Prop where
  resolves : d.resolve cwd root = .ok base
  directory : d.isDirectoryAt base = true
  isName : Path.IsName name
  nonnull : name.toList.any (·.toNat == 0) = false
  piece : Piece name
  short : ¬ (root.join ⟨name⟩).text.utf8ByteSize ≥ pathLimit

namespace Slot

variable {cwd base : Location}

theorem root_ne_empty (h : d.Slot cwd root base name) : root.text ≠ "" := by
  simpa using (resolve_eq_ok_iff.1 h.resolves).1.nonempty

/-- The path to it can be followed. -/
theorem followable (h : d.Slot cwd root base name) : Followable (root.join ⟨name⟩) := by
  have hroot := (resolve_eq_ok_iff.1 h.resolves).1.nonnull
  obtain ⟨front, hjoin, hfront⟩ := exists_text_join h.root_ne_empty h.isName
  have hnull : front.any (·.toNat == 0) = false := by
    obtain hfront | hfront := hfront
    · rwa [hfront] at hroot
    · rw [hfront, List.any_append, Bool.or_eq_false_iff] at hroot
      exact hroot.1
  refine ⟨?_, ?_, h.short⟩
  · rw [hjoin, List.any_append, List.any_cons, hnull, h.nonnull]
    rfl
  · have hne : (root.join ⟨name⟩).text.toList ≠ [] := by simp [hjoin]
    simpa using hne

/-- It is there still when more is put on the disk. -/
theorem extend (he : e.Extends d) (h : d.Slot cwd root base name) : e.Slot cwd root base name where
  resolves := resolve_extend he h.resolves
  directory := isDirectoryAt_iff.2 (he _ _ (isDirectoryAt_iff.1 h.directory))
  isName := h.isName
  nonnull := h.nonnull
  piece := h.piece
  short := h.short

/-- **Following the path to it goes on from the directory.** -/
theorem locate_eq (h : d.Slot cwd root base name) :
    ∃ left, ∀ p : Pursuit, d.locate p cwd (root.join ⟨name⟩) = d.pursue p left base [name] := by
  obtain ⟨-, hleads⟩ := resolve_eq_ok_iff.1 h.resolves
  obtain ⟨left, hleft⟩ := hleads.of_pieces.pursue_append
  refine ⟨left, fun p => ?_⟩
  rw [Disk.locate_eq h.followable, origin_join h.isName,
    pieces_join h.isName, hleft p [name] (by simp)]

/-- **What is there is found**, unless it is a link, which leads elsewhere. -/
theorem resolve_eq (h : d.Slot cwd root base name) {node : Inode}
    (hat : d.at? (base ++ [name]) = some node) (hnode : ∀ target, node ≠ .link target) :
    d.resolve cwd (root.join ⟨name⟩) = .ok (base ++ [name]) := by
  obtain ⟨left, hleft⟩ := h.locate_eq
  rw [resolve, hleft]
  exact (Leads.enter h.directory h.piece hat hnode (.done left _)).pursue_eq

/-- **What is not there is not found.** -/
theorem resolve_of_absent (h : d.Slot cwd root base name)
    (habsent : d.at? (base ++ [name]) = none) :
    d.resolve cwd (root.join ⟨name⟩) = .error .notFound := by
  obtain ⟨left, hleft⟩ := h.locate_eq
  rw [resolve, hleft, pursue]
  simp [h.directory, h.piece.here, h.piece.up, h.piece.short, habsent]

/-- **A text that is there is read.** -/
theorem readText_eq (h : d.Slot cwd root base name) {text : String}
    (hat : d.at? (base ++ [name]) = some (.file text.toUTF8)) :
    d.readText cwd (root.join ⟨name⟩) = .ok text := by
  have hutf8 : String.fromUTF8? text.toUTF8 = some text := dif_pos text.isValidUTF8
  have hbytes : d.bytesAt (base ++ [name]) = .ok text.toUTF8 := by
    unfold bytesAt
    rw [hat]
  have htext : d.textAt (base ++ [name]) = .ok text := by
    unfold textAt
    simp only [hbytes, bind, Except.bind, hutf8]
  unfold readText
  rw [h.resolve_eq hat (by simp)]
  exact htext

/-- **A file is written there** if there is nothing. -/
theorem write_eq (h : d.Slot cwd root base name) (habsent : d.at? (base ++ [name]) = none)
    (content : ByteArray) :
    d.write cwd (root.join ⟨name⟩) content = .ok (d.put (base ++ [name]) (.file content)) := by
  obtain ⟨left, hleft⟩ := h.locate_eq
  have hlocate : d.locate { create := true } cwd (root.join ⟨name⟩) = .ok (base ++ [name]) := by
    rw [hleft, pursue]
    simp [h.directory, h.piece.here, h.piece.up, h.piece.short, habsent]
  unfold write
  simp only [hlocate, bind, Except.bind, habsent]

/-- **A directory is made there** if there is nothing. -/
theorem makeDirectories_eq (h : d.Slot cwd root base name)
    (habsent : d.at? (base ++ [name]) = none) :
    d.makeDirectories cwd (root.join ⟨name⟩) = .ok (d.put (base ++ [name]) .directory) := by
  obtain ⟨-, hleads⟩ := resolve_eq_ok_iff.1 h.resolves
  obtain ⟨left, hleft⟩ := hleads.of_pieces.makeAlong_append
  have hat : (d.put (base ++ [name]) .directory).at? (base ++ [name]) = some .directory := by
    rw [at?_put (by simp), if_pos rfl]
  have hmade : d.makeAlong linkLimit (origin cwd (root.join ⟨name⟩))
      (pieces (root.join ⟨name⟩).text) = .ok (d.put (base ++ [name]) .directory) := by
    rw [origin_join h.isName, pieces_join h.isName, hleft, makeAlong]
    simp [h.directory, h.piece.here, h.piece.up, h.piece.short, habsent, makeAlong,
      isDirectoryAt_iff.2 hat]
  have hfound : (d.put (base ++ [name]) .directory).pursue {} linkLimit
      (origin cwd (root.join ⟨name⟩)) (pieces (root.join ⟨name⟩).text) = .ok (base ++ [name]) := by
    have hslot : (d.put (base ++ [name]) .directory).Slot cwd root base name :=
      h.extend (extends_put (by simp) habsent)
    rw [← Disk.locate_eq h.followable]
    exact hslot.resolve_eq hat (by simp)
  rw [makeDirectories_eq_bind h.followable.nonnull h.followable.short, hmade, Except.bind, hfound]
  rfl

end Slot

/-! ## Files in the root -/

/-- The slash leads to the root, from everywhere. -/
theorem resolve_slash (d : Disk) (cwd : Location) : d.resolve cwd ⟨"/"⟩ = .ok [] := by
  have hpieces : pieces "/" = ["."] := by decide +kernel
  have hshort : ¬ "/".utf8ByteSize ≥ pathLimit := by decide +kernel
  unfold resolve locate
  rw [if_neg (by decide), if_neg (by decide +kernel), if_neg hshort, if_pos (by decide), hpieces,
    pursue, pursue]
  rfl

end PcdCatalog.Disk

namespace PcdCatalog.Selection

/-- A file in the root is a document under its name. -/
theorem read_source_of_root (s : Selection) (user : Walk.UserRules) {d : Disk}
    {name text : String}
    (hname : Path.IsName name ∧ name.toList.any (·.toNat == 0) = false ∧ Disk.Piece name
      ∧ ¬ (Path.join ⟨"/"⟩ ⟨name⟩).text.utf8ByteSize ≥ Disk.pathLimit)
    (hat : d.at? [name] = some (.file text.toUTF8)) :
    (s.source d [] user).read (Path.join ⟨"/"⟩ ⟨name⟩) = .ok text := by
  have hslot : d.Slot [] ⟨"/"⟩ [] name :=
    ⟨d.resolve_slash [], rfl, hname.1, hname.2.1, hname.2.2.1, hname.2.2.2⟩
  unfold source
  dsimp only
  rw [hslot.readText_eq hat]

end PcdCatalog.Selection

import PcdCatalog.Proofs.DiskLaws

/-!
# What making directories leaves

`Disk.makeDirectories` goes along a path and makes what is not there. Here is what its
success says about the disk that comes out of it.

Nothing that was there is touched, and what is new is directories only
(`Disk.addsDirectories_of_makeDirectories`). The path leads somewhere now
(`Disk.of_makeDirectories`); and if it led anywhere before, nothing is new at all
(`Disk.eq_of_makeDirectories`).

Where something is new, the place that the path leads to is new as a rule, and then
nothing lies below it yet (`Disk.eq_or_exists_bare_of_makeDirectories`). The rule has an
exception: a path can go up again by two dots from a directory that was only made for it,
and come to what had been there all along. Such steps are excluded from where the path
leaves what was there; before that they do no harm.
-/

namespace PcdCatalog.Disk

variable {d e f : Disk} {links : Nat} {here l : Location} {ps qs : List String}

/-! ## Directories and nothing else -/

/-- **A disk with the entries of another one, and directories besides.** -/
def AddsDirectories (e d : Disk) : Prop :=
  ∀ l, e.at? l = d.at? l ∨ d.at? l = none ∧ e.at? l = some .directory

namespace AddsDirectories

theorem refl (d : Disk) : d.AddsDirectories d := fun _ => .inl rfl

theorem trans (hf : f.AddsDirectories e) (he : e.AddsDirectories d) : f.AddsDirectories d := by
  intro l
  obtain hfe | ⟨hnone, hdir⟩ := hf l
  · rw [hfe]
    exact he l
  · obtain hed | ⟨-, hsome⟩ := he l
    · exact .inr ⟨hed ▸ hnone, hdir⟩
    · rw [hnone] at hsome
      exact absurd hsome (by simp)

theorem toExtends (h : e.AddsDirectories d) : e.Extends d := by
  intro l node hl
  obtain hed | ⟨hnone, -⟩ := h l
  · rw [hed, hl]
  · rw [hl] at hnone
    exact absurd hnone (by simp)

theorem isDirectoryAt (h : e.AddsDirectories d) (hl : d.isDirectoryAt l = true) :
    e.isDirectoryAt l = true :=
  isDirectoryAt_iff.2 (h.toExtends _ _ (isDirectoryAt_iff.1 hl))

theorem put (hl : l ≠ []) (habsent : d.at? l = none) : (d.put l .directory).AddsDirectories d := by
  intro k
  rw [at?_put hl]
  by_cases hk : k = l
  · exact .inr ⟨hk ▸ habsent, if_pos hk⟩
  · exact .inl (if_neg hk)

end AddsDirectories

/-- **Making directories along a path adds nothing but directories.** -/
theorem addsDirectories_of_makeAlong (h : d.makeAlong links here ps = .ok e) :
    e.AddsDirectories d := by
  fun_induction d.makeAlong links here ps with
  | case1 d links here hdir =>
    cases h
    exact .refl _
  | case4 d links here rest hdir ih => exact ih h
  | case5 d links here rest hdir hdot ih => exact ih h
  | case7 d links here piece rest hdir hdot hup hlong next hnone ih =>
    exact (ih h).trans (.put (by simp [next]) hnone)
  | case9 d here piece rest hdir hdot hup hlong next target hlink links start k hk ih => exact ih h
  | case12 d links here piece rest hdir hdot hup hlong next node hnode hat ih => exact ih h
  | case2 | case3 | case6 | case8 | case10 | case11 => exact absurd h (by simp)

/-! ## Paths that lead somewhere -/

/-- A path goes on from where its front leads, with the links of both. -/
theorem Leads.append {m n : Nat} {mid : Location} (hfront : Leads d m here ps mid)
    (hback : Leads d n mid qs l) : Leads d (m + n) here (ps ++ qs) l := by
  induction hfront with
  | done links here => exact hback.mono (Nat.le_add_left n links)
  | dot hdir _ ih => exact .dot hdir (ih hback)
  | up hdir _ ih => exact .up hdir (ih hback)
  | enter hdir hpiece hat hnode _ ih => exact .enter hdir hpiece hat hnode (ih hback)
  | @follow links _ _ _ _ target hdir hpiece hat _ ih =>
    rw [List.cons_append, Nat.succ_add]
    refine .follow hdir hpiece hat ?_
    rw [← List.append_assoc]
    exact ih hback

/-- A path leads to one place. -/
theorem Leads.unique {m n : Nat} {k : Location} (h : Leads d m here ps l)
    (h' : Leads d n here ps k) : l = k := by
  have hl := (h.mono (Nat.le_max_left m n)).pursue_eq
  rw [(h'.mono (Nat.le_max_right m n)).pursue_eq] at hl
  exact (Except.ok.inj hl).symm

/-- **Where a path leads somewhere, nothing is made along it.** -/
theorem Leads.eq_of_makeAlong (hleads : Leads d links here ps l)
    (h : d.makeAlong links here ps = .ok e) : e = d := by
  obtain ⟨left, hleft⟩ := hleads.makeAlong_append
  rw [← List.append_nil ps, hleft, makeAlong] at h
  split at h
  · exact (Except.ok.inj h).symm
  · exact absurd h (by simp)

/-! ## Places with nothing below them -/

/-- Nothing lies below the places below it. -/
theorem Bare.append (hbare : d.Bare l) (rest : Location) : d.Bare (l ++ rest) := by
  intro more hmore
  rw [List.append_assoc]
  exact hbare (rest ++ more) (by simp [hmore])

/-- No name leads on from there. -/
theorem Bare.not_leads (hbare : d.Bare here) {piece : String} (hpiece : Piece piece) :
    ¬ Leads d links here (piece :: ps) l := by
  have habsent := hbare [piece] (by simp)
  intro h
  cases h with
  | dot => exact hpiece.here rfl
  | up => exact hpiece.up rfl
  | enter _ _ hat => exact absurd (hat.symm.trans habsent) (by simp)
  | follow _ _ hat => exact absurd (hat.symm.trans habsent) (by simp)

/-- A path leads into a directory that was made for it. -/
theorem Leads.enter_put {piece : String} (hdir : d.isDirectoryAt here = true)
    (hpiece : Piece piece) (habsent : d.at? (here ++ [piece]) = none)
    (he : e.AddsDirectories (d.put (here ++ [piece]) .directory))
    (h : Leads e links (here ++ [piece]) ps l) : Leads e links here (piece :: ps) l := by
  have hhere := (he.trans (.put (by simp) habsent)).isDirectoryAt hdir
  have hat : e.at? (here ++ [piece]) = some .directory :=
    he.toExtends _ _ (by rw [at?_put (by simp), if_pos rfl])
  exact .enter hhere hpiece hat (by simp) h

/-- What is made along a path from an empty directory ends in an empty directory, unless
the path goes up. -/
theorem exists_bare_of_makeAlong (hbare : d.Bare here) (hup : ".." ∉ ps)
    (h : d.makeAlong links here ps = .ok e) : ∃ n l, Leads e n here ps l ∧ e.Bare l := by
  have hmade := addsDirectories_of_makeAlong h
  fun_induction d.makeAlong links here ps with
  | case1 d links here hdir =>
    cases h
    exact ⟨0, here, .done 0 here, hbare⟩
  | case4 d links here rest hdir ih =>
    obtain ⟨n, l, hleads, hl⟩ := ih hbare (List.not_mem_of_not_mem_cons hup) h hmade
    exact ⟨n, l, .dot (hmade.isDirectoryAt (by simpa using hdir)) hleads, hl⟩
  | case5 d links here rest hdir hdot ih => exact absurd hup (by simp)
  | case7 d links here piece rest hdir hdot hup' hlong next hnone ih =>
    have hadded := addsDirectories_of_makeAlong h
    obtain ⟨n, l, hleads, hl⟩ := ih ((hbare.append [piece]).put (by simp))
      (List.not_mem_of_not_mem_cons hup) h hadded
    exact ⟨n, l, .enter_put (by simpa using hdir) ⟨hdot, hup', hlong⟩ hnone hadded hleads, hl⟩
  -- Nothing but what is not there is met on the way.
  | case9 d here piece rest hdir hdot hup' hlong next target hlink links start k hk ih =>
    exact absurd (hlink.symm.trans (hbare [piece] (by simp))) (by simp)
  | case12 d links here piece rest hdir hdot hup' hlong next node hnode hat ih =>
    exact absurd (hat.symm.trans (hbare [piece] (by simp))) (by simp)
  | case2 | case3 | case6 | case8 | case10 | case11 => exact absurd h (by simp)

/-- **Something is made along a path only to end in an empty directory**, unless the path
goes up. -/
theorem eq_or_exists_bare_of_makeAlong (hd : d.Tree) (hup : ".." ∉ ps)
    (h : d.makeAlong links here ps = .ok e) :
    e = d ∨ ∃ n l, Leads e n here ps l ∧ e.Bare l := by
  have hmade := addsDirectories_of_makeAlong h
  fun_induction d.makeAlong links here ps with
  | case1 d links here hdir => exact .inl (Except.ok.inj h).symm
  | case4 d links here rest hdir ih =>
    refine (ih hd (List.not_mem_of_not_mem_cons hup) h hmade).imp_right ?_
    rintro ⟨n, l, hleads, hl⟩
    exact ⟨n, l, .dot (hmade.isDirectoryAt (by simpa using hdir)) hleads, hl⟩
  | case5 d links here rest hdir hdot ih => exact absurd hup (by simp)
  | case7 d links here piece rest hdir hdot hup' hlong next hnone ih =>
    -- What comes behind the first piece that is not there is not there either.
    obtain ⟨n, l, hleads, hl⟩ := exists_bare_of_makeAlong
      ((hd.bare_of_absent hnone).put (by simp [next])) (List.not_mem_of_not_mem_cons hup) h
    exact .inr ⟨n, l, .enter_put (by simpa using hdir) ⟨hdot, hup', hlong⟩ hnone
      (addsDirectories_of_makeAlong h) hleads, hl⟩
  | case9 d here piece rest hdir hdot hup' hlong next target hlink links start k hk ih =>
    refine (ih hd (List.not_mem_of_not_mem_cons hup) h hmade).imp_right ?_
    rintro ⟨n, l, hleads, hl⟩
    -- A link is followed on the disk as it was, which is still all there at the end.
    have htarget : Leads e links (linkStart here target) (pieces target) k :=
      (leads_of_pursue hk).extend hmade.toExtends
    exact ⟨_, l, .follow (hmade.isDirectoryAt (by simpa using hdir)) ⟨hdot, hup', hlong⟩
      (hmade.toExtends _ _ hlink) (htarget.append hleads), hl⟩
  | case12 d links here piece rest hdir hdot hup' hlong next node hnode hat ih =>
    refine (ih hd (List.not_mem_of_not_mem_cons hup) h hmade).imp_right ?_
    rintro ⟨n, l, hleads, hl⟩
    exact ⟨n, l, .enter (hmade.isDirectoryAt (by simpa using hdir)) ⟨hdot, hup', hlong⟩
      (hmade.toExtends _ _ hat) hnode hleads, hl⟩
  | case2 | case3 | case6 | case8 | case10 | case11 => exact absurd h (by simp)

/-! ## Making the directories of a path -/

variable {cwd : Location} {path : Path}

/-- What it takes: the directories are made along the path, and then the path leads
somewhere. -/
theorem of_makeDirectories (hne : path.text.isEmpty = false)
    (h : d.makeDirectories cwd path = .ok e) :
    d.makeAlong linkLimit (origin cwd path) (pieces path.text) = .ok e
      ∧ ∃ l, e.resolve cwd path = .ok l := by
  have hpath : Followable path := by
    unfold makeDirectories at h
    split_ifs at h with hnull hshort <;>
      exact ⟨eq_false_of_ne_true hnull, hne, hshort⟩
  rw [makeDirectories_eq_bind hpath.nonnull hpath.short] at h
  cases hmade : d.makeAlong linkLimit (origin cwd path) (pieces path.text) with
  | error fault => simp [hmade, Except.bind] at h
  | ok made =>
    rw [hmade, Except.bind, ← locate_eq hpath] at h
    cases hfound : made.locate {} cwd path with
    | error fault => simp [hfound, Except.bind] at h
    | ok l =>
      rw [hfound, Except.bind, Except.ok.injEq] at h
      subst h
      exact ⟨rfl, l, hfound⟩

/-- **Making directories adds nothing else.** -/
theorem addsDirectories_of_makeDirectories (hne : path.text.isEmpty = false)
    (h : d.makeDirectories cwd path = .ok e) : e.AddsDirectories d :=
  addsDirectories_of_makeAlong (of_makeDirectories hne h).1

/-- **Nothing is made if the path leads somewhere.** -/
theorem eq_of_makeDirectories (hne : path.text.isEmpty = false)
    (hthere : d.resolve cwd path = .ok l) (h : d.makeDirectories cwd path = .ok e) : e = d :=
  (resolve_eq_ok_iff.1 hthere).2.eq_of_makeAlong (of_makeDirectories hne h).1

/-- **If anything is made, the path leads to an empty directory**, unless it goes up from
where it leaves what was there. -/
theorem eq_or_exists_bare_of_makeDirectories (hd : d.Tree) (hne : path.text.isEmpty = false)
    {mid : Location} (hpieces : pieces path.text = ps ++ qs)
    (hfront : Leads d linkLimit (origin cwd path) ps mid) (hup : ".." ∉ qs)
    (h : d.makeDirectories cwd path = .ok e) :
    e = d ∨ ∃ l, e.resolve cwd path = .ok l ∧ e.Bare l := by
  obtain ⟨hmade, k, hk⟩ := of_makeDirectories hne h
  obtain ⟨left, hleft⟩ := hfront.makeAlong_append
  have hback : d.makeAlong left mid qs = .ok e := by rw [← hleft, ← hpieces, hmade]
  refine (eq_or_exists_bare_of_makeAlong hd hup hback).imp_right ?_
  rintro ⟨n, l, hleads, hl⟩
  have hall : Leads e (linkLimit + n) (origin cwd path) (pieces path.text) l := by
    rw [hpieces]
    exact (hfront.extend (addsDirectories_of_makeAlong hmade).toExtends).append hleads
  obtain rfl : k = l := (resolve_eq_ok_iff.1 hk).2.unique hall
  exact ⟨k, hk, hl⟩

end PcdCatalog.Disk

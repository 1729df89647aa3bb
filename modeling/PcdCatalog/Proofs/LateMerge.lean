import PcdCatalog.Proofs.Traffic

/-!
# No late merge undoes a newer update

A call reads its document before it touches the index, so what it has read may
be out of date when it is merged: the document may have been edited in the
meantime, or deleted. What keeps such a late merge from undoing a newer update
is that the lock of the document covers both the read and the merge. The newer
call waits for the older one, reads after it, and acts after it.

`settled_of_idle` says what that comes to. Where no call for a document is under
way, the last call issued for it was also the last one of its document to act
(`Sound.exists_last`), and from then on only calls of other documents acted,
which can take symbols over but neither bring the document any nor drop its
own (`get?_of_replay`, `get?_replay_or`). If the last call was a removal,
nothing is left; if it was a change, and the document was not edited after the
call was issued, then what the call read is what the document says now
(`Reads.move`), however many edits came before.
-/

namespace PcdCatalog

/-! ## What a call does to the entries of a document -/

/-- Documents that own one entry are the same. -/
theorem Index.not_ownedBy {doc d : Path} {span : Span} (hne : doc.same d = false)
    (hown : Index.ownedBy d span = true) : Index.ownedBy doc span = false := by
  refine eq_false_of_ne_true fun h => ?_
  have hkey : doc.key = d.key := (Path.same_iff.1 h).symm.trans (Path.same_iff.1 hown)
  rw [Path.same_iff.2 hkey] at hne
  exact absurd hne (by simp)

namespace Effect

variable {x : Extractor} {e : Effect} {i : Index} {d : Path} {s : String} {span : Span}

theorem Looked.get?_apply (he : e.Looked x) (i : Index) (s : String) :
    (e.apply i).get? s
      = (e.declared? s).or ((i.get? s).filter fun span =>
          decide (e.task.update = .created) || !Index.ownedBy e.task.document span) := by
  obtain ⟨src, hfound⟩ := he
  unfold apply declared?
  rw [hfound]
  exact Update.get?_apply_look e.task.update x src e.task.document i s

theorem Looked.document_of_declared? (he : e.Looked x) (h : e.declared? s = some span) :
    span.document = e.task.document := by
  obtain ⟨src, hfound⟩ := he
  unfold declared? at h
  rw [hfound] at h
  exact Update.document_of_look h

/-- A removal finds nothing. -/
theorem Looked.declared?_of_deleted (he : e.Looked x) (hu : e.task.update = .deleted) (s : String) :
    e.declared? s = none := by
  obtain ⟨src, hfound⟩ := he
  unfold declared?
  rw [hfound, hu]
  rfl

/-- **A change or a removal leaves a document what it found**, and nothing else. -/
theorem Looked.declared?_of_apply (he : e.Looked x) (hu : e.task.update ≠ .created)
    (hd : e.task.document.same d = true) (hget : (e.apply i).get? s = some span)
    (hown : Index.ownedBy d span = true) : e.declared? s = some span := by
  rw [he.get?_apply, Option.or_eq_some_iff] at hget
  rcases hget with hnew | ⟨-, hold⟩
  · exact hnew
  · have hself : Index.ownedBy e.task.document span = true :=
      Path.same_iff.2 ((Path.same_iff.1 hown).trans (Path.same_iff.1 hd).symm)
    have hother : Index.ownedBy e.task.document span = false := by
      simpa [hu] using (Option.filter_eq_some_iff.1 hold).2
    rw [hother] at hself
    exact absurd hself (by simp)

/-- A call of another document brings a document nothing. -/
theorem Looked.get?_of_apply (he : e.Looked x) (hne : e.task.document.same d = false)
    (hget : (e.apply i).get? s = some span) (hown : Index.ownedBy d span = true) :
    i.get? s = some span := by
  rw [he.get?_apply, Option.or_eq_some_iff] at hget
  rcases hget with hnew | ⟨-, hold⟩
  · have hdoc : Index.ownedBy d span = e.task.document.same d := by
      unfold Index.ownedBy
      rw [he.document_of_declared? hnew]
    rw [hdoc, hne] at hown
    exact absurd hown (by simp)
  · exact (Option.filter_eq_some_iff.1 hold).1

/-- It takes from the document only what it declares itself. -/
theorem Looked.get?_apply_or (he : e.Looked x) (hne : e.task.document.same d = false)
    (hget : i.get? s = some span) (hown : Index.ownedBy d span = true) :
    (e.apply i).get? s = some span ∨ (e.declared? s).isSome = true := by
  rw [he.get?_apply]
  cases e.declared? s with
  | some other => exact Or.inr rfl
  | none =>
    refine Or.inl ?_
    rw [Option.none_or, hget]
    refine Option.filter_some_pos ?_
    rw [Index.not_ownedBy hne hown, Bool.not_false, Bool.or_true]

end Effect

namespace Traffic

variable {x : Extractor} {i : Index} {s : Traffic}

/-! ## After the last call of a document -/

section

variable {log : List Effect} {d : Path} {sym : String} {span : Span}

/-- **Calls of other documents bring a document nothing.** -/
theorem get?_of_replay (hlooked : ∀ e ∈ log, e.Looked x)
    (hother : ∀ e ∈ log, e.task.document.same d = false)
    (hget : (replay i log).get? sym = some span) (hown : Index.ownedBy d span = true) :
    i.get? sym = some span := by
  induction log generalizing i with
  | nil => exact hget
  | cons e log ih =>
    rw [List.forall_mem_cons] at hlooked hother
    exact hlooked.1.get?_of_apply hother.1 (ih hlooked.2 hother.2 hget) hown

/-- **They take from it only what one of them declares.** -/
theorem get?_replay_or (hlooked : ∀ e ∈ log, e.Looked x)
    (hother : ∀ e ∈ log, e.task.document.same d = false) (hget : i.get? sym = some span)
    (hown : Index.ownedBy d span = true) :
    (replay i log).get? sym = some span ∨ ∃ e ∈ log, (e.declared? sym).isSome = true := by
  induction log generalizing i with
  | nil => exact Or.inl hget
  | cons e log ih =>
    rw [List.forall_mem_cons] at hlooked hother
    rcases hlooked.1.get?_apply_or hother.1 hget hown with hkept | hdecl
    · rcases ih hlooked.2 hother.2 hkept with h | ⟨e', he', h⟩
      · exact Or.inl h
      · exact Or.inr ⟨e', List.mem_cons_of_mem e he', h⟩
    · exact Or.inr ⟨e, List.mem_cons_self, hdecl⟩

end

/-- **The last call of a document to act decides what it owns**: only what that
call found, if it was not a creation, and all of it but for what calls of other
documents took over later. -/
theorem Sound.share_of_last (hs : s.Sound x i) {d : Path} {early late : List Effect} {e : Effect}
    (hlog : s.log = early ++ e :: late) (hdoc : e.task.document.same d = true)
    (hother : ∀ e' ∈ late, e'.task.document.same d = false) :
    (e.task.update ≠ .created → ∀ sym span, s.index.get? sym = some span →
        Index.ownedBy d span = true → e.declared? sym = some span)
      ∧ ∀ sym span, e.declared? sym = some span →
        s.index.get? sym = some span ∨ ∃ e' ∈ late, (e'.declared? sym).isSome = true := by
  obtain ⟨hlooked, hlate⟩ : e.Looked x ∧ ∀ e' ∈ late, e'.Looked x :=
    List.forall_mem_cons.1 fun e' he' => hs.logged e' (hlog ▸ List.mem_append_right early he')
  have hindex : s.index = replay (e.apply (replay i early)) late := by
    rw [hs.index, hlog]
    exact List.foldl_append
  rw [hindex]
  refine ⟨fun hu sym span hget hown => ?_, fun sym span hdecl => ?_⟩
  · exact hlooked.declared?_of_apply hu hdoc (get?_of_replay hlate hother hget hown) hown
  · have hget : (e.apply (replay i early)).get? sym = some span := by
      rw [hlooked.get?_apply, hdecl]
      rfl
    have hown : Index.ownedBy d span = true := by
      unfold Index.ownedBy
      rw [hlooked.document_of_declared? hdecl]
      exact hdoc
    exact get?_replay_or hlate hother hget hown

/-! ## The last call of a document -/

/-- A step that issues no call for a document leaves the last one the last. -/
theorem last_move {a : Step} {s' : Traffic} {d : Path} {t : Task}
    (ha : a.issuesFor d = false)
    (hs : ∃ front, s.issued.filter (fun t => t.document.same d) = front ++ [t])
    (h : Move x s a s') :
    ∃ front, s'.issued.filter (fun t => t.document.same d) = front ++ [t] := by
  cases h with
  | issue u doc =>
    have hdoc : doc.same d = false := ha
    obtain ⟨front, hfront⟩ := hs
    refine ⟨front, ?_⟩
    show (s.issued ++ [_]).filter _ = _
    rw [List.filter_append, hfront, List.filter_cons_of_neg (by simp [hdoc])]
    exact List.append_nil _
  | edit src => exact hs
  | read hcalls hheld => exact hs
  | apply hcalls => exact hs
  | release hcalls => exact hs
  | prune => exact hs

/-- **Where no call for a document is under way, the last one issued was the last
one to act.** -/
theorem Sound.exists_last (hs : s.Sound x i) {d : Path} {front : List Task} {t : Task}
    (hidle : ∀ c ∈ s.calls, c.task.document.same d = false)
    (hlast : s.issued.filter (fun t => t.document.same d) = front ++ [t]) :
    ∃ early e late, s.log = early ++ e :: late ∧ e.task = t
      ∧ ∀ e' ∈ late, e'.task.document.same d = false := by
  have hdue : (dueOf s.calls).filter (fun t => t.document.same d) = [] := by
    rw [List.filter_eq_nil_iff]
    intro u hu
    obtain ⟨c, hc, rfl⟩ := List.mem_map.1 hu
    rw [hidle c (List.mem_filter.1 hc).1]
    simp
  have hlog : (s.log.filter fun e => e.task.document.same d).map Effect.task = front ++ [t] := by
    have horder := hs.order d
    rw [List.filter_append, hdue, List.append_nil, hlast, List.filter_map] at horder
    exact horder
  obtain ⟨efront, elast, hsplit, -, he⟩ := List.map_eq_append_iff.1 hlog
  obtain ⟨e, rfl, rfl⟩ := List.map_eq_singleton_iff.1 he
  obtain ⟨early, rest, hrest, -, hrestfilter⟩ := List.filter_eq_append_iff.1 hsplit
  obtain ⟨mid, late, rfl, hmid, -, hlate⟩ := List.filter_eq_cons_iff.1 hrestfilter
  refine ⟨early ++ mid, e, late, ?_, rfl, fun e' he' => ?_⟩
  · rw [hrest, List.append_assoc]
  · simpa using List.filter_eq_nil_iff.1 hlate e' he'

/-- The last call issued for a document, where none is under way. -/
theorem Sound.exists_last_issued (hs : s.Sound x i) {d p : Path} {u : Update} {after : List Step}
    (hp : p.same d = true) (hlast : ∀ a ∈ after, a.issuesFor d = false)
    (hidle : ∀ c ∈ ((s.issue u p).run x after).calls, c.task.document.same d = false) :
    ∃ early e late, ((s.issue u p).run x after).log = early ++ e :: late
      ∧ e.task = ⟨s.issued.length, u, p⟩ ∧ ∀ e' ∈ late, e'.task.document.same d = false := by
  have hissue : (s.issue u p).issued.filter (fun t => t.document.same d)
      = s.issued.filter (fun t => t.document.same d) ++ [⟨s.issued.length, u, p⟩] := by
    show (s.issued ++ [_]).filter _ = _
    rw [List.filter_append, List.filter_cons_of_pos (by simpa using hp)]
    rfl
  obtain ⟨front, hfront⟩ := run_induction (P := fun s' => ∃ front,
      s'.issued.filter (fun t => t.document.same d) = front ++ [⟨s.issued.length, u, p⟩])
    ⟨_, hissue⟩ fun a ha _ _ h hm => last_move (hlast a ha) h hm
  exact ((hs.move (.issue u p)).run after).exists_last hidle hfront

/-! ## What the last call read -/

/-- **A call reads what its document says now**, if it has not read it
already. -/
structure Reads (x : Extractor) (t : Task) (found : Found) (s : Traffic) : Prop where
  text : t.update.look x s.source t.document = found
  read : ∀ c ∈ s.calls, c.task = t → ∀ f, c.stage = .read f → f = found
  logged : ∀ e ∈ s.log, e.task = t → e.found = found

/-- As long as the document is not edited, that stays so. -/
theorem Reads.move {a : Step} {s' : Traffic} {t : Task} {found : Found} (hs : s.Reads x t found)
    (hkeep : ∀ src, a = .edit src → t.update.look x src t.document = found)
    (h : Move x s a s') : s'.Reads x t found := by
  cases h with
  | edit src => exact { hs with text := hkeep src rfl }
  | prune => exact { hs with }
  | issue u doc =>
    refine { hs with read := fun c hc hct f hf => ?_ }
    rcases List.mem_append.1 hc with hc | hc
    · exact hs.read c hc hct f hf
    · rw [List.mem_singleton.1 hc] at hf
      exact absurd hf (by simp)
  | @read front back u hcalls hheld =>
    have hread := hs.read
    rw [hcalls] at hread
    refine { hs with read := fun c hc hct f hf => ?_ }
    rcases mem_of_mem_stage .waiting hc with rfl | hc
    · cases hf
      rw [← hs.text, ← show u = t from hct]
    · exact hread c hc hct f hf
  | @apply front back u f hcalls =>
    have hread := hs.read
    rw [hcalls] at hread
    refine { text := hs.text, read := fun c hc hct f' hf => ?_, logged := fun e he het => ?_ }
    · rcases mem_of_mem_stage (.read f) hc with rfl | hc
      · exact absurd hf (by simp)
      · exact hread c hc hct f' hf
    · rcases List.mem_append.1 he with he | he
      · exact hs.logged e he het
      · rw [List.mem_singleton.1 he] at het ⊢
        exact hread _ (List.mem_append_right front List.mem_cons_self) het f rfl
  | @release front back u hcalls =>
    have hread := hs.read
    rw [hcalls] at hread
    refine { hs with read := fun c hc => hread c ?_ }
    exact ((List.sublist_cons_self _ back).append_left front).subset hc

/-- What has acted was issued. -/
theorem Sound.task_mem_issued (hs : s.Sound x i) {e : Effect} (he : e ∈ s.log) :
    e.task ∈ s.issued := by
  have hmem : e.task ∈ (s.log.map Effect.task ++ dueOf s.calls).filter
      (fun t => t.document.same e.task.document) :=
    List.mem_filter.2 ⟨List.mem_append_left _ (List.mem_map_of_mem he), Path.same_self _⟩
  rw [hs.order e.task.document] at hmem
  exact (List.mem_filter.1 hmem).1

/-- A call that is just issued has read nothing. -/
theorem Sound.reads_issue (hs : s.Sound x i) (u : Update) (doc : Path) :
    (s.issue u doc).Reads x ⟨s.issued.length, u, doc⟩ (u.look x s.source doc) where
  text := rfl
  read := by
    intro c hc hct f hf
    rcases List.mem_append.1 hc with hc | hc
    · have hmem := hs.queued.sublist.subset (List.mem_map_of_mem hc)
      rw [hct] at hmem
      exact absurd (hs.queued.below _ hmem) (Nat.lt_irrefl _)
    · rw [List.mem_singleton.1 hc] at hf
      exact absurd hf (by simp)
  logged := by
    intro e he het
    have hmem := hs.task_mem_issued he
    rw [het] at hmem
    exact absurd (hs.queued.below _ hmem) (Nat.lt_irrefl _)

/-- **A call whose document is not edited after it was issued finds what the
document says now.** -/
theorem Sound.found_of_unedited (hs : s.Sound x i) {p : Path} {after : List Step} {e : Effect}
    (hkeep : ∀ src, .edit src ∈ after → (src.read p).toOption = (s.source.read p).toOption)
    (he : e ∈ ((s.issue .changed p).run x after).log)
    (htask : e.task = ⟨s.issued.length, .changed, p⟩) :
    e.found = x.look ((s.issue .changed p).run x after).source p := by
  have hreads : ((s.issue .changed p).run x after).Reads x ⟨s.issued.length, .changed, p⟩
      (x.look s.source p) := by
    refine run_induction (hs.reads_issue .changed p) fun a ha _ _ h hm => h.move ?_ hm
    rintro src rfl
    exact x.look_congr (hkeep src ha)
  exact (hreads.logged e he htask).trans hreads.text.symm

/-! ## The last call settles its document -/

/-- **No late merge undoes a newer update.** In every reachable state in which no
call for a document `d` is under way, the last call issued for it, here with
path `p`, has acted. If it was a removal, `d` owns nothing. If it was a change,
and no edit since it was issued gave `d` another text, then `d` owns nothing but
what its text declares now, and all of it but for the symbols that calls of
other documents declare which acted later. -/
theorem settled_of_idle (x : Extractor) (i : Index) (src : Source) (before after : List Step)
    (u : Update) (p d : Path) (hp : p.same d = true)
    (hlast : ∀ a ∈ after, a.issuesFor d = false)
    (hidle : ∀ c ∈ ((start i src).run x (before ++ .issue u p :: after)).calls,
      c.task.document.same d = false) :
    let s₀ := (start i src).run x before
    let s := (start i src).run x (before ++ .issue u p :: after)
    ∃ early e late, s.log = early ++ e :: late
      ∧ e.task = ⟨s₀.issued.length, u, p⟩
      ∧ (u = .deleted → s.index.owns d = false)
      ∧ (u = .changed →
          (∀ src', .edit src' ∈ after →
            (src'.read p).toOption = (s₀.source.read p).toOption) →
          (∀ sym span, s.index.get? sym = some span → Index.ownedBy d span = true →
            x.declared? s.source p sym = some span)
          ∧ ∀ sym span, x.declared? s.source p sym = some span →
            s.index.get? sym = some span
              ∨ ∃ e' ∈ late, e'.task.document.same d = false
                ∧ (e'.declared? sym).isSome = true) := by
  intro s₀ s
  have hrun : s = (s₀.issue u p).run x after := run_append x _ before _
  have hs₀ : s₀.Sound x i := (sound_start x i src).run before
  have hs : s.Sound x i := (sound_start x i src).run _
  obtain ⟨early, e, late, hlog, htask, hother⟩ :=
    hs₀.exists_last_issued hp hlast (by rw [← hrun]; exact hidle)
  rw [← hrun] at hlog
  have hmem : e ∈ s.log := hlog ▸ List.mem_append_right early List.mem_cons_self
  obtain ⟨honly, hall⟩ := hs.share_of_last hlog (by rw [htask]; exact hp) hother
  refine ⟨early, e, late, hlog, htask, fun hu => ?_, fun hu hkeep => ?_⟩
  · -- a removal finds nothing, so nothing is left
    refine eq_false_of_ne_true fun howns => ?_
    obtain ⟨sym, span, hget, hown⟩ := (Index.owns_iff s.index d).1 howns
    have hfound := honly (by rw [htask]; simp [hu]) sym span hget hown
    rw [(hs.logged e hmem).declared?_of_deleted (by rw [htask]; exact hu)] at hfound
    exact absurd hfound (by simp)
  · subst hu
    have hnow : ∀ sym, e.declared? sym = x.declared? s.source p sym := by
      intro sym
      have hfound := hs₀.found_of_unedited hkeep (by rw [← hrun]; exact hmem) htask
      unfold Effect.declared? Extractor.declared?
      rw [hfound, hrun]
    refine ⟨fun sym span hget hown => ?_, fun sym span hdecl => ?_⟩
    · rw [← hnow sym]
      exact honly (by rw [htask]; simp) sym span hget hown
    · rcases hall sym span (by rw [hnow sym]; exact hdecl) with h | ⟨e', he', h⟩
      · exact Or.inl h
      · exact Or.inr ⟨e', he', hother e' he', h⟩

/-- Documents that all say the same. -/
def stale : Source := ⟨[], fun _ => .ok "g.PcdOld|1"⟩

/-- Two documents that declare a symbol in common. -/
def edited : Source :=
  ⟨[], fun p => .ok (if p.same ⟨"a.dec"⟩ then "g.PcdA|1\ng.PcdB|1" else "g.PcdB|1")⟩

/-- A call reads a document, which is then edited. -/
def staleRead : List Step := [.issue .changed ⟨"a.dec"⟩, .read 0, .edit edited]

/-- What the older call has read is merged while a newer one waits. Another
document takes a symbol over, and is taken away before the end. -/
def lateMerge : List Step :=
  [.issue .created ⟨"b.dec"⟩, .apply 0, .read 2, .release 0, .read 1, .apply 1, .apply 2,
    .edit ⟨[], fun p => if p.same ⟨"a.dec"⟩ then edited.read p else .error .missing⟩,
    .release 2, .release 1, .prune]

theorem settled_of_idle_lateMerge :
    (∀ a ∈ lateMerge, a.issuesFor ⟨"a.dec"⟩ = false)
      ∧ (∀ c ∈ ((start default stale).run .ordinary
            (staleRead ++ .issue .changed ⟨"a.dec/"⟩ :: lateMerge)).calls,
          c.task.document.same ⟨"a.dec"⟩ = false)
      ∧ ∀ sym span, ((start default stale).run .ordinary
            (staleRead ++ .issue .changed ⟨"a.dec/"⟩ :: lateMerge)).index.get? sym = some span →
          Index.ownedBy ⟨"a.dec"⟩ span = true →
          Extractor.ordinary.declared? edited ⟨"a.dec/"⟩ sym = some span := by
  have hlast : ∀ a ∈ lateMerge, a.issuesFor ⟨"a.dec"⟩ = false := by decide
  have hidle : ∀ c ∈ ((start default stale).run .ordinary
      (staleRead ++ .issue .changed ⟨"a.dec/"⟩ :: lateMerge)).calls,
      c.task.document.same ⟨"a.dec"⟩ = false := by decide +kernel
  obtain ⟨early, e, late, -, -, -, hchanged⟩ := settled_of_idle .ordinary default stale staleRead
    lateMerge .changed ⟨"a.dec/"⟩ ⟨"a.dec"⟩ (by decide) hlast hidle
  refine ⟨hlast, hidle, (hchanged rfl fun src' hmem => ?_).1⟩
  obtain rfl : src' = _ := by simpa [lateMerge] using hmem
  decide

end Traffic

end PcdCatalog

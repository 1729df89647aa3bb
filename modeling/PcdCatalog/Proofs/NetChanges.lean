import Mathlib.Order.Bounds.Basic
import PcdCatalog.Proofs.Coalescing

/-!
# Net changes

What `Event.coalesce` makes of a list of events, without the table through which
it goes. The events about one path form a class, and each class has its net
change (`NetOf`): spelled as its first event, at its latest time, a removal if the
last event is one, a creation if the first event is one and nothing was removed
in between, and a modification otherwise.

First and last are meant in the order of the times, and events at one time in the
order given. There is only one such order (`TimeOrdered.unique`), and the order
of a class is decided by that class alone. So the changes depend on nothing but
the order of events about one path at one time, and any rearrangement that
respects it has the same changes (`Rearranged`).
-/

namespace PcdCatalog

/-- **Only what is created and not deleted stays new.** -/
theorem ChangeKind.andThen_eq_created_iff (a b : ChangeKind) :
    a.andThen b = .created ↔ a = .created ∧ b ≠ .deleted := by
  cases a <;> cases b <;> simp [andThen]

namespace Event

/-! ## The order of times -/

/-- Whether an event happened at a time. -/
def atTime (t : Nat) (e : Event) : Bool := e.time = t

/-- **Events in the order of their times**, those of one time in the order
given. -/
structure TimeOrdered (events l : List Event) : Prop where
  ascending : l.Pairwise fun a b => a.time ≤ b.time
  stable : ∀ t, l.filter (atTime t) = events.filter (atTime t)

theorem mem_iff_of_filter_atTime {l m : List Event}
    (h : ∀ t, l.filter (atTime t) = m.filter (atTime t)) (e : Event) : e ∈ l ↔ e ∈ m := by
  have hmem : ∀ l : List Event, e ∈ l.filter (atTime e.time) ↔ e ∈ l := by
    intro l
    simp [atTime]
  rw [← hmem l, h, hmem]

/-- Two lists in the order of times are equal if they are so at every time. -/
theorem eq_of_filter_atTime {l m : List Event} (hl : l.Pairwise fun a b => a.time ≤ b.time)
    (hm : m.Pairwise fun a b => a.time ≤ b.time)
    (h : ∀ t, l.filter (atTime t) = m.filter (atTime t)) : l = m := by
  induction l generalizing m with
  | nil =>
    refine (List.eq_nil_iff_forall_not_mem.2 fun e he => ?_).symm
    exact absurd ((mem_iff_of_filter_atTime h e).2 he) List.not_mem_nil
  | cons a l ih =>
    cases m with
    | nil =>
      exact absurd ((mem_iff_of_filter_atTime h a).1 List.mem_cons_self) List.not_mem_nil
    | cons b m =>
      obtain ⟨ha, hl'⟩ := List.pairwise_cons.1 hl
      obtain ⟨hb, hm'⟩ := List.pairwise_cons.1 hm
      -- both heads have the earliest time, and of that time they are the first events
      have htime : a.time = b.time := by
        have hab : a.time ≤ b.time := by
          rcases List.mem_cons.1 ((mem_iff_of_filter_atTime h b).2 List.mem_cons_self) with hb' | hb'
          · exact Nat.le_of_eq (congrArg time hb'.symm)
          · exact ha b hb'
        have hba : b.time ≤ a.time := by
          rcases List.mem_cons.1 ((mem_iff_of_filter_atTime h a).1 List.mem_cons_self) with ha' | ha'
          · exact Nat.le_of_eq (congrArg time ha'.symm)
          · exact hb a ha'
        exact Nat.le_antisymm hab hba
      have hhead := h a.time
      rw [List.filter_cons_of_pos (by simp [atTime]),
        List.filter_cons_of_pos (by simp [atTime, htime])] at hhead
      obtain ⟨rfl, -⟩ := List.cons.inj hhead
      refine congrArg (a :: ·) (ih hl' hm' fun t => ?_)
      have ht := h t
      rw [List.filter_cons, List.filter_cons] at ht
      split at ht
      · exact (List.cons.inj ht).2
      · exact ht

/-- **There is only one order of times.** -/
theorem TimeOrdered.unique {events l m : List Event} (hl : TimeOrdered events l)
    (hm : TimeOrdered events m) : l = m :=
  eq_of_filter_atTime hl.ascending hm.ascending fun t => (hl.stable t).trans (hm.stable t).symm

/-- **Events are sorted into the order of their times.** -/
theorem timeOrdered_inTime (events : List Event) : TimeOrdered events (inTime events) := by
  have htrans : ∀ a b c : Event, decide (a.time ≤ b.time) → decide (b.time ≤ c.time) →
      decide (a.time ≤ c.time) := by
    intro a b c hab hbc
    exact decide_eq_true (Nat.le_trans (of_decide_eq_true hab) (of_decide_eq_true hbc))
  have htotal : ∀ a b : Event, (decide (a.time ≤ b.time) || decide (b.time ≤ a.time)) = true := by
    intro a b
    rw [Bool.or_eq_true, decide_eq_true_eq, decide_eq_true_eq]
    exact Nat.le_total a.time b.time
  refine ⟨(List.pairwise_mergeSort htrans htotal events).imp of_decide_eq_true, fun t => ?_⟩
  -- the events of one time are in order as they are given, so sorting leaves them in place
  have hsame : (events.filter (atTime t)).Pairwise fun a b => decide (a.time ≤ b.time) := by
    refine List.pairwise_of_forall_mem_list fun a ha b hb => ?_
    have ha' : a.time = t := of_decide_eq_true (List.mem_filter.1 ha).2
    have hb' : b.time = t := of_decide_eq_true (List.mem_filter.1 hb).2
    exact decide_eq_true (Nat.le_of_eq (ha'.trans hb'.symm))
  have hsub : (events.filter (atTime t)).Sublist ((inTime events).filter (atTime t)) := by
    have hkept := (List.sublist_mergeSort htrans htotal hsame List.filter_sublist).filter (atTime t)
    rwa [List.filter_filter, List.filter_congr fun e _ => Bool.and_self _] at hkept
  have hlength : (events.filter (atTime t)).length = ((inTime events).filter (atTime t)).length :=
    ((List.mergeSort_perm events _).filter _).length_eq.symm
  exact (hsub.eq_of_length hlength).symm

theorem TimeOrdered.filter {events l : List Event} (h : TimeOrdered events l) (p : Event → Bool) :
    TimeOrdered (events.filter p) (l.filter p) where
  ascending := h.ascending.filter p
  stable t := by
    rw [List.filter_comm, h.stable, List.filter_comm]

/-! ## The net change of a class -/

/-- **The net change of events in the order of their times.** -/
structure NetOf (events : List Event) (first last change : Event) : Prop where
  head_eq : events.head? = some first
  last_eq : events.getLast? = some last
  path : change.path = first.path
  time : IsGreatest {t | ∃ e ∈ events, e.time = t} change.time
  deleted : change.kind = .deleted ↔ last.kind = .deleted
  created : change.kind = .created ↔ first.kind = .created ∧ ∀ e ∈ events, e.kind ≠ .deleted
  modified : change.kind = .modified
    ↔ last.kind ≠ .deleted ∧ ¬ (first.kind = .created ∧ ∀ e ∈ events, e.kind ≠ .deleted)

theorem kind_foldl_absorb_eq_created_iff (l : List Event) (e : Event) :
    (l.foldl absorb e).kind = .created
      ↔ e.kind = .created ∧ ∀ a ∈ l, a.kind ≠ .deleted := by
  induction l generalizing e with
  | nil => simp
  | cons a l ih =>
    rw [List.foldl_cons, ih, List.forall_mem_cons]
    show e.kind.andThen a.kind = .created ∧ _ ↔ _
    rw [ChangeKind.andThen_eq_created_iff, and_assoc]

/-- The time of a net change is the latest of its events. -/
theorem isGreatest_foldl_absorb (l : List Event) (e : Event) :
    IsGreatest {t | ∃ a ∈ e :: l, a.time = t} (l.foldl absorb e).time := by
  induction l generalizing e with
  | nil => simp
  | cons a l ih =>
    obtain ⟨⟨b, hb, htime⟩, hmax⟩ := ih (e.absorb a)
    have hboth : max e.time a.time ≤ ((a :: l).foldl absorb e).time :=
      hmax ⟨e.absorb a, List.mem_cons_self, rfl⟩
    refine ⟨?_, ?_⟩
    · rcases List.mem_cons.1 hb with rfl | hb
      · have hmem : a.time = max e.time a.time ∨ e.time = max e.time a.time := by omega
        rcases hmem with ha | he
        · exact ⟨a, by simp, ha.trans htime⟩
        · exact ⟨e, by simp, he.trans htime⟩
      · exact ⟨b, by simp [hb], htime⟩
    · rintro t ⟨b, hb, rfl⟩
      rcases List.mem_cons.1 hb with rfl | hb
      · exact (Nat.le_max_left _ _).trans hboth
      rcases List.mem_cons.1 hb with rfl | hb
      · exact (Nat.le_max_right _ _).trans hboth
      · exact hmax ⟨b, List.mem_cons_of_mem _ hb, rfl⟩

/-- **The net change of a class is what the fold makes of it.** -/
theorem exists_netOf {events : List Event} {c : Event} (h : net events = some c) :
    ∃ first last, NetOf events first last c := by
  obtain rfl | ⟨front, last, hconcat⟩ := List.eq_nil_or_concat events
  · exact absurd h (by simp [net])
  rw [List.concat_eq_append] at hconcat
  cases events with
  | nil => exact absurd h (by simp [net])
  | cons first rest =>
    have hdeleted : c.kind = .deleted ↔ last.kind = .deleted := kind_net (hconcat ▸ h)
    obtain rfl := Option.some.inj h
    have hcreated : (rest.foldl absorb first).kind = .created
        ↔ first.kind = .created ∧ ∀ e ∈ first :: rest, e.kind ≠ .deleted := by
      rw [kind_foldl_absorb_eq_created_iff, List.forall_mem_cons]
      constructor
      · rintro ⟨hfirst, hrest⟩
        exact ⟨hfirst, by simp [hfirst], hrest⟩
      · rintro ⟨hfirst, -, hrest⟩
        exact ⟨hfirst, hrest⟩
    refine ⟨first, last, rfl, by rw [hconcat, List.getLast?_concat], path_foldl_absorb rest first,
      isGreatest_foldl_absorb rest first, hdeleted, hcreated, ?_⟩
    rw [← hcreated, Ne, ← hdeleted]
    cases (rest.foldl absorb first).kind <;> simp

/-! ## The order of changes -/

/-- **Earlier, or at the same time and before by path.** -/
def Precedes (a b : Event) : Prop :=
  a.time < b.time ∨ a.time = b.time ∧ compare a.path b.path = .lt

theorem before_iff (a b : Event) :
    a.before b = true
      ↔ a.time < b.time ∨ a.time = b.time ∧ (compare a.path.key b.path.key).isLE = true := by
  unfold before
  rw [Bool.or_eq_true, Bool.and_eq_true, decide_eq_true_eq, beq_iff_eq]
  rfl

theorem before_trans (a b c : Event) (hab : a.before b = true) (hbc : b.before c = true) :
    a.before c = true := by
  rw [before_iff] at hab hbc ⊢
  rcases hab with hab | ⟨hab, hpath⟩ <;> rcases hbc with hbc | ⟨hbc, hpath'⟩
  · exact .inl (by omega)
  · exact .inl (by omega)
  · exact .inl (by omega)
  · exact .inr ⟨by omega, Std.TransCmp.isLE_trans hpath hpath'⟩

theorem before_total (a b : Event) : (a.before b || b.before a) = true := by
  rw [Bool.or_eq_true, before_iff, before_iff]
  rcases Nat.lt_trichotomy a.time b.time with hlt | heq | hgt
  · exact .inl (.inl hlt)
  · cases hc : compare a.path.key b.path.key with
    | lt => exact .inl (.inr ⟨heq, by simp⟩)
    | eq => exact .inl (.inr ⟨heq, by simp⟩)
    | gt =>
      refine .inr (.inr ⟨heq.symm, ?_⟩)
      rw [Std.OrientedCmp.lt_of_gt hc]
      rfl
  · exact .inr (.inl hgt)

/-- No two changes are about the same path. -/
theorem nodup_key_coalesce (events : List Event) :
    ((coalesce events).map fun c => c.path.key).Nodup := by
  have hkeys : ((inTime events).foldl fold ∅).values.map (fun c => c.path.key)
      = ((inTime events).foldl fold ∅).keys := by
    unfold Table.values Table.keys
    rw [List.map_map]
    refine List.map_congr_left fun e he => ?_
    exact key_of_get?_foldl_fold ((Table.get?_eq_some_iff _).2 he)
  refine ((List.mergeSort_perm _ _).map _).nodup_iff.2 ?_
  exact hkeys ▸ Table.nodup_keys _

/-- **Changes are strictly in order**, by time and then by path. -/
theorem pairwise_coalesce (events : List Event) : (coalesce events).Pairwise Precedes := by
  have hsorted := List.pairwise_mergeSort before_trans before_total
    ((inTime events).foldl fold ∅).values
  have hdiff := List.pairwise_map.1 (nodup_key_coalesce events)
  refine (hsorted.and hdiff).imp ?_
  rintro a b ⟨hab, hne⟩
  rcases (before_iff a b).1 hab with hlt | ⟨heq, hle⟩
  · exact .inl hlt
  · refine .inr ⟨heq, ?_⟩
    show compare a.path.key b.path.key = .lt
    cases hc : compare a.path.key b.path.key with
    | lt => rfl
    | eq => exact absurd (Std.LawfulEqCmp.eq_of_compare hc) hne
    | gt =>
      rw [hc] at hle
      exact absurd hle (by simp)

/-! ## Coalescing in closed form -/

/-- **The same events in another order**, in which events about one document at
one time keep theirs. -/
def Rearranged (events events' : List Event) : Prop :=
  ∀ k t, (events'.filter (concerns k)).filter (atTime t)
    = (events.filter (concerns k)).filter (atTime t)

/-- The events about a document come in one order, however they are
rearranged. -/
theorem Rearranged.filter_inTime {events events' : List Event} (h : Rearranged events events')
    (k : Path.Key) :
    (inTime events').filter (concerns k) = (inTime events).filter (concerns k) := by
  have hordered := (timeOrdered_inTime events).filter (concerns k)
  have hordered' := (timeOrdered_inTime events').filter (concerns k)
  refine eq_of_filter_atTime hordered'.ascending hordered.ascending fun t => ?_
  rw [hordered'.stable, h, hordered.stable]

theorem Rearranged.coalesce_eq {events events' : List Event} (h : Rearranged events events') :
    coalesce events' = coalesce events := by
  have htable : (inTime events').foldl fold ∅ = (inTime events).foldl fold ∅ := by
    refine Table.ext_get? fun k => ?_
    rw [get?_foldl_fold, get?_foldl_fold, h.filter_inTime]
  show ((inTime events').foldl fold ∅).values.mergeSort before
    = ((inTime events).foldl fold ∅).values.mergeSort before
  rw [htable]

/-- A change is the net of the events about its document. -/
theorem net_of_mem_coalesce {events : List Event} {c : Event} (h : c ∈ coalesce events) :
    net ((inTime events).filter (concerns c.path.key)) = some c := by
  have hmem : c ∈ (coalesce events).filter (concerns c.path.key) :=
    List.mem_filter.2 ⟨h, by simp [concerns]⟩
  rw [filter_coalesce] at hmem
  exact Option.mem_toList.1 hmem

/-- There is one change about the document of every event. -/
theorem countP_coalesce {events : List Event} {e : Event} (h : e ∈ events) :
    (coalesce events).countP (concerns e.path.key) = 1 := by
  rw [List.countP_eq_length_filter, filter_coalesce]
  have hmem : e ∈ (inTime events).filter (concerns e.path.key) :=
    List.mem_filter.2 ⟨List.mem_mergeSort.2 h, by simp [concerns]⟩
  cases hclass : (inTime events).filter (concerns e.path.key) with
  | nil =>
    rw [hclass] at hmem
    exact absurd hmem List.not_mem_nil
  | cons a l => rfl

/-- **Coalescing folds events path by path.** There is one change about the
document of every event, and every change is the net of the events about its
document, in the order of their times; the changes are strictly in order. So they
stay the same when events are rearranged, as long as events about one document at
one time keep their order. -/
theorem coalesce_exact (events : List Event) :
    (∀ e ∈ events, (coalesce events).countP (fun c => c.path.same e.path) = 1)
    ∧ (∃ l, TimeOrdered events l)
    ∧ (∀ l, TimeOrdered events l → ∀ c ∈ coalesce events,
        ∃ first last, NetOf (l.filter fun e => e.path.same c.path) first last c)
    ∧ (coalesce events).Pairwise Precedes
    ∧ ∀ events', Rearranged events events' → coalesce events' = coalesce events := by
  have hsame : ∀ d : Path, (fun e : Event => e.path.same d) = concerns d.key := by
    intro d
    funext e
    rw [Bool.eq_iff_iff, Path.same_iff, concerns, decide_eq_true_eq]
  refine ⟨fun e he => ?_, ⟨_, timeOrdered_inTime events⟩, fun l hl c hc => ?_,
    pairwise_coalesce events, fun events' h => h.coalesce_eq⟩
  · rw [hsame]
    exact countP_coalesce he
  · rw [hsame, hl.unique (timeOrdered_inTime events)]
    exact exists_netOf (net_of_mem_coalesce hc)

/-- One document is made, removed and written under two spellings, and another one
is made. -/
def reported : List Event :=
  [⟨⟨"a.dec"⟩, .deleted, 3⟩, ⟨⟨"b.dec"⟩, .created, 3⟩, ⟨⟨"a.dec/"⟩, .modified, 3⟩,
    ⟨⟨"a.dec"⟩, .created, 1⟩]

/-- The same events as they might have come just as well. -/
def reportedOtherwise : List Event :=
  [⟨⟨"a.dec"⟩, .created, 1⟩, ⟨⟨"a.dec"⟩, .deleted, 3⟩, ⟨⟨"a.dec/"⟩, .modified, 3⟩,
    ⟨⟨"b.dec"⟩, .created, 3⟩]

theorem coalesce_exact_reported :
    Rearranged reported reportedOtherwise
      ∧ coalesce reportedOtherwise = coalesce reported
      ∧ (coalesce reported).countP (fun c => c.path.same ⟨"a.dec"⟩) = 1 := by
  obtain ⟨hone, -, -, -, hsame⟩ := coalesce_exact reported
  have hrearranged : Rearranged reported reportedOtherwise := by
    intro k t
    have hspelled : (⟨"a.dec/"⟩ : Path).key = (⟨"a.dec"⟩ : Path).key := by decide
    have hother : (⟨"b.dec"⟩ : Path).key ≠ (⟨"a.dec"⟩ : Path).key := by decide
    simp only [reported, reportedOtherwise, List.filter_cons, List.filter_nil, concerns, hspelled]
    by_cases ha : (⟨"a.dec"⟩ : Path).key = k
    · subst ha
      simp only [hother, decide_true, decide_false, if_true, if_false, Bool.false_eq_true,
        List.filter_cons, List.filter_nil, atTime]
      by_cases ht : t = 1
      · subst ht
        rfl
      · have ht' : ¬ 1 = t := fun h => ht h.symm
        simp only [ht', decide_false, if_false, Bool.false_eq_true]
        rfl
    · simp only [ha, decide_false, if_false, Bool.false_eq_true]
      rfl
  exact ⟨hrearranged, hsame _ hrearranged, hone ⟨⟨"a.dec"⟩, .deleted, 3⟩ (by simp [reported])⟩

end Event

end PcdCatalog

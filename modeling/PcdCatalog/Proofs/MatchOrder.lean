import PcdCatalog.Proofs.LineLaws
import PcdCatalog.Proofs.PatternLaws

/-!
# Matches go from left to right

Whatever a pattern does, it only goes on: every place where a match can end is
reached from where it starts by taking characters (`Cursor.Reaches`), and group
one was matched on the way there (`Hit.Leads`). Of each construct of a pattern
this says one thing, that its ends are led to by its start; the sets of places
that repetitions keep have no part in it, as they only leave places out.

The matches of a text inherit it. Each has boundaries of the text for its ends
and for those of its name, with the name inside (`Match.Placed`), and none
begins before the one in front of it ends. Both together are `InOrder`, which
holds for every pattern and every text (`inOrder_matches`).
-/

namespace PcdCatalog.Pattern

open Text (byteLength Boundary)

/-! ## Going on -/

namespace Cursor

/-- **One place is reached from another** by taking characters. -/
def Reaches (c d : Cursor) : Prop :=
  ∃ taken, c.ahead = taken ++ d.ahead ∧ d.offset = c.offset + byteLength taken

theorem Reaches.refl (c : Cursor) : c.Reaches c := ⟨[], rfl, rfl⟩

theorem Reaches.trans {c d e : Cursor} (hcd : c.Reaches d) (hde : d.Reaches e) : c.Reaches e := by
  obtain ⟨first, hc, hd⟩ := hcd
  obtain ⟨second, hd', he⟩ := hde
  refine ⟨first ++ second, ?_, ?_⟩
  · rw [hc, hd', List.append_assoc]
  · rw [he, hd, Text.byteLength_append, Nat.add_assoc]

theorem Reaches.offset_le {c d : Cursor} (h : c.Reaches d) : c.offset ≤ d.offset := by
  obtain ⟨taken, -, hd⟩ := h
  rw [hd]
  exact Nat.le_add_right _ _

theorem reaches_of_ahead {c : Cursor} {x : Char} {rest : List Char} (h : c.ahead = x :: rest)
    (behind : Option Char) : c.Reaches ⟨behind, rest, c.offset + x.utf8Size⟩ :=
  ⟨[x], h, rfl⟩

theorem reaches_of_next? {c d : Cursor} {x : Char} (h : c.next? = some (x, d)) : c.Reaches d := by
  unfold next? at h
  split at h
  next => exact absurd h (by simp)
  next y rest hahead =>
    obtain ⟨-, rfl⟩ := Prod.mk.inj (Option.some.inj h)
    exact reaches_of_ahead hahead _

/-- What is reached from the start of a text is a boundary of it. -/
theorem Reaches.boundary {text : List Char} {c : Cursor} (h : (start text).Reaches c) :
    Boundary text c.offset := by
  obtain ⟨taken, htext, hoffset⟩ := h
  exact ⟨taken, c.ahead, htext, by rw [hoffset]; exact (Nat.zero_add _).symm⟩

end Cursor

/-- **A hit leads to another** that is reached from it, with the name that it has
already or with one that was matched on the way. -/
def Hit.Leads (h e : Hit) : Prop :=
  h.cursor.Reaches e.cursor
    ∧ (e.name = h.name
      ∨ ∃ c d : Cursor, e.name = some (c.offset, d.offset)
        ∧ h.cursor.Reaches c ∧ c.Reaches d ∧ d.Reaches e.cursor)

theorem Hit.Leads.refl (h : Hit) : h.Leads h := ⟨.refl _, .inl rfl⟩

theorem Hit.Leads.trans {h e f : Hit} (he : h.Leads e) (hf : e.Leads f) : h.Leads f := by
  obtain ⟨hreach, hname⟩ := he
  obtain ⟨hreach', hname'⟩ := hf
  refine ⟨hreach.trans hreach', ?_⟩
  rcases hname' with hkept | ⟨c, d, hset, hc, hcd, hd⟩
  · rcases hname with hkept' | ⟨c, d, hset, hc, hcd, hd⟩
    · exact .inl (hkept.trans hkept')
    · exact .inr ⟨c, d, hkept.trans hset, hc, hcd, hd.trans hreach'⟩
  · exact .inr ⟨c, d, hset, hreach.trans hc, hcd, hd⟩

/-! ## Repetition

A property that every round of a body keeps is kept by all repetitions of it. -/

theorem onceFrom_sublist (seen : Nat) (hits : List Hit) : (onceFrom seen hits).Sublist hits := by
  induction hits generalizing seen with
  | nil => exact .slnil
  | cons h rest ih =>
    rw [onceFrom]
    split
    · exact (ih _).cons h
    · exact (ih _).cons_cons h

theorem mem_of_mem_once {hits : List Hit} {e : Hit} (h : e ∈ once hits) : e ∈ hits :=
  (onceFrom_sublist 0 hits).subset h

section Rounds

variable {P : Hit → Prop} {body : Hit → List Hit} (hbody : ∀ h, P h → ∀ e ∈ body h, P e)

include hbody

theorem forall_mem_visit (greedy : Bool) (fuel : Nat) {h : Hit} (hh : P h) {acc : List Hit × Nat}
    (hacc : ∀ e ∈ acc.1, P e) : ∀ e ∈ (visit body greedy fuel h acc).1, P e := by
  induction fuel generalizing h acc with
  | zero => exact hacc
  | succ fuel ih =>
    obtain ⟨out, seen⟩ := acc
    -- the rounds that go on from here start at what the body makes of a hit with the property
    have honward : ∀ acc : List Hit × Nat, (∀ e ∈ acc.1, P e) →
        ∀ e ∈ (((body h).filter fun e => e.cursor.left < h.cursor.left).foldl
          (fun acc e => visit body greedy fuel e acc) acc).1, P e := by
      intro acc hacc
      refine List.foldlRecOn (motive := fun acc : List Hit × Nat => ∀ e ∈ acc.1, P e) _ _ hacc ?_
      intro acc hacc e he
      exact ih (hbody h hh e (List.mem_filter.1 he).1) hacc
    rw [visit]
    split
    · exact hacc
    · split
      · exact List.forall_mem_cons.2 ⟨hh, honward _ hacc⟩
      · exact honward _ (List.forall_mem_cons.2 ⟨hh, hacc⟩)

theorem forall_mem_star (greedy : Bool) {h : Hit} (hh : P h) : ∀ e ∈ star body greedy h, P e :=
  fun e he => forall_mem_visit hbody greedy _ hh (by simp) e (List.mem_reverse.1 he)

theorem forall_mem_plus (greedy : Bool) {h : Hit} (hh : P h) : ∀ e ∈ plus body greedy h, P e := by
  intro e he
  refine List.foldlRecOn (motive := fun acc : List Hit × Nat => ∀ e ∈ acc.1, P e) _ _ (by simp) ?_
    e (List.mem_reverse.1 he)
  intro acc hacc e he
  have hround : P e := hbody h hh e he
  split
  · split
    · exact hacc
    · exact List.forall_mem_cons.2 ⟨hround, hacc⟩
  · exact forall_mem_visit hbody greedy _ hround hacc

theorem forall_mem_times (n : Nat) {hits : List Hit} (hhits : ∀ h ∈ hits, P h) :
    ∀ e ∈ times body n hits, P e := by
  induction n generalizing hits with
  | zero => exact hhits
  | succ n ih =>
    refine ih fun e he => ?_
    obtain ⟨h, hh, he⟩ := List.mem_flatMap.1 (mem_of_mem_once he)
    exact hbody h (hhits h hh) e he

theorem forall_mem_upTo (greedy : Bool) (n : Nat) {h : Hit} (hh : P h) :
    ∀ e ∈ upTo body greedy n h, P e := by
  induction n generalizing h with
  | zero => exact List.forall_mem_singleton.2 hh
  | succ n ih =>
    have hmore : ∀ e ∈ once ((body h).flatMap (upTo body greedy n)), P e := by
      intro e he
      obtain ⟨f, hf, he⟩ := List.mem_flatMap.1 (mem_of_mem_once he)
      exact ih (hbody h hh f hf) e he
    intro e he
    have hmem := mem_of_mem_once he
    split at hmem
    · rcases List.mem_append.1 hmem with he | he
      · exact hmore e he
      · exact List.mem_singleton.1 he ▸ hh
    · exact List.forall_mem_cons.2 ⟨hh, hmore⟩ e hmem

theorem forall_mem_repEnds (takesSome : Bool) (least : Nat) (most : Option Nat) (greedy : Bool)
    {h : Hit} (hh : P h) : ∀ e ∈ repEnds body takesSome least most greedy h, P e := by
  have htimes : ∀ n, ∀ f ∈ times body n [h], P f :=
    fun n => forall_mem_times hbody n (List.forall_mem_singleton.2 hh)
  have hplus := forall_mem_plus hbody greedy hh
  intro e he
  unfold repEnds at he
  split at he
  · obtain ⟨f, hf, he⟩ := List.mem_flatMap.1 (mem_of_mem_once he)
    exact forall_mem_upTo hbody greedy _ (htimes _ f hf) e he
  · split at he
    · split at he
      · exact forall_mem_star hbody greedy hh e he
      · split at he
        · rcases List.mem_append.1 (mem_of_mem_once he) with he | he
          · exact hplus e he
          · exact List.mem_singleton.1 he ▸ hh
        · exact List.forall_mem_cons.2 ⟨hh, hplus⟩ e (mem_of_mem_once he)
    · obtain ⟨f, hf, he⟩ := List.mem_flatMap.1 (mem_of_mem_once he)
      exact forall_mem_plus hbody greedy (htimes _ f hf) e he

end Rounds

/-! ## Patterns -/

/-- The places of a run are reached from its start. -/
theorem reaches_of_mem_runOf {s : CharSet} {most : Option Nat} {behind : Option Char}
    {ahead : List Char} {offset : Nat} {d : Cursor} (h : d ∈ runOf s most behind ahead offset) :
    (⟨behind, ahead, offset⟩ : Cursor).Reaches d := by
  induction ahead generalizing most behind offset with
  | nil => exact absurd h (by simp [runOf])
  | cons x rest ih =>
    have hstep : (⟨behind, x :: rest, offset⟩ : Cursor).Reaches
        ⟨some x, rest, offset + x.utf8Size⟩ := Cursor.reaches_of_ahead rfl _
    rw [runOf] at h
    split at h
    · exact absurd h List.not_mem_nil
    · rcases List.mem_cons.1 h with rfl | h
      · exact hstep
      · exact hstep.trans (ih h)

theorem leads_of_mem_runEnds {s : CharSet} {least : Nat} {most : Option Nat} {greedy : Bool}
    {h e : Hit} (he : e ∈ runEnds s least most greedy h) : h.Leads e := by
  have hmem : e ∈ ((h.cursor :: runOf s most h.cursor.behind h.cursor.ahead h.cursor.offset).drop
      least).map fun c => { h with cursor := c } := by
    unfold runEnds at he
    split at he
    · exact List.mem_reverse.1 he
    · exact he
  obtain ⟨c, hc, rfl⟩ := List.mem_map.1 hmem
  refine ⟨?_, .inl rfl⟩
  rcases List.mem_cons.1 (List.mem_of_mem_drop hc) with rfl | hc
  · exact .refl _
  · exact reaches_of_mem_runOf hc

/-- A repetition of anything but one set goes round by round. -/
theorem Node.ends_rep (n : Node) (least : Nat) (most : Option Nat) (greedy : Bool) (h : Hit) :
    (∃ s, n = .one s ∧ (Node.rep least most greedy n).ends h = runEnds s least most greedy h)
      ∨ (Node.rep least most greedy n).ends h
        = repEnds n.ends n.takesSome least most greedy h := by
  cases n with
  | one s => exact .inl ⟨s, rfl, by rw [Node.ends]⟩
  | _ => exact .inr rfl

/-- **Every end of a pattern is led to by its start.** -/
theorem Node.leads_of_mem_ends (n : Node) {h e : Hit} (he : e ∈ n.ends h) : h.Leads e := by
  induction n generalizing h e with
  | empty =>
    rw [Node.ends] at he
    exact List.mem_singleton.1 he ▸ .refl h
  | look test =>
    rw [Node.ends] at he
    split at he
    · exact List.mem_singleton.1 he ▸ .refl h
    · exact absurd he List.not_mem_nil
  | one s =>
    rw [Node.ends] at he
    split at he
    · exact absurd he List.not_mem_nil
    next x c hnext =>
      split at he
      · obtain rfl := List.mem_singleton.1 he
        exact ⟨Cursor.reaches_of_next? hnext, .inl rfl⟩
      · exact absurd he List.not_mem_nil
  | seq a b iha ihb =>
    rw [Node.ends] at he
    obtain ⟨f, hf, he⟩ := List.mem_flatMap.1 (mem_of_mem_once he)
    exact (iha hf).trans (ihb he)
  | alt a b iha ihb =>
    rw [Node.ends] at he
    rcases List.mem_append.1 (mem_of_mem_once he) with he | he
    · exact iha he
    · exact ihb he
  | group i n ih =>
    rw [Node.ends] at he
    split at he
    · obtain ⟨f, hf, rfl⟩ := List.mem_map.1 he
      have hreach : h.cursor.Reaches f.cursor := (ih hf).1
      exact ⟨hreach, .inr ⟨h.cursor, f.cursor, rfl, .refl _, hreach, .refl _⟩⟩
    · exact ih he
  | rep least most greedy n ih =>
    rcases n.ends_rep least most greedy h with ⟨s, -, hends⟩ | hends
    · exact leads_of_mem_runEnds (hends ▸ he)
    · rw [hends] at he
      exact forall_mem_repEnds (fun f hf e he => hf.trans (ih he)) n.takesSome least most greedy
        (.refl h) e he

/-! ## Matches -/

/-- A match that is found from a place on, and the place where it ends. -/
def Match.FoundFrom (c : Cursor) (m : Match) (e : Cursor) : Prop :=
  ∃ s : Cursor, c.Reaches s ∧ s.offset = m.start ∧ e.offset = m.stop
    ∧ Hit.Leads ⟨s, none⟩ ⟨e, m.name⟩

theorem Match.FoundFrom.mono {c d e : Cursor} {m : Match} (h : m.FoundFrom d e)
    (hcd : c.Reaches d) : m.FoundFrom c e := by
  obtain ⟨s, hs, hrest⟩ := h
  exact ⟨s, hcd.trans hs, hrest⟩

theorem Match.FoundFrom.reaches {c e : Cursor} {m : Match} (h : m.FoundFrom c e) : c.Reaches e := by
  obtain ⟨s, hs, -, -, hleads⟩ := h
  exact hs.trans hleads.1

theorem Match.FoundFrom.offset_le {c e : Cursor} {m : Match} (h : m.FoundFrom c e) :
    c.offset ≤ m.start := by
  obtain ⟨s, hs, hstart, -⟩ := h
  exact hstart ▸ hs.offset_le

theorem Node.foundFrom_of_matchAt {n : Node} {c e : Cursor} {m : Match}
    (h : n.matchAt c = some (m, e)) : m.FoundFrom c e := by
  obtain ⟨f, hf, heq⟩ := Option.map_eq_some_iff.1 h
  obtain ⟨rfl, rfl⟩ := Prod.mk.inj heq
  exact ⟨c, .refl c, rfl, rfl, n.leads_of_mem_ends (List.mem_of_head? hf)⟩

/-- A search goes on from place to place, so what it finds lies behind its
start. -/
theorem Node.foundFrom_of_searchFrom {n : Node} {behind : Option Char} {offset : Nat}
    {ahead : List Char} {m : Match} {e : Cursor}
    (h : n.searchFrom behind offset ahead = some (m, e)) :
    m.FoundFrom ⟨behind, ahead, offset⟩ e := by
  induction ahead generalizing behind offset with
  | nil => exact foundFrom_of_matchAt h
  | cons x rest ih =>
    rcases Option.or_eq_some_iff.1 h with hat | ⟨-, hlater⟩
    · exact foundFrom_of_matchAt hat
    · exact (ih hlater).mono (Cursor.reaches_of_ahead rfl _)

theorem Node.foundFrom_of_searchAfter {n : Node} {last : Option Nat} {c e : Cursor} {m : Match}
    (h : n.searchAfter last c = some (m, e)) : m.FoundFrom c e := by
  unfold searchAfter at h
  split at h
  next => exact absurd h (by simp)
  next m' e' hfirst =>
    split at h
    · split at h
      next => exact absurd h (by simp)
      next x c' hnext => exact (foundFrom_of_searchFrom h).mono (Cursor.reaches_of_next? hnext)
    · obtain ⟨rfl, rfl⟩ := Prod.mk.inj (Option.some.inj h)
      exact foundFrom_of_searchFrom hfirst

/-- **A match in its place**: its ends are boundaries of the text and in order,
and those of its name lie between them. -/
structure Match.Placed (text : List Char) (m : Match) : Prop where
  start : Boundary text m.start
  stop : Boundary text m.stop
  le : m.start ≤ m.stop
  name : ∀ a b, m.name = some (a, b) →
    Boundary text a ∧ Boundary text b ∧ m.start ≤ a ∧ a ≤ b ∧ b ≤ m.stop

theorem Match.FoundFrom.placed {text : List Char} {c e : Cursor} {m : Match}
    (h : m.FoundFrom c e) (hc : (Cursor.start text).Reaches c) : m.Placed text := by
  obtain ⟨s, hs, hstart, hstop, hreach, hname⟩ := h
  have hfrom : (Cursor.start text).Reaches s := hc.trans hs
  refine ⟨hstart ▸ hfrom.boundary, hstop ▸ (hfrom.trans hreach).boundary,
    hstart ▸ hstop ▸ hreach.offset_le, fun a b hab => ?_⟩
  rcases hname with hnone | ⟨p, q, hset, hp, hpq, hq⟩
  · exact absurd (hab.symm.trans hnone) (by simp)
  · obtain ⟨rfl, rfl⟩ := Prod.mk.inj (Option.some.inj (hab.symm.trans hset))
    exact ⟨(hfrom.trans hp).boundary, (hfrom.trans (hp.trans hpq)).boundary,
      hstart ▸ hp.offset_le, hpq.offset_le, hstop ▸ hq.offset_le⟩

/-- **Matches from left to right**: each in its place, and none begins before the
one in front of it ends. -/
structure InOrder (text : List Char) (ms : List Match) : Prop where
  placed : ∀ m ∈ ms, m.Placed text
  apart : ms.Pairwise fun a b => a.stop ≤ b.start

/-- The matches from a place on are in order and none begins before that place. -/
theorem Node.inOrder_matchesFrom (n : Node) {text : List Char} (fuel : Nat) (last : Option Nat)
    {c : Cursor} (hc : (Cursor.start text).Reaches c) :
    InOrder text (n.matchesFrom fuel last c)
      ∧ ∀ m ∈ n.matchesFrom fuel last c, c.offset ≤ m.start := by
  induction fuel generalizing last c with
  | zero => exact ⟨⟨by simp [matchesFrom], .nil⟩, by simp [matchesFrom]⟩
  | succ fuel ih =>
    rw [matchesFrom]
    split
    next => exact ⟨⟨by simp, .nil⟩, by simp⟩
    next m e hnext =>
      have hfound : m.FoundFrom c e := foundFrom_of_searchAfter hnext
      obtain ⟨hrest, hbehind⟩ := ih (some m.stop) (hc.trans hfound.reaches)
      have hstop : e.offset = m.stop := by
        obtain ⟨s, -, -, hstop, -⟩ := hfound
        exact hstop
      refine ⟨⟨List.forall_mem_cons.2 ⟨hfound.placed hc, hrest.placed⟩,
        List.pairwise_cons.2 ⟨fun m' hm' => hstop ▸ hbehind m' hm', hrest.apart⟩⟩,
        List.forall_mem_cons.2 ⟨hfound.offset_le, fun m' hm' => ?_⟩⟩
      exact hfound.reaches.offset_le.trans (hbehind m' hm')

/-- **The matches of every pattern are in order.** -/
theorem Node.inOrder_matches (n : Node) (text : List Char) : InOrder text (n.matches text) :=
  (n.inOrder_matchesFrom _ none (.refl _)).1

end PcdCatalog.Pattern

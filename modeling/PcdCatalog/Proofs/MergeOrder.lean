import PcdCatalog.Proofs.Accounting
import PcdCatalog.Proofs.SpanOrder

/-!
# The order in which a merge goes through its declarations

Declarations come in a table, and nothing says in which order a table is gone
through. A merge does three things with each declaration – it places it, it counts
it, and it may note a handover and forget another one for it – and only the last of
these can show the order.

It cannot show in what is placed or counted, because no symbol comes twice. For the
same reason a declaration finds what was there before the merge, so the handovers
of a merge are those of its declarations, one by one, in whatever order they come
(`Index.handovers_mergeList`). What is left is a number of notes. How long the log
gets depends on their number alone (`Index.length_foldl_note`), and as long as they
all fit, only older handovers are forgotten, again by their number
(`Index.foldl_note`). Past the limit the merge forgets handovers of its own, and
then which of them stay is a matter of order.
-/

namespace PcdCatalog

namespace Index

/-! ## Several notes -/

theorem length_note (limit : Nat) (log : List Handover) (h : Handover) :
    (note limit log h).length
      = if limit = 0 ∨ log.length = limit then log.length else log.length + 1 := by
  unfold note
  by_cases hzero : limit = 0
  · rw [if_pos hzero, if_pos (.inl hzero)]
  · rw [if_neg hzero]
    by_cases hfull : log.length = limit
    · rw [if_pos hfull, if_pos (.inr hfull), List.length_append, List.length_drop,
        List.length_singleton]
      omega
    · rw [if_neg hfull, if_neg (not_or.2 ⟨hzero, hfull⟩), List.length_append,
        List.length_singleton]

/-- **How long a log gets does not depend on what is noted.** -/
theorem length_foldl_note (limit : Nat) {new new' : List Handover}
    (hnew : new.length = new'.length) {log log' : List Handover}
    (hlog : log.length = log'.length) :
    (new.foldl (note limit) log).length = (new'.foldl (note limit) log').length := by
  induction new generalizing new' log log' with
  | nil =>
    obtain rfl := List.eq_nil_of_length_eq_zero hnew.symm
    exact hlog
  | cons h new ih =>
    cases new' with
    | nil => exact absurd hnew (Nat.succ_ne_zero _)
    | cons h' new' =>
      refine ih (Nat.succ.inj hnew) ?_
      rw [length_note, length_note, hlog]

/-- **What is left of a log when `n` more are noted.** A log within its limit makes
room for them; a longer one is not cut any more. -/
def keptFor (limit n : Nat) (log : List Handover) : List Handover :=
  if log.length ≤ limit then log.drop (log.length + n - limit) else log

theorem keptFor_suffix (limit n : Nat) (log : List Handover) : keptFor limit n log <:+ log := by
  unfold keptFor
  split
  · exact List.drop_suffix _ _
  · exact List.suffix_rfl

theorem length_keptFor {limit : Nat} (n : Nat) {log : List Handover} (h : log.length ≤ limit) :
    (keptFor limit n log).length = min log.length (limit - n) := by
  unfold keptFor
  rw [if_pos h, List.length_drop]
  omega

/-- Room for one more is made at the front of what is left. -/
theorem note_keptFor {limit : Nat} {log new : List Handover} (hroom : new.length < limit)
    (h : Handover) :
    note limit (keptFor limit new.length log ++ new) h
      = keptFor limit (new.length + 1) log ++ new ++ [h] := by
  unfold note keptFor
  rw [if_neg (by omega), List.length_append]
  by_cases hlog : log.length ≤ limit
  · rw [if_pos hlog, if_pos hlog, List.length_drop]
    by_cases hfull : limit ≤ log.length + new.length
    · have hfirst : 1 ≤ (log.drop (log.length + new.length - limit)).length := by
        rw [List.length_drop]
        omega
      have hnext : log.length + new.length - limit + 1 = log.length + (new.length + 1) - limit := by
        omega
      rw [if_pos (by omega), List.drop_append_of_le_length hfirst, List.drop_drop, hnext]
    · have hnone : log.length + new.length - limit = log.length + (new.length + 1) - limit := by
        omega
      rw [if_neg (by omega), hnone]
  · rw [if_neg hlog, if_neg hlog, if_neg (by omega)]

/-- **Notes that all fit stand behind what is left of the log.** -/
theorem foldl_note {limit : Nat} {new : List Handover} (hroom : new.length ≤ limit)
    (log : List Handover) :
    new.foldl (note limit) log = keptFor limit new.length log ++ new := by
  induction new using List.reverseRecOn with
  | nil =>
    show log = keptFor limit 0 log ++ []
    unfold keptFor
    rw [List.append_nil]
    split
    next hlog => rw [Nat.add_zero, Nat.sub_eq_zero_of_le hlog, List.drop_zero]
    next => rfl
  | append_singleton new h ih =>
    rw [List.length_append, List.length_singleton] at hroom ⊢
    rw [List.foldl_concat, ih (by omega), note_keptFor hroom, List.append_assoc]

/-! ## The handovers of a merge -/

/-- The handovers of declarations that are placed in a certain order. -/
def handoversIn (i : Index) (doc : Path) (l : List (String × Span)) : List Handover :=
  l.filterMap fun e => i.handover? doc e.1 e.2

/-- Whether a merge of `doc` takes a symbol from another document. -/
def takes (i : Index) (doc : Path) (s : String) : Bool :=
  (i.get? s).any fun previous => !ownedBy doc previous

theorem handover?_eq_some_iff {i : Index} {doc : Path} {s : String} {span : Span} {h : Handover} :
    i.handover? doc s span = some h
      ↔ h.symbol = s ∧ h.replacement = span ∧ i.get? s = some h.previous
        ∧ ownedBy doc h.previous = false := by
  obtain ⟨symbol, previous, replacement⟩ := h
  unfold handover? get? ownedBy
  cases i.table.get? s with
  | none => simp
  | some found =>
    by_cases hsame : found.document.same doc = true
    · simp only [hsame, if_true, reduceCtorEq, false_iff]
      rintro ⟨-, -, hfound, hother⟩
      rw [← Option.some.inj hfound, hsame] at hother
      exact absurd hother Bool.noConfusion
    · simp only [hsame, if_false, Bool.false_eq_true, Option.some.injEq, Handover.mk.injEq]
      constructor
      · rintro ⟨rfl, rfl, rfl⟩
        exact ⟨rfl, rfl, rfl, eq_false_of_ne_true hsame⟩
      · rintro ⟨rfl, rfl, rfl, -⟩
        exact ⟨rfl, rfl, rfl⟩

theorem isSome_handover? (i : Index) (doc : Path) (s : String) (span : Span) :
    (i.handover? doc s span).isSome = i.takes doc s := by
  unfold handover? takes get? ownedBy
  cases i.table.get? s with
  | none => rfl
  | some previous => cases hsame : previous.document.same doc <;> simp [hsame]

/-- Placing a symbol does not show in the handover of another one. -/
theorem handover?_put_of_ne (i : Index) (doc : Path) {s t : String} (h : t ≠ s)
    (span span' : Span) :
    (i.put doc s span).handover? doc t span' = i.handover? doc t span' := by
  have hget : (i.table.insert s span).get? t = i.table.get? t := by
    rw [Table.get?_insert, if_neg fun heq => h (Std.LawfulEqCmp.eq_of_compare heq)]
  unfold handover? put
  rw [hget]

/-- **Where no symbol comes twice, a merge notes the handovers of its declarations**
one by one, as the index before it gives them. -/
theorem handovers_foldl_placed_eq (doc : Path) {l : List (String × Span)}
    (hkeys : (l.map Prod.fst).Nodup) (acc : Index × MergeCounts) :
    (l.foldl (placed doc) acc).1.handovers
      = (acc.1.handoversIn doc l).foldl (note acc.1.limit) acc.1.handovers := by
  induction l generalizing acc with
  | nil => rfl
  | cons e l ih =>
    obtain ⟨he, hl⟩ := List.nodup_cons.1 hkeys
    have hlater : (placed doc acc e).1.handoversIn doc l = acc.1.handoversIn doc l := by
      refine List.filterMap_congr fun e' he' => acc.1.handover?_put_of_ne doc ?_ e.2 e'.2
      rintro heq
      exact he (heq ▸ List.mem_map_of_mem he')
    rw [List.foldl_cons, ih hl, hlater, handovers_placed]
    unfold handoversIn
    rw [List.filterMap_cons]
    cases acc.1.handover? doc e.1 e.2 <;> rfl

variable (i : Index) (doc : Path) {found : Declarations} {l l' : List (String × Span)}

theorem handovers_mergeList (hl : l.Perm found.toList) :
    (i.mergeList doc l).1.handovers
      = (i.handoversIn doc l).foldl (note i.limit) i.handovers :=
  handovers_foldl_placed_eq doc ((hl.map Prod.fst).nodup_iff.2 found.nodup_keys) (i, ⟨0, 0⟩)

/-- Handed over are the symbols that are taken from another document, in the order
in which they are placed. -/
theorem map_symbol_handoversIn (l : List (String × Span)) :
    (i.handoversIn doc l).map Handover.symbol = (l.map Prod.fst).filter (i.takes doc) := by
  induction l with
  | nil => rfl
  | cons e l ih =>
    unfold handoversIn at ih ⊢
    rw [List.filterMap_cons, List.map_cons, List.filter_cons, ← isSome_handover? i doc e.1 e.2]
    cases hh : i.handover? doc e.1 e.2 with
    | none => exact ih
    | some h =>
      show h.symbol :: _ = e.1 :: _
      rw [(handover?_eq_some_iff.1 hh).1, ih]

theorem length_handoversIn (hl : l.Perm found.toList) :
    (i.handoversIn doc l).length = found.keys.countP (i.takes doc) := by
  have hsymbols := congrArg List.length (i.map_symbol_handoversIn doc l)
  rw [List.length_map, ← List.countP_eq_length_filter] at hsymbols
  exact hsymbols.trans ((hl.map Prod.fst).countP_eq _)

/-- No symbol is handed over twice. -/
theorem nodup_symbol_handoversIn (hl : l.Perm found.toList) :
    ((i.handoversIn doc l).map Handover.symbol).Nodup := by
  rw [map_symbol_handoversIn]
  exact ((hl.map Prod.fst).nodup_iff.2 found.nodup_keys).filter _

theorem mem_handoversIn (hl : l.Perm found.toList) {h : Handover} :
    h ∈ i.handoversIn doc l
      ↔ found.get? h.symbol = some h.replacement ∧ i.get? h.symbol = some h.previous
        ∧ ownedBy doc h.previous = false := by
  unfold handoversIn
  rw [List.mem_filterMap, found.get?_eq_some_iff]
  constructor
  · rintro ⟨⟨s, span⟩, he, hh⟩
    obtain ⟨rfl, rfl, hprevious⟩ := handover?_eq_some_iff.1 hh
    exact ⟨hl.mem_iff.1 he, hprevious⟩
  · rintro ⟨he, hprevious⟩
    exact ⟨_, hl.mem_iff.2 he, handover?_eq_some_iff.2 ⟨rfl, rfl, hprevious⟩⟩

/-! ## Two orders -/

/-- **A merge does not depend on the order of its declarations**, as far as the limit
of the log allows. Whatever two orders the declarations of a document are gone
through in, the tables are the same – what is declared, in front of what was there –
and so are the counts of new and of replaced symbols; and the logs are of one length.
If the symbols that are taken from other documents are not more than the limit, both
logs begin with the same handovers from before – the latest ones, as many as there is
room for – and go on with the handovers of the merge, the same ones in both, in the
one order or in the other. -/
theorem mergeList_order_free (hl : l.Perm found.toList) (hl' : l'.Perm found.toList) :
    (i.mergeList doc l).1.table = (i.mergeList doc l').1.table
    ∧ (∀ s, (i.mergeList doc l).1.get? s = (found.get? s).or (i.get? s))
    ∧ (i.mergeList doc l).2 = (i.mergeList doc l').2
    ∧ (i.mergeList doc l).2.added = (found.keys.filter fun s => !i.contains s).length
    ∧ (i.mergeList doc l).2.added + (i.mergeList doc l).2.replaced = found.size
    ∧ (i.mergeList doc l).1.handovers.length = (i.mergeList doc l').1.handovers.length
    ∧ (found.keys.countP (i.takes doc) ≤ i.limit →
        ∃ kept new new', kept <:+ i.handovers
          ∧ (i.handovers.length ≤ i.limit →
              kept.length = min i.handovers.length (i.limit - found.keys.countP (i.takes doc)))
          ∧ (i.mergeList doc l).1.handovers = kept ++ new
          ∧ (i.mergeList doc l').1.handovers = kept ++ new'
          ∧ new.Perm new' ∧ (new.map Handover.symbol).Nodup
          ∧ ∀ h, h ∈ new ↔ found.get? h.symbol = some h.replacement
              ∧ i.get? h.symbol = some h.previous ∧ ownedBy doc h.previous = false) := by
  have hkeys : (l.map Prod.fst).Nodup := (hl.map Prod.fst).nodup_iff.2 found.nodup_keys
  have hlog := i.handovers_mergeList doc hl
  have hlog' := i.handovers_mergeList doc hl'
  have hlength := i.length_handoversIn doc hl
  have hlength' := i.length_handoversIn doc hl'
  refine ⟨i.table_mergeList_perm doc (hl.trans hl'.symm) hkeys, i.get?_mergeList doc hl,
    i.counts_mergeList_perm doc (hl.trans hl'.symm) hkeys, i.added_mergeList doc hl,
    i.counts_mergeList doc hl, ?_, fun hroom => ?_⟩
  · rw [hlog, hlog']
    exact length_foldl_note i.limit (hlength.trans hlength'.symm) rfl
  · rw [foldl_note (hlength.le.trans hroom), hlength] at hlog
    rw [foldl_note (hlength'.le.trans hroom), hlength'] at hlog'
    exact ⟨_, _, _, keptFor_suffix _ _ _, length_keptFor _, hlog, hlog',
      (hl.trans hl'.symm).filterMap _, i.nodup_symbol_handoversIn doc hl,
      fun h => i.mem_handoversIn doc hl⟩

/-- A declaration in a document of which nothing else matters. -/
def spanIn (doc : String) : Span := { (default : Span) with document := ⟨doc⟩ }

/-- Two symbols that were handed over once, with room for so many handovers. -/
def handedOn (limit : Nat) : Index :=
  let once := ((empty limit).merge ⟨"a.dec"⟩
    (.ofList [("PcdA", spanIn "a.dec"), ("PcdB", spanIn "a.dec")])).1
  (once.merge ⟨"b.dec"⟩ (.ofList [("PcdA", spanIn "b.dec"), ("PcdB", spanIn "b.dec")])).1

/-- Both symbols once more, and a new one. -/
def taken : Declarations :=
  .ofList [("PcdA", spanIn "c.dec"), ("PcdB", spanIn "c.dec"), ("PcdC", spanIn "c.dec")]

/-- Room for three: one handover from before is forgotten, and the other one stays.
With room for one only, the order shows. -/
theorem mergeList_order_free_backwards :
    taken.toList.reverse.Perm taken.toList
      ∧ taken.keys.countP ((handedOn 3).takes ⟨"c.dec"⟩) = 2
      ∧ ((handedOn 3).mergeList ⟨"c.dec"⟩ taken.toList).1.table
        = ((handedOn 3).mergeList ⟨"c.dec"⟩ taken.toList.reverse).1.table
      ∧ ((handedOn 3).mergeList ⟨"c.dec"⟩ taken.toList).2
        = ((handedOn 3).mergeList ⟨"c.dec"⟩ taken.toList.reverse).2
      ∧ ∃ kept new new', kept.length = 1 ∧ kept <:+ (handedOn 3).handovers
          ∧ ((handedOn 3).mergeList ⟨"c.dec"⟩ taken.toList).1.handovers = kept ++ new
          ∧ ((handedOn 3).mergeList ⟨"c.dec"⟩ taken.toList.reverse).1.handovers = kept ++ new'
          ∧ new.Perm new'
          ∧ ((handedOn 1).mergeList ⟨"c.dec"⟩ taken.toList).1.handovers
            ≠ ((handedOn 1).mergeList ⟨"c.dec"⟩ taken.toList.reverse).1.handovers := by
  have hperm : taken.toList.reverse.Perm taken.toList := List.reverse_perm _
  have hcount : taken.keys.countP ((handedOn 3).takes ⟨"c.dec"⟩) = 2 := by decide +kernel
  have hbounded : (handedOn 3).handovers.length = 2 := by decide +kernel
  obtain ⟨htable, -, hcounts, -, -, -, hlog⟩ :=
    mergeList_order_free (handedOn 3) ⟨"c.dec"⟩ (.refl taken.toList) hperm
  obtain ⟨kept, new, new', hkept, hlength, heq, heq', hnew, -⟩ := hlog (by rw [hcount]; decide)
  rw [hcount, hbounded] at hlength
  exact ⟨hperm, hcount, htable, hcounts, kept, new, new', hlength (by decide), hkept, heq, heq',
    hnew, by decide +kernel⟩

end Index

end PcdCatalog

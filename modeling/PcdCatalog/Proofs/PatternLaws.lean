import PcdCatalog.Pattern.Matching

/-!
# Laws of matching

The preferred match of a pattern is the head of the list of its ends, and the
head of a sequence can be found without listing anything twice: it is the head
of the second part at the first end of the first part where there is one
(`head?_ends_seq`). Keeping each place once does not change which end comes
first (`head?_once`), and changes nothing at all where the places differ
already (`once_eq_self`).

A greedy run of a set ends in many places, but where the pattern cannot go on
before a character of that set only the longest run counts
(`findSome?_runEnds_zero`, `findSome?_runEnds_one`). That is the case at every
run of a pattern whose next part starts outside the set, and what makes such
a pattern deterministic.
-/

namespace PcdCatalog.Pattern

/-! ## Cursors -/

namespace Cursor

/-- The cursor behind the next characters, which are `p`. -/
def skip (c : Cursor) : List Char → Cursor
  | [] => c
  | x :: p => skip ⟨some x, c.ahead.drop 1, c.offset + x.utf8Size⟩ p

@[simp] theorem skip_nil (c : Cursor) : c.skip [] = c := rfl

theorem skip_cons (c : Cursor) (x : Char) (p : List Char) :
    c.skip (x :: p) = (⟨some x, c.ahead.drop 1, c.offset + x.utf8Size⟩ : Cursor).skip p := rfl

theorem skip_append (c : Cursor) (p q : List Char) : c.skip (p ++ q) = (c.skip p).skip q := by
  induction p generalizing c with
  | nil => rfl
  | cons x p ih => exact ih _

@[simp] theorem skip_ahead (c : Cursor) (p : List Char) :
    (c.skip p).ahead = c.ahead.drop p.length := by
  induction p generalizing c with
  | nil => rfl
  | cons x p ih => rw [skip_cons, ih, List.drop_drop, List.length_cons, Nat.add_comm]

/-- Behind a run comes what the run leaves. -/
theorem skip_takeWhile_ahead (c : Cursor) (p : Char → Bool) :
    (c.skip (c.ahead.takeWhile p)).ahead = c.ahead.dropWhile p := by
  rw [skip_ahead]
  generalize c.ahead = l
  induction l with
  | nil => rfl
  | cons x rest ih =>
    rw [List.takeWhile_cons, List.dropWhile_cons]
    split
    · exact ih
    · rfl

@[simp] theorem skip_offset (c : Cursor) (p : List Char) :
    (c.skip p).offset = c.offset + Text.byteLength p := by
  induction p generalizing c with
  | nil => rfl
  | cons x p ih => rw [skip_cons, ih, Text.byteLength, Nat.add_assoc]

/-- The next character is in a set exactly when a run of the set starts
here. -/
theorem aheadIn_iff (c : Cursor) (s : CharSet) :
    c.aheadIn s = true ↔ c.ahead.takeWhile s.contains ≠ [] := by
  unfold aheadIn
  cases c.ahead with
  | nil => simp
  | cons x rest =>
    rw [List.takeWhile_cons]
    cases hx : s.contains x <;> simp [hx]

end Cursor

/-- The hit behind the next characters. -/
def Hit.skip (h : Hit) (p : List Char) : Hit := { h with cursor := h.cursor.skip p }

theorem Hit.skip_skip (h : Hit) (p q : List Char) : (h.skip p).skip q = h.skip (p ++ q) :=
  congrArg (Hit.mk · h.name) (h.cursor.skip_append p q).symm

/-! ## Places, each once -/

/-- **Keeping each place once keeps the first.** -/
@[simp] theorem head?_once (hits : List Hit) : (once hits).head? = hits.head? := by
  cases hits with
  | nil => rfl
  | cons h rest =>
    unfold once onceFrom
    rw [if_neg (by simp)]
    rfl

theorem onceFrom_eq_self {hits : List Hit} {seen : Nat}
    (hseen : ∀ h ∈ hits, seen.testBit h.cursor.left = false)
    (hdiff : hits.Pairwise (fun a b => a.cursor.left ≠ b.cursor.left)) :
    onceFrom seen hits = hits := by
  induction hits generalizing seen with
  | nil => rfl
  | cons h rest ih =>
    obtain ⟨hne, hrest⟩ := List.pairwise_cons.1 hdiff
    rw [onceFrom, if_neg (by rw [hseen h List.mem_cons_self]; simp)]
    refine congrArg (h :: ·) (ih (fun e he => ?_) hrest)
    rw [Nat.testBit_or, hseen e (List.mem_cons_of_mem h he), Nat.one_shiftLeft,
      Nat.testBit_two_pow]
    simpa using hne e he

/-- Places that differ already are all kept. -/
theorem once_eq_self {hits : List Hit}
    (h : hits.Pairwise (fun a b => a.cursor.left ≠ b.cursor.left)) : once hits = hits :=
  onceFrom_eq_self (fun _ _ => Nat.zero_testBit _) h

/-! ## Sequences -/

/-- **The best end of a sequence** is that of its second part, at the first end
of its first part that has one. -/
theorem head?_ends_seq (a b : Node) (h : Hit) :
    ((Node.seq a b).ends h).head? = (a.ends h).findSome? (fun e => (b.ends e).head?) := by
  rw [Node.ends, head?_once, List.head?_flatMap]

/-- A look ahead or behind ends where it starts, or nowhere. -/
theorem ends_look (test : Look) (h : Hit) :
    (Node.look test).ends h = if test.holds h.cursor then [h] else [] := by
  rw [Node.ends]

/-- A set of characters takes the next one, if it has it. -/
theorem ends_one (s : CharSet) (h : Hit) :
    (Node.one s).ends h
      = match h.cursor.ahead with
        | [] => []
        | x :: _ => if s.contains x then [h.skip [x]] else [] := by
  rw [Node.ends]
  unfold Cursor.next?
  cases hx : h.cursor.ahead with
  | nil => rfl
  | cons x rest =>
    have hskip : h.skip [x]
        = { h with cursor := ⟨some x, rest, h.cursor.offset + x.utf8Size⟩ } := by
      unfold Hit.skip
      rw [Cursor.skip_cons, hx]
      rfl
    show (if s.contains x then [_] else []) = if s.contains x then [h.skip [x]] else []
    rw [hskip]

/-- A sequence that starts with one character. -/
theorem ends_seq_one (s : CharSet) (n : Node) (h : Hit) :
    (Node.seq (.one s) n).ends h
      = match h.cursor.ahead with
        | [] => []
        | x :: _ => if s.contains x then once (n.ends (h.skip [x])) else [] := by
  rw [Node.ends, ends_one]
  cases h.cursor.ahead with
  | nil => rfl
  | cons x rest =>
    show once ((if s.contains x then [h.skip [x]] else []).flatMap n.ends)
      = if s.contains x then once (n.ends (h.skip [x])) else []
    split
    · rw [List.flatMap_singleton]
    · rfl

/-! ## Runs -/

/-- The places of a run come one after the other. -/
theorem runOf_cons (s : CharSet) (b : Option Char) (x : Char) (rest : List Char) (off : Nat) :
    runOf s none b (x :: rest) off
      = if s.contains x then
          ⟨some x, rest, off + x.utf8Size⟩ :: runOf s none (some x) rest (off + x.utf8Size)
        else [] := by
  rw [runOf]
  cases s.contains x <;> rfl

/-- Every place of a run has fewer characters to come, and they differ. -/
theorem runOf_left (s : CharSet) (b : Option Char) (ahead : List Char) (off : Nat) :
    (∀ c ∈ runOf s none b ahead off, c.left < ahead.length)
      ∧ (runOf s none b ahead off).Pairwise (fun c d => d.left < c.left) := by
  induction ahead generalizing b off with
  | nil => exact ⟨fun c hc => absurd hc List.not_mem_nil, List.Pairwise.nil⟩
  | cons x rest ih =>
    rw [runOf_cons]
    split
    · obtain ⟨hlt, hpw⟩ := ih (some x) (off + x.utf8Size)
      refine ⟨fun c hc => ?_, List.pairwise_cons.2 ⟨fun c hc => hlt c hc, hpw⟩⟩
      rcases List.mem_cons.1 hc with rfl | hc
      · exact Nat.lt_succ_self _
      · exact Nat.lt_succ_of_lt (hlt c hc)
    · exact ⟨fun c hc => absurd hc List.not_mem_nil, List.Pairwise.nil⟩

/-- **Of a greedy run only the longest counts**, if what follows cannot start
before a character of the set. -/
theorem findSome?_reverse_runOf {β : Type} (s : CharSet) (g : Cursor → Option β)
    (hg : ∀ c, c.aheadIn s = true → g c = none) (b : Option Char) (ahead : List Char) (off : Nat) :
    (runOf s none b ahead off).reverse.findSome? g
      = if ahead.takeWhile s.contains = [] then none
        else g ((⟨b, ahead, off⟩ : Cursor).skip (ahead.takeWhile s.contains)) := by
  induction ahead generalizing b off with
  | nil => rfl
  | cons x rest ih =>
    rw [runOf_cons]
    cases hx : s.contains x with
    | false =>
      rw [List.takeWhile_cons_of_neg (by rw [hx]; simp)]
      rfl
    | true =>
      rw [List.takeWhile_cons_of_pos hx, if_pos rfl, List.reverse_cons, List.findSome?_append, ih,
        List.findSome?_singleton, if_neg (List.cons_ne_nil _ _), Cursor.skip_cons]
      show _ = g ((⟨some x, rest, off + x.utf8Size⟩ : Cursor).skip (rest.takeWhile s.contains))
      by_cases hrest : rest.takeWhile s.contains = []
      · rw [if_pos hrest, hrest]
        rfl
      · have hahead := (Cursor.aheadIn_iff ⟨some x, rest, off + x.utf8Size⟩ s).2 hrest
        rw [if_neg hrest, hg _ hahead, Option.or_none]

theorem ends_rep_one (s : CharSet) (least : Nat) (h : Hit) :
    (Node.rep least none true (.one s)).ends h = runEnds s least none true h := by
  rw [Node.ends]

/-- The places of a run of at least one character differ. -/
theorem once_runEnds_one (s : CharSet) (h : Hit) :
    once (runEnds s 1 none true h) = runEnds s 1 none true h := by
  refine once_eq_self ?_
  unfold runEnds
  rw [if_pos rfl, List.pairwise_reverse, List.pairwise_map]
  exact (runOf_left s _ _ _).2.imp (fun hlt => Nat.ne_of_lt hlt)

/-- A greedy run of at least one character, before something that cannot start
with one. -/
theorem findSome?_runEnds_one {β : Type} (s : CharSet) (g : Hit → Option β)
    (hg : ∀ h, h.cursor.aheadIn s = true → g h = none) (h : Hit) :
    (runEnds s 1 none true h).findSome? g
      = if h.cursor.ahead.takeWhile s.contains = [] then none
        else g (h.skip (h.cursor.ahead.takeWhile s.contains)) := by
  unfold runEnds
  rw [if_pos rfl, ← List.map_reverse, List.findSome?_map]
  exact findSome?_reverse_runOf s (fun c => g { h with cursor := c })
    (fun c hc => hg { h with cursor := c } hc) h.cursor.behind h.cursor.ahead h.cursor.offset

/-- A greedy run of any length, before something that cannot start with a
character of the set. -/
theorem findSome?_runEnds_zero {β : Type} (s : CharSet) (g : Hit → Option β)
    (hg : ∀ h, h.cursor.aheadIn s = true → g h = none) (h : Hit) :
    (runEnds s 0 none true h).findSome? g
      = g (h.skip (h.cursor.ahead.takeWhile s.contains)) := by
  have hrun := findSome?_reverse_runOf s (fun c => g { h with cursor := c })
    (fun c hc => hg { h with cursor := c } hc) h.cursor.behind h.cursor.ahead h.cursor.offset
  unfold runEnds
  rw [if_pos rfl, List.drop_zero, List.map_cons, List.reverse_cons, List.findSome?_append,
    ← List.map_reverse, List.findSome?_map, List.findSome?_singleton]
  refine (congrArg (fun o => o.or (g h)) hrun).trans ?_
  by_cases hw : h.cursor.ahead.takeWhile s.contains = []
  · rw [if_pos hw, hw]
    rfl
  · rw [if_neg hw, hg h ((Cursor.aheadIn_iff h.cursor s).2 hw), Option.or_none]
    rfl

end PcdCatalog.Pattern

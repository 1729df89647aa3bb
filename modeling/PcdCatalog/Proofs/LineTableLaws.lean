import Mathlib.Tactic.SplitIfs
import PcdCatalog.Proofs.LineLaws
import PcdCatalog.Text.LineTable

/-!
# The table of line starts gives the positions

The look-ups in a table of line starts never go wrong, and answer what
`positionAt` and `offsetAt` say (`positionAt?_eq`, `offsetAt?_eq`).

Two things are behind this. Bytes tell characters apart: the first byte of a
character does not look like one that continues it, and all others do, so the
test on single bytes finds exactly the boundaries (`isBoundary_utf8`), and the
byte of a line feed is part of no other character. And around any line the table
splits (`exists_starts`): as many entries as there are line feeds before it,
then its start, then entries behind it. An offset on the line therefore passes
the entries up to its start and no others, which is what halving the table
needs, and the next entry is where the line feed of the line is.
-/

namespace PcdCatalog.Text

/-! ## The bytes of characters -/

theorem utf8_append (a b : List Char) : utf8 (a ++ b) = utf8 a ++ utf8 b := List.flatMap_append

theorem utf8_cons (c : Char) (s : List Char) : utf8 (c :: s) = String.utf8EncodeChar c ++ utf8 s :=
  List.flatMap_cons

theorem length_utf8 (s : List Char) : (utf8 s).length = byteLength s := by
  induction s with
  | nil => rfl
  | cons c s ih => rw [utf8_cons, List.length_append, String.length_utf8EncodeChar, ih, byteLength]

theorem continues_ofNat {n : Nat} (h : n < 256) :
    continues (UInt8.ofNat n) = decide (128 ≤ n ∧ n < 192) := by
  have hn : (UInt8.ofNat n).toNat = n := by
    rw [UInt8.toNat_ofNat', Nat.mod_eq_of_lt h]
  unfold continues
  rw [Bool.eq_iff_iff, Bool.and_eq_true, decide_eq_true_eq, decide_eq_true_eq, decide_eq_true_eq,
    UInt8.le_iff_toNat_le, UInt8.lt_iff_toNat_lt, hn]
  rfl

/-- **The bytes of a character**: one that starts it, and others that continue
it. -/
theorem exists_utf8EncodeChar (c : Char) :
    ∃ b bs, String.utf8EncodeChar c = b :: bs ∧ continues b = false
      ∧ ∀ b' ∈ bs, continues b' = true := by
  unfold String.utf8EncodeChar
  dsimp only
  have hrest : ∀ n : Nat, continues (UInt8.ofNat (n % 64 + 128)) = true := by
    intro n
    rw [continues_ofNat (by omega), decide_eq_true_eq]
    omega
  split_ifs
  all_goals
    refine ⟨_, _, rfl, ?_, ?_⟩
    · rw [continues_ofNat (by omega), decide_eq_false_iff_not]
      omega
    · simp only [List.forall_mem_cons, List.not_mem_nil, hrest]
      simp

/-- **An ASCII byte belongs to its own character only.** -/
theorem ascii_mem_utf8EncodeChar {a c : Char} (ha : a.val.toNat < 128) :
    UInt8.ofNat a.val.toNat ∈ String.utf8EncodeChar c ↔ c = a := by
  constructor
  · intro hmem
    by_contra hc
    have hne : c.val.toNat ≠ a.val.toNat := fun h => hc (Char.toNat_inj.1 h)
    have hbyte : ∀ {n : Nat}, n < 256 → n ≠ a.val.toNat →
        UInt8.ofNat a.val.toNat ≠ UInt8.ofNat n := by
      intro n hn hna heq
      have := congrArg UInt8.toNat heq
      rw [UInt8.toNat_ofNat', UInt8.toNat_ofNat', Nat.mod_eq_of_lt hn,
        Nat.mod_eq_of_lt (by omega)] at this
      exact hna this.symm
    unfold String.utf8EncodeChar at hmem
    dsimp only at hmem
    split_ifs at hmem
    all_goals
      simp only [List.mem_cons, List.not_mem_nil, or_false] at hmem
    · exact hbyte (by omega) hne hmem
    · rcases hmem with h | h
      all_goals exact hbyte (by omega) (by omega) h
    · rcases hmem with h | h | h
      all_goals exact hbyte (by omega) (by omega) h
    · rcases hmem with h | h | h | h
      all_goals exact hbyte (by omega) (by omega) h
  · rintro rfl
    rw [String.utf8EncodeChar_eq_singleton (Char.utf8Size_eq_one_iff.2 (UInt32.le_iff_toNat_le.2
      (Nat.le_of_lt_succ ha)))]
    exact List.mem_singleton.2 rfl

/-- The byte of a line feed belongs to line feeds only. -/
theorem lineFeed_mem_utf8EncodeChar {c : Char} : lineFeed ∈ String.utf8EncodeChar c ↔ c = '\n' :=
  ascii_mem_utf8EncodeChar (a := '\n') (by decide)

theorem count_lineFeed_utf8 (s : List Char) : (utf8 s).count lineFeed = s.count '\n' := by
  induction s with
  | nil => rfl
  | cons c s ih =>
    rw [utf8_cons, List.count_append, ih]
    by_cases hc : c = '\n'
    · subst hc
      rw [List.count_cons_self, Nat.add_comm]
      rfl
    · rw [List.count_eq_zero_of_not_mem (mt lineFeed_mem_utf8EncodeChar.1 hc), Nat.zero_add,
        List.count_cons_of_ne hc]

/-! ## Boundaries by their bytes -/

/-- A cut leaves the character out that its offset lies in. -/
theorem lt_of_dropBytes_cons {n : Nat} {s rest : List Char} {c : Char}
    (h : dropBytes n s = c :: rest) : n < byteLength (takeBytes n s) + c.utf8Size := by
  induction s generalizing n with
  | nil => exact absurd h (by simp [dropBytes])
  | cons d s ih =>
    rw [dropBytes] at h
    rw [takeBytes]
    split at h
    next hle =>
      have hrest := ih h
      rw [if_pos hle, byteLength]
      omega
    next hlt =>
      obtain ⟨rfl, -⟩ := List.cons.inj h
      rw [if_neg hlt, byteLength]
      omega

theorem isBoundary_iff {bytes : List UInt8} {o : Nat} :
    isBoundary bytes o = true
      ↔ o = 0 ∨ o = bytes.length ∨ ∃ b, bytes[o]? = some b ∧ continues b = false := by
  unfold isBoundary
  rw [Bool.or_eq_true, beq_iff_eq]
  refine or_congr_right ?_
  cases hb : bytes[o]? with
  | none => simp
  | some b =>
    have hlt : o < bytes.length := (List.getElem?_eq_some_iff.1 hb).1
    have hne : o ≠ bytes.length := Nat.ne_of_lt hlt
    simp [hne]

/-- The bytes of a character within those of a text. -/
theorem getElem?_utf8 (a : List Char) (c : Char) (b : List Char) {k : Nat} (hk : k < c.utf8Size) :
    (utf8 (a ++ c :: b))[byteLength a + k]? = (String.utf8EncodeChar c)[k]? := by
  rw [utf8_append, utf8_cons, ← length_utf8, List.getElem?_append_right (Nat.le_add_right _ _),
    Nat.add_sub_cancel_left, List.getElem?_append_left (by rwa [String.length_utf8EncodeChar])]

/-- **The test on bytes finds the boundaries.** -/
theorem isBoundary_utf8 {text : List Char} {o : Nat} :
    isBoundary (utf8 text) o = true ↔ Boundary text o := by
  rw [isBoundary_iff, length_utf8]
  constructor
  · intro h
    cases hrest : dropBytes o text with
    | nil =>
      have hall := takeBytes_append_dropBytes o text
      rw [hrest, List.append_nil] at hall
      have hle := byteLength_takeBytes_le o text
      rw [hall] at hle
      refine ⟨text, [], (List.append_nil text).symm, Nat.le_antisymm hle ?_⟩
      rcases h with rfl | rfl | ⟨b, hb, -⟩
      · exact Nat.zero_le _
      · exact Nat.le_refl _
      · have hlt := (List.getElem?_eq_some_iff.1 hb).1
        rw [length_utf8] at hlt
        exact Nat.le_of_lt hlt
    | cons c rest =>
      have hcut := takeBytes_append_dropBytes o text
      rw [hrest] at hcut
      obtain ⟨k, hk⟩ := Nat.exists_eq_add_of_le (byteLength_takeBytes_le o text)
      have hlt := lt_of_dropBytes_cons hrest
      have hbyte := getElem?_utf8 (takeBytes o text) c rest (k := k) (by omega)
      rw [hcut, ← hk] at hbyte
      -- a byte of the character that is not its first one continues it
      cases k with
      | zero => exact ⟨_, _, hcut.symm, hk.symm⟩
      | succ k =>
        obtain ⟨b, bs, hc, -, hbs⟩ := exists_utf8EncodeChar c
        rw [hc, List.getElem?_cons_succ] at hbyte
        rcases h with rfl | rfl | ⟨b', hb', hstart⟩
        · omega
        · have htotal := congrArg byteLength hcut
          rw [byteLength_append, byteLength] at htotal
          omega
        · rw [hbyte] at hb'
          exact absurd (hbs b' (List.mem_of_getElem? hb')) (by simp [hstart])
  · rintro ⟨a, b, rfl, rfl⟩
    cases b with
    | nil => exact .inr (.inl (by rw [List.append_nil]))
    | cons c b =>
      obtain ⟨first, bs, hc, hfirst, -⟩ := exists_utf8EncodeChar c
      have hbyte := getElem?_utf8 a c b (k := 0) c.utf8Size_pos
      rw [hc] at hbyte
      exact .inr (.inr ⟨first, hbyte, hfirst⟩)

/-- Going back from an offset stops at the last boundary up to it. -/
theorem exists_snapBack (bytes : List UInt8) (n : Nat) :
    ∃ b, snapBack bytes n = some b ∧ b ≤ n ∧ isBoundary bytes b = true
      ∧ ∀ k, isBoundary bytes k = true → k ≤ n → k ≤ b := by
  induction n with
  | zero =>
    have hzero : isBoundary bytes 0 = true := isBoundary_iff.2 (.inl rfl)
    exact ⟨0, by rw [snapBack, if_pos hzero], Nat.le_refl 0, hzero, fun k _ hk => hk⟩
  | succ n ih =>
    rw [snapBack]
    cases hn : isBoundary bytes (n + 1) with
    | true => exact ⟨n + 1, by simp, Nat.le_refl _, hn, fun k _ hk => hk⟩
    | false =>
      obtain ⟨b, hb, hle, hbound, hlast⟩ := ih
      refine ⟨b, by simpa using hb, Nat.le_succ_of_le hle, hbound, fun k hk hkn => ?_⟩
      have hne : k ≠ n + 1 := fun heq => absurd (heq ▸ hk) (by simp [hn])
      exact hlast k hk (by omega)

/-- **Going back byte by byte ends at the boundary that the offset moves back
to.** -/
theorem Snaps.snapBack_eq {text : List Char} {o b : Nat} (h : Snaps text o b) :
    snapBack (utf8 text) (min o (utf8 text).length) = some b := by
  obtain ⟨b', hb', hle, hbound, hlast⟩ :=
    exists_snapBack (utf8 text) (min o (utf8 text).length)
  rw [length_utf8] at hle hlast
  have hsnaps : Snaps text o b' :=
    ⟨⟨isBoundary_utf8.1 hbound, hle⟩, fun k hk => hlast k (isBoundary_utf8.2 hk.1) hk.2⟩
  rw [hb', hsnaps.unique h]

/-- **A part between boundaries is found.** -/
theorem part?_eq (a part b : List Char) :
    part? (a ++ (part ++ b)) (byteLength a) (byteLength a + byteLength part) = some part := by
  have hfirst : Boundary (a ++ (part ++ b)) (byteLength a) := ⟨a, part ++ b, rfl, rfl⟩
  have hpast : Boundary (a ++ (part ++ b)) (byteLength a + byteLength part) :=
    ⟨a ++ part, b, (List.append_assoc ..).symm, byteLength_append a part⟩
  unfold part?
  rw [if_pos ⟨Nat.le_add_right _ _, isBoundary_utf8.2 hfirst, isBoundary_utf8.2 hpast⟩,
    Nat.add_sub_cancel_left, dropBytes_append, takeBytes_append]

/-! ## Halving -/

/-- **Halving finds where the entries stop to pass**, from any two bounds around
that place. -/
theorem passingFrom_eq {xs : Array Nat} {test : Nat → Bool} {k : Nat}
    (htest : ∀ (i : Nat) (h : i < xs.size), test xs[i] = decide (i < k)) {low high : Nat}
    (h : high ≤ xs.size) (hlow : low ≤ k) (hhigh : k ≤ high) :
    passingFrom xs test low high h = k := by
  fun_induction passingFrom xs test low high h with
  | case1 low high h hlt hmid hpass ih =>
    rw [htest, decide_eq_true_eq] at hpass
    exact ih (by omega) hhigh
  | case2 low high h hlt hmid hfail ih =>
    rw [htest, decide_eq_true_eq] at hfail
    exact ih hlow (by omega)
  | case3 low high h hnlt => omega

theorem passing_append {a b : List Nat} {test : Nat → Bool} (ha : ∀ x ∈ a, test x = true)
    (hb : ∀ x ∈ b, test x = false) : passing (a ++ b).toArray test = a.length := by
  unfold passing
  refine passingFrom_eq (fun i hi => ?_) _ (Nat.zero_le _) (by simp)
  rw [List.getElem_toArray]
  by_cases hia : i < a.length
  · rw [List.getElem_append_left hia, ha _ (List.getElem_mem hia), decide_eq_true hia]
  · rw [List.getElem_append_right (Nat.le_of_not_lt hia), hb _ (List.getElem_mem _),
      decide_eq_false hia]

/-! ## The entries of a table -/

/-- The offsets behind the line feeds of a text that starts at `offset`. -/
def startsFrom (offset : Nat) : List Char → List Nat
  | [] => []
  | c :: rest =>
    if c = '\n' then (offset + 1) :: startsFrom (offset + 1) rest
    else startsFrom (offset + c.utf8Size) rest

theorem startsFrom_append (offset : Nat) (a b : List Char) :
    startsFrom offset (a ++ b) = startsFrom offset a ++ startsFrom (offset + byteLength a) b := by
  induction a generalizing offset with
  | nil => rfl
  | cons c a ih =>
    rw [List.cons_append, startsFrom, startsFrom, byteLength]
    split
    next hc =>
      subst hc
      rw [ih, Nat.add_assoc]
      rfl
    next => rw [ih, Nat.add_assoc]

theorem length_startsFrom (offset : Nat) (s : List Char) :
    (startsFrom offset s).length = s.count '\n' := by
  induction s generalizing offset with
  | nil => rfl
  | cons c s ih =>
    rw [startsFrom]
    split
    next hc => rw [hc, List.length_cons, ih, List.count_cons_self]
    next hc => rw [ih, List.count_cons_of_ne hc]

/-- They lie behind the start of the text and not behind its end. -/
theorem mem_startsFrom {offset x : Nat} {s : List Char} (h : x ∈ startsFrom offset s) :
    offset < x ∧ x ≤ offset + byteLength s := by
  induction s generalizing offset with
  | nil => exact absurd h List.not_mem_nil
  | cons c s ih =>
    have hpos := c.utf8Size_pos
    rw [startsFrom] at h
    rw [byteLength]
    split at h
    next hc =>
      rcases List.mem_cons.1 h with rfl | h
      · omega
      · have hx := ih h
        omega
    next =>
      have hx := ih h
      omega

/-- The line feeds among the bytes are those among the characters. -/
theorem map_filter_zipIdx_utf8 (offset : Nat) (s : List Char) :
    (((utf8 s).zipIdx offset).filter (·.1 == lineFeed)).map (·.2 + 1) = startsFrom offset s := by
  induction s generalizing offset with
  | nil => rfl
  | cons c s ih =>
    rw [utf8_cons, List.zipIdx_append, List.filter_append, List.map_append,
      String.length_utf8EncodeChar, ih, startsFrom]
    split
    next hc =>
      subst hc
      rfl
    next hc =>
      have hnone : ((String.utf8EncodeChar c).zipIdx offset).filter (·.1 == lineFeed) = [] := by
        rw [List.filter_eq_nil_iff]
        intro x hx hfeed
        have hmem := List.fst_mem_of_mem_zipIdx hx
        rw [beq_iff_eq.1 hfeed] at hmem
        exact hc (lineFeed_mem_utf8EncodeChar.1 hmem)
      rw [hnone]
      rfl

theorem starts_ofText (text : List Char) :
    (LineTable.ofText text).starts = (0 :: startsFrom 0 text).toArray := by
  unfold LineTable.ofText
  rw [map_filter_zipIdx_utf8]

/-- **Around a part of a line the table splits**: entries for what stands before
the line, its start, and the entries behind the part. -/
theorem exists_starts {before part : List Char} (hopens : Opens before) (hpart : '\n' ∉ part)
    (post : List Char) :
    ∃ front, 0 :: startsFrom 0 (before ++ (part ++ post))
        = (front ++ [byteLength before]) ++ startsFrom (byteLength before + byteLength part) post
      ∧ front.length = before.count '\n' ∧ ∀ x ∈ front, x ≤ byteLength before := by
  have hnone : startsFrom (0 + byteLength before) part = [] := by
    rw [← List.length_eq_zero_iff, length_startsFrom, List.count_eq_zero_of_not_mem hpart]
  rw [startsFrom_append, startsFrom_append, hnone, Nat.zero_add, List.nil_append]
  obtain rfl | ⟨front, rfl⟩ := hopens
  · exact ⟨[], rfl, rfl, by simp⟩
  · have hlast : startsFrom 0 (front ++ ['\n'])
        = startsFrom 0 front ++ [byteLength (front ++ ['\n'])] := by
      rw [startsFrom_append, byteLength_append, Nat.zero_add]
      rfl
    refine ⟨0 :: startsFrom 0 front, ?_, ?_, ?_⟩
    · rw [hlast]
      rfl
    · rw [List.length_cons, length_startsFrom, List.count_append]
      rfl
    · intro x hx
      rw [byteLength_append]
      rcases List.mem_cons.1 hx with rfl | hx
      · exact Nat.zero_le _
      · have hbound := (mem_startsFrom hx).2
        omega

end PcdCatalog.Text

namespace PcdCatalog.LineTable

open Text

theorem lineCount_ofText (text : List Char) : (ofText text).lineCount = Text.lineCount text := by
  rw [lineCount, starts_ofText, lineCount_eq_count, List.size_toArray, List.length_cons,
    length_startsFrom]

/-- The entry of a line is its start. -/
theorem getElem?_starts {before : List Char} (hopens : Opens before) (rest : List Char) :
    (ofText (before ++ rest)).starts[before.count '\n']? = some (byteLength before) := by
  obtain ⟨front, hstarts, hlength, -⟩ := exists_starts hopens List.not_mem_nil rest
  rw [List.nil_append] at hstarts
  rw [starts_ofText, hstarts, List.getElem?_toArray, List.append_assoc, ← hlength,
    List.getElem?_append_right (Nat.le_refl _), Nat.sub_self]
  rfl

/-- The entry behind it is the first one behind the line. -/
theorem getElem?_starts_succ {before line : List Char} (hopens : Opens before) (hline : '\n' ∉ line)
    (behind : List Char) :
    (ofText (before ++ (line ++ behind))).starts[before.count '\n' + 1]?
      = (startsFrom (byteLength before + byteLength line) behind)[0]? := by
  obtain ⟨front, hstarts, hlength, -⟩ := exists_starts hopens hline behind
  have hfront : (front ++ [byteLength before]).length = before.count '\n' + 1 := by
    rw [List.length_append, hlength]
    rfl
  rw [starts_ofText, hstarts, List.getElem?_toArray, ← hfront,
    List.getElem?_append_right (Nat.le_refl _), Nat.sub_self]

/-! ## Looking up -/

/-- **Looking up a position succeeds**: on the line behind `before`, `part` is
in front of the offset. -/
theorem positionAt?_part {before part post : List Char} (hopens : Opens before)
    (hpart : '\n' ∉ part) {o : Nat}
    (ho : Snaps (before ++ (part ++ post)) o (byteLength before + byteLength part)) :
    (ofText (before ++ (part ++ post))).positionAt? (before ++ (part ++ post)) o
      = some ⟨UInt32.ofNat (before.count '\n'), UInt32.ofNat (unitLength part)⟩ := by
  obtain ⟨front, hstarts, hlength, hfront⟩ := exists_starts hopens hpart post
  have hpassing : passing (ofText (before ++ (part ++ post))).starts
      (· ≤ byteLength before + byteLength part) = before.count '\n' + 1 := by
    rw [starts_ofText, hstarts, passing_append, List.length_append, hlength]
    · rfl
    · intro x hx
      rw [decide_eq_true_eq]
      rcases List.mem_append.1 hx with hx | hx
      · exact Nat.le_trans (hfront x hx) (Nat.le_add_right _ _)
      · rw [List.mem_singleton.1 hx]
        exact Nat.le_add_right _ _
    · intro x hx
      rw [decide_eq_false_iff_not]
      exact Nat.not_le_of_lt (mem_startsFrom hx).1
  have hstart := getElem?_starts hopens (part ++ post)
  unfold positionAt?
  rw [ho.snapBack_eq, Option.bind_eq_bind, Option.bind_some, hpassing]
  show (some _ >>= _) = _
  rw [Option.bind_eq_bind, Option.bind_some, Nat.add_sub_cancel, hstart, Option.bind_eq_bind,
    Option.bind_some, part?_eq]
  rfl

/-- **The table gives the position of every offset.** -/
theorem positionAt?_eq (text : List Char) (o : Nat) :
    (ofText text).positionAt? text o = some (positionAt text o) := by
  have hsnaps := snaps_takeBytes text o
  obtain ⟨before, part, hcut, hopens, hpart⟩ := exists_opens (takeBytes o text)
  have htext : text = before ++ (part ++ dropBytes o text) := by
    rw [← List.append_assoc, ← hcut, takeBytes_append_dropBytes]
  rw [hsnaps.positionAt_eq]
  rw [hcut, byteLength_append, htext] at hsnaps
  have hpos := positionAt_line hopens.lastLine_eq hpart (List.append_nil part) (dropBytes o text)
  have hlook := positionAt?_part hopens hpart hsnaps
  rw [← htext] at hpos hlook
  rw [hcut, byteLength_append, hlook, hpos]

theorem walk_eq (column units offset : Nat) (s : List Char) :
    walk column units offset s = offset + byteLength (takeUnits (column - units) s) := by
  induction s generalizing units offset with
  | nil => rfl
  | cons c s ih =>
    rw [walk, takeUnits]
    by_cases hle : column ≤ units
    · rw [if_pos hle, if_pos (by omega)]
      rfl
    · rw [if_neg hle, if_neg (by omega), ih, byteLength, Nat.sub_sub, Nat.add_assoc]

/-- The end of a line is looked up in the table. -/
theorem stop?_eq {l : Line} {text : List Char} (h : l.Of text) :
    (ofText text).stop? text l.number = some l.past := by
  have hpast : byteLength l.before + byteLength (l.content ++ l.returns) = l.past := by
    rw [byteLength_append, ← Nat.add_assoc]
    rfl
  have hnext := getElem?_starts_succ h.opens h.newline_notMem l.behind
  rw [← h.text_eq, hpast] at hnext
  unfold stop?
  rw [Line.number, hnext]
  obtain hbehind | ⟨rest, hbehind⟩ := h.closes
  · have htotal : (utf8 text).length = l.past := by
      rw [length_utf8, h.text_eq, hbehind, List.append_nil, byteLength_append, hpast]
    rw [hbehind]
    exact congrArg some htotal
  · rw [hbehind]
    rfl

/-- **Looking up an offset succeeds** on the line of its position. -/
theorem offsetAt?_of_line {l : Line} {text : List Char} (h : l.Of text) {p : Position}
    (hp : p.line.toNat = l.number) : (ofText text).offsetAt? text p = some (offsetAt text p) := by
  have hstart := getElem?_starts h.opens (l.content ++ l.returns ++ l.behind)
  rw [← h.text_eq] at hstart
  have hline : part? text l.start l.past = some (l.content ++ l.returns) := by
    have hpart := part?_eq l.before (l.content ++ l.returns) l.behind
    rwa [← h.text_eq, byteLength_append, ← Nat.add_assoc] at hpart
  unfold offsetAt?
  rw [hp, Line.number, hstart]
  dsimp only
  rw [← Line.number, stop?_eq h, Option.bind_eq_bind, Option.bind_some, ← Line.start, hline,
    Option.bind_eq_bind, Option.bind_some, trimReturns_append h.trimmed h.returns, walk_eq,
    Nat.sub_zero, h.offsetAt_eq hp]
  rfl

/-- **The table gives the offset of every position.** -/
theorem offsetAt?_eq (text : List Char) (p : Position) :
    (ofText text).offsetAt? text p = some (offsetAt text p) := by
  by_cases hp : p.line.toNat < Text.lineCount text
  · obtain ⟨l, hl, hnumber⟩ := exists_line_of_lt hp
    exact offsetAt?_of_line hl hnumber.symm
  · have hnone : (ofText text).starts[p.line.toNat]? = none := by
      rw [Array.getElem?_eq_none_iff, ← lineCount, lineCount_ofText]
      exact Nat.le_of_not_lt hp
    have hlines : (lines text)[p.line.toNat]? = none :=
      List.getElem?_eq_none (Nat.le_of_not_lt hp)
    unfold offsetAt? offsetAt
    dsimp only
    rw [hnone, hlines, length_utf8]

end PcdCatalog.LineTable

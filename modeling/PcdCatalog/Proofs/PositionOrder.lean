import PcdCatalog.Proofs.Positions

/-!
# The order of offsets and of positions

Offsets are ordered as numbers and positions line by line. Going from the one to the
other keeps the order, both ways (`monotone_positionAt_offsetAt`), although each way
rounds: an offset moves back to a boundary, a column moves on to one, and what lies
behind the content of a line moves back to its end.

From offsets to positions that is so because the boundary to which an offset moves
back does not pass the one of a later offset, and boundaries have positions of their
own, which ascend with them. From positions to offsets it is so on each line, where a
greater column cuts off a longer part of the content; and a line, with the carriage
returns that close it, is over before any later line starts (`Line.Of.past_lt_start`),
so no rounding takes an offset from one line to another.
-/

namespace PcdCatalog

theorem Position.isLE_compare_iff {p q : Position} :
    (compare p q).isLE = true ↔ p.line < q.line ∨ p.line = q.line ∧ p.character ≤ q.character := by
  show ((compare p.line q.line).then (compare p.character q.character)).isLE = true ↔ _
  rw [Ordering.isLE_then_iff_or, Std.compare_eq_lt, Std.compare_eq_iff_eq, Std.isLE_compare]

namespace Text

variable {text : List Char}

/-! ## From offsets to positions -/

/-- A later offset moves back to the same boundary or a later one. -/
theorem Snaps.le_of_le {o o' b b' : Nat} (h : Snaps text o b) (h' : Snaps text o' b')
    (hle : o ≤ o') : b ≤ b' := by
  obtain ⟨hb, hbo⟩ := h.1
  exact h'.2 ⟨hb, le_min ((hbo.trans (min_le_left _ _)).trans hle) hb.le⟩

/-- **Boundaries are ordered as their positions are.** -/
theorem compare_positionAt (hshort : byteLength text < UInt32.size) {o o' : Nat}
    (ho : Boundary text o) (ho' : Boundary text o') :
    compare (positionAt text o) (positionAt text o') = compare o o' := by
  obtain hlt | rfl | hgt := lt_trichotomy o o'
  · rw [compare_positionAt_of_lt hshort ho ho' hlt, Nat.compare_eq_lt.2 hlt]
  · rw [Std.ReflOrd.compare_self, Std.ReflOrd.compare_self]
  · rw [Std.OrientedCmp.gt_of_lt (compare_positionAt_of_lt hshort ho' ho hgt),
      Nat.compare_eq_gt.2 hgt]

/-- **Positions do not descend along offsets.** -/
theorem isLE_compare_positionAt (hshort : byteLength text < UInt32.size) {o o' : Nat}
    (hle : o ≤ o') : (compare (positionAt text o) (positionAt text o')).isLE = true := by
  have hsnaps := snaps_takeBytes text o
  have hsnaps' := snaps_takeBytes text o'
  rw [hsnaps.positionAt_eq, hsnaps'.positionAt_eq,
    compare_positionAt hshort hsnaps.1.1 hsnaps'.1.1, Nat.isLE_compare]
  exact hsnaps.le_of_le hsnaps' hle

/-! ## From positions to offsets -/

/-- A greater column cuts off more. -/
theorem byteLength_takeUnits_mono {n m : Nat} (h : n ≤ m) (s : List Char) :
    byteLength (takeUnits n s) ≤ byteLength (takeUnits m s) := by
  obtain hall | hpart := Nat.le_or_le (unitLength s) m
  · obtain ⟨b, hb⟩ := exists_takeUnits_append n s
    rw [takeUnits_of_le hall]
    conv_rhs => rw [hb, byteLength_append]
    exact Nat.le_add_right _ _
  · obtain ⟨b, hb⟩ := exists_takeUnits_append m s
    conv_lhs => rw [hb]
    exact byteLength_takeUnits_le (h.trans (le_unitLength_takeUnits hpart)) b

namespace Line.Of

variable {l l' : Line} {p q : Position}

/-- A line starts at or before the offsets of its positions. -/
theorem start_le_offsetAt (h : l.Of text) (hp : p.line.toNat = l.number) :
    l.start ≤ offsetAt text p := by
  rw [h.offsetAt_eq hp]
  exact Nat.le_add_right _ _

/-- No position on a line has an offset behind its content. -/
theorem offsetAt_le_stop (h : l.Of text) (hp : p.line.toNat = l.number) :
    offsetAt text p ≤ l.stop := by
  obtain ⟨b, hb⟩ := exists_takeUnits_append p.character.toNat l.content
  rw [h.offsetAt_eq hp, Line.stop]
  conv_rhs => rw [hb, byteLength_append]
  omega

/-- **A line is over before a later one starts**: what stands before the later one has
more line feeds than everything up to the end of the earlier one. -/
theorem past_lt_start (h : l.Of text) (h' : l'.Of text) (hlt : l.number < l'.number) :
    l.past < l'.start := by
  by_contra hle
  have hpast : l.past = byteLength (l.before ++ (l.content ++ l.returns)) := by
    rw [byteLength_append, byteLength_append]
    exact Nat.add_assoc _ _ _
  have hsplit : l'.before ++ (l'.content ++ l'.returns ++ l'.behind)
      = (l.before ++ (l.content ++ l.returns)) ++ l.behind := by
    rw [← h'.text_eq, List.append_assoc, ← h.text_eq]
  obtain ⟨part, hpart, -⟩ :=
    exists_append_of_byteLength_le hsplit (hpast ▸ Nat.le_of_not_lt hle)
  have hcount := congrArg (List.count '\n') hpart
  rw [List.count_append, List.count_eq_zero_of_not_mem h.newline_notMem, List.count_append]
    at hcount
  unfold Line.number at hlt
  omega

/-- On one line offsets ascend with the columns. -/
theorem offsetAt_le_offsetAt (h : l.Of text) (hp : p.line.toNat = l.number)
    (hq : q.line.toNat = l.number) (hle : p.character ≤ q.character) :
    offsetAt text p ≤ offsetAt text q := by
  rw [h.offsetAt_eq hp, h.offsetAt_eq hq]
  exact Nat.add_le_add_left (byteLength_takeUnits_mono (UInt32.le_iff_toNat_le.1 hle) _) _

end Line.Of

/-- **Offsets do not descend along positions.** -/
theorem offsetAt_le_of_isLE {p q : Position} (h : (compare p q).isLE = true) :
    offsetAt text p ≤ offsetAt text q := by
  have hline : p.line.toNat < q.line.toNat
      ∨ p.line.toNat = q.line.toNat ∧ p.character ≤ q.character := by
    rwa [Position.isLE_compare_iff, UInt32.lt_iff_toNat_lt, ← UInt32.toNat_inj] at h
  by_cases hq : q.line.toNat < lineCount text
  · obtain ⟨l', hl', hnumber'⟩ := exists_line_of_lt hq
    obtain hlt | ⟨heq, hle⟩ := hline
    · obtain ⟨l, hl, hnumber⟩ := exists_line_of_lt (hlt.trans hq)
      have hstop := hl.offsetAt_le_stop hnumber.symm
      have hstart := hl'.start_le_offsetAt hnumber'.symm
      have hpast := hl.past_lt_start hl' (by omega)
      unfold Line.past at hpast
      omega
    · exact hl'.offsetAt_le_offsetAt (heq.trans hnumber'.symm) hnumber'.symm hle
  · rw [offsetAt_of_lineCount_le (Nat.le_of_not_lt hq)]
    exact (boundary_offsetAt text p).le

/-! ## Both ways -/

/-- **Offsets and positions keep each other's order.** Both look-ups always succeed.
Going on from any offset to a later one does not go back in positions, and from one
boundary to a later one goes on, so no two boundaries have one position. Going on from
any position to a later one, in the text or not, does not go back in offsets. -/
theorem monotone_positionAt_offsetAt (hshort : byteLength text < UInt32.size) :
    ((∀ o, (LineTable.ofText text).positionAt? text o = some (positionAt text o))
        ∧ ∀ p, (LineTable.ofText text).offsetAt? text p = some (offsetAt text p))
      ∧ (∀ o o', o ≤ o' → (compare (positionAt text o) (positionAt text o')).isLE = true)
      ∧ (∀ o o', Boundary text o → Boundary text o' → o < o' →
        compare (positionAt text o) (positionAt text o') = .lt)
      ∧ (∀ o o', Boundary text o → Boundary text o' →
        positionAt text o = positionAt text o' → o = o')
      ∧ ∀ p q, (compare p q).isLE = true → offsetAt text p ≤ offsetAt text q := by
  refine ⟨⟨LineTable.positionAt?_eq text, LineTable.offsetAt?_eq text⟩,
    fun o o' => isLE_compare_positionAt hshort,
    fun o o' => compare_positionAt_of_lt hshort, fun o o' ho ho' heq => ?_,
    fun p q => offsetAt_le_of_isLE⟩
  have hcmp := compare_positionAt hshort ho ho'
  rw [heq, Std.ReflOrd.compare_self] at hcmp
  exact Nat.compare_eq_eq.1 hcmp.symm

/-- Two offsets inside one character and a boundary on the next line; a column between
the two code units of a character, one far behind its line, and a line that is not
there. -/
theorem monotone_positionAt_offsetAt_between :
    byteLength "é𝔸\r\r\nx".toList < UInt32.size
      ∧ (compare (positionAt "é𝔸\r\r\nx".toList 3) (positionAt "é𝔸\r\r\nx".toList 5)).isLE = true
      ∧ compare (positionAt "é𝔸\r\r\nx".toList 2) (positionAt "é𝔸\r\r\nx".toList 9) = .lt
      ∧ offsetAt "é𝔸\r\r\nx".toList ⟨0, 2⟩ ≤ offsetAt "é𝔸\r\r\nx".toList ⟨0, 4294967295⟩
      ∧ offsetAt "é𝔸\r\r\nx".toList ⟨0, 4294967295⟩ ≤ offsetAt "é𝔸\r\r\nx".toList ⟨1, 0⟩
      ∧ offsetAt "é𝔸\r\r\nx".toList ⟨1, 7⟩ ≤ offsetAt "é𝔸\r\r\nx".toList ⟨4294967295, 0⟩ := by
  have hshort : byteLength "é𝔸\r\r\nx".toList < UInt32.size := by decide
  have hfront : Boundary "é𝔸\r\r\nx".toList 2 := ⟨['é'], "𝔸\r\r\nx".toList, by decide, by decide⟩
  have hback : Boundary "é𝔸\r\r\nx".toList 9 := ⟨"é𝔸\r\r\n".toList, ['x'], by decide, by decide⟩
  obtain ⟨-, hpositions, hstrict, -, hoffsets⟩ := monotone_positionAt_offsetAt hshort
  exact ⟨hshort, hpositions 3 5 (by decide), hstrict 2 9 hfront hback (by decide),
    hoffsets _ _ (by decide), hoffsets _ _ (by decide), hoffsets _ _ (by decide)⟩

end Text

end PcdCatalog

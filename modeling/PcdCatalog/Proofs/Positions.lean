import PcdCatalog.Proofs.LineTableLaws

/-!
# Offsets and positions

What positions and offsets mean to each other, for every text and however far
out the offset or the position is.

The position of an offset counts the line feeds and the code units in front of
the character boundary that the offset moves back to, and the table looks it up
without ever leaving its bounds (`positionAt_exact`). Below 2³² bytes the counts
fit into 32 bits, and going there and back is governed by one equation: on its
line, a boundary comes back to itself, or to the end of the content if it lies
among the carriage returns behind it (`Line.Of.offsetAt_positionAt_part`). Both
round trips are read off that equation (`offsetAt_positionAt`,
`positionAt_offsetAt`). Going on from one boundary to a later one goes on in
positions as well (`compare_positionAt_of_lt`).
-/

namespace PcdCatalog.Text

/-! ## Positions of offsets -/

/-- **Where a boundary is**: `n` bytes before `b` are line feeds, and `u` code
units stand between the last of them, or the start of the text, and `b`. -/
def PlacedAt (text : List Char) (b n u : Nat) : Prop :=
  ∃ before part post, text = before ++ (part ++ post) ∧ Opens before ∧ '\n' ∉ part
    ∧ b = byteLength (before ++ part) ∧ n = ((utf8 text).take b).count lineFeed
    ∧ u = unitLength part

theorem take_utf8 (a b : List Char) : (utf8 (a ++ b)).take (byteLength a) = utf8 a := by
  rw [utf8_append, ← length_utf8, List.take_left]

/-- What counts line feeds and code units stays within the bytes of a text. -/
theorem PlacedAt.le {text : List Char} {b n u : Nat} (h : PlacedAt text b n u) :
    n ≤ byteLength text ∧ u ≤ byteLength text := by
  obtain ⟨before, part, post, rfl, -, -, rfl, rfl, rfl⟩ := h
  rw [← List.append_assoc, take_utf8, count_lineFeed_utf8]
  have hcount : (before ++ part).count '\n' ≤ (before ++ part).length := List.count_le_length
  have hbytes := length_le_byteLength (before ++ part)
  have hunits := unitLength_le_byteLength part
  rw [byteLength_append] at hbytes ⊢
  rw [byteLength_append]
  omega

/-- Every boundary is somewhere, and that is its position. -/
theorem exists_placedAt {text : List Char} {b : Nat} (h : Boundary text b) :
    ∃ n u, PlacedAt text b n u ∧ positionAt text b = ⟨UInt32.ofNat n, UInt32.ofNat u⟩ := by
  obtain ⟨pre, post, rfl, rfl⟩ := h
  obtain ⟨before, part, rfl, hopens, hpart⟩ := exists_opens pre
  refine ⟨before.count '\n', unitLength part, ?_, ?_⟩
  · refine ⟨before, part, post, List.append_assoc .., hopens, hpart, rfl, ?_, rfl⟩
    rw [take_utf8, count_lineFeed_utf8, List.count_append, List.count_eq_zero_of_not_mem hpart,
      Nat.add_zero]
  · rw [List.append_assoc, byteLength_append]
    exact positionAt_line hopens.lastLine_eq hpart (List.append_nil part) post

/-- **Positions are exact.** Looking up the position of any offset succeeds, and
gives the line and the column at which the boundary is that the offset moves
back to. In texts of less than 2³² - 1 bytes both are the numbers themselves,
also when they are shown counting from one. -/
theorem positionAt_exact (text : List Char) (o : Nat) :
    ∃ b n u, Snaps text o b ∧ PlacedAt text b n u
      ∧ (LineTable.ofText text).positionAt? text o = some (positionAt text o)
      ∧ positionAt text o = ⟨UInt32.ofNat n, UInt32.ofNat u⟩
      ∧ (byteLength text < UInt32.size - 1 →
          (positionAt text o).line.toNat = n ∧ (positionAt text o).character.toNat = u
            ∧ n + 1 < UInt32.size ∧ u + 1 < UInt32.size
            ∧ (positionAt text o).display = toString (n + 1) ++ ":" ++ toString (u + 1)) := by
  have hsnaps := snaps_takeBytes text o
  obtain ⟨n, u, hplaced, hpos⟩ := exists_placedAt hsnaps.1.1
  rw [← hsnaps.positionAt_eq] at hpos
  refine ⟨_, n, u, hsnaps, hplaced, LineTable.positionAt?_eq text o, hpos, fun hshort => ?_⟩
  obtain ⟨hn, hu⟩ := hplaced.le
  have hn1 : n + 1 < UInt32.size := by omega
  have hu1 : u + 1 < UInt32.size := by omega
  rw [hpos]
  refine ⟨UInt32.toNat_ofNat_of_lt' (by omega), UInt32.toNat_ofNat_of_lt' (by omega), hn1, hu1, ?_⟩
  show toString (UInt32.ofNat n + UInt32.ofNat 1).toNat ++ ":"
    ++ toString (UInt32.ofNat u + UInt32.ofNat 1).toNat = _
  rw [← UInt32.ofNat_add, ← UInt32.ofNat_add, UInt32.toNat_ofNat_of_lt' hn1,
    UInt32.toNat_ofNat_of_lt' hu1]

/-- An offset inside a character of two code units, on a second line. -/
theorem positionAt_exact_inside :
    byteLength "µ\r\né𝔸x".toList < UInt32.size - 1
      ∧ (LineTable.ofText "µ\r\né𝔸x".toList).positionAt? "µ\r\né𝔸x".toList 8 = some ⟨1, 1⟩
      ∧ (positionAt "µ\r\né𝔸x".toList 8).display = "2:2" := by
  obtain ⟨b, n, u, -, -, hlook, -, hexact⟩ := positionAt_exact "µ\r\né𝔸x".toList 8
  have hshort : byteLength "µ\r\né𝔸x".toList < UInt32.size - 1 := by decide
  have hpos : positionAt "µ\r\né𝔸x".toList 8 = ⟨1, 1⟩ := by decide
  obtain ⟨hn, hu, -, -, hdisplay⟩ := hexact hshort
  rw [hpos] at hlook hn hu hdisplay ⊢
  subst hn hu
  exact ⟨hshort, hlook, hdisplay⟩

/-! ## There and back on a line -/

namespace Line.Of

variable {l : Line} {text a b : List Char}

/-- Lines and columns of a text of less than 2³² bytes fit into 32 bits. -/
theorem toNat_positionAt (h : l.Of text) (hshort : byteLength text < UInt32.size)
    (hpart : l.content ++ l.returns = a ++ b) :
    (positionAt text (l.start + byteLength a)).line.toNat = l.number
      ∧ (positionAt text (l.start + byteLength a)).character.toNat = unitLength a := by
  have hcount : l.number ≤ l.before.length := List.count_le_length
  have hbefore := length_le_byteLength l.before
  have hunits := unitLength_le_byteLength a
  rw [h.text_eq, hpart] at hshort
  simp only [byteLength_append] at hshort
  rw [h.positionAt_eq hpart]
  exact ⟨UInt32.toNat_ofNat_of_lt' (by omega), UInt32.toNat_ofNat_of_lt' (by omega)⟩

/-- **A boundary on a line comes back to itself**, or to the end of the content
if it lies behind that. -/
theorem offsetAt_positionAt_part (h : l.Of text) (hshort : byteLength text < UInt32.size)
    (hpart : l.content ++ l.returns = a ++ b) :
    offsetAt text (positionAt text (l.start + byteLength a))
      = min (l.start + byteLength a) l.stop := by
  obtain ⟨hline, hcolumn⟩ := h.toNat_positionAt hshort hpart
  rw [h.offsetAt_eq hline, hcolumn, Line.stop, Nat.add_min_add_left]
  congr 1
  rcases List.append_eq_append_iff.1 hpart with ⟨more, rfl, -⟩ | ⟨more, hcontent, -⟩
  · rw [takeUnits_of_le, byteLength_append, Nat.min_eq_right (Nat.le_add_right _ _)]
    rw [unitLength_append]
    exact Nat.le_add_right _ _
  · rw [hcontent, takeUnits_append, byteLength_append, Nat.min_eq_left (Nat.le_add_right _ _)]

end Line.Of

/-- **From an offset to its position and back.** An offset comes back as the
boundary that it moves back to, or as the end of the content of that boundary's
line if that is earlier. So a boundary comes back as itself unless it lies among
or behind the carriage returns that close its line. -/
theorem offsetAt_positionAt {text : List Char} (hshort : byteLength text < UInt32.size) (o : Nat) :
    ((LineTable.ofText text).positionAt? text o).bind ((LineTable.ofText text).offsetAt? text)
      = some (offsetAt text (positionAt text o))
    ∧ (∃ b l, Snaps text o b ∧ Line.Of l text ∧ l.Holds b)
    ∧ ∀ b l, Snaps text o b → Line.Of l text → l.Holds b →
        offsetAt text (positionAt text o) = min b l.stop
        ∧ (Boundary text o → o ≤ l.stop → offsetAt text (positionAt text o) = o) := by
  refine ⟨?_, ?_, fun b l hsnaps hl hholds => ?_⟩
  · rw [LineTable.positionAt?_eq, Option.bind_some, LineTable.offsetAt?_eq]
  · obtain ⟨l, hl, hholds⟩ := exists_line_of_boundary (snaps_takeBytes text o).1.1
    exact ⟨_, l, snaps_takeBytes text o, hl, hholds⟩
  · obtain ⟨a, rest, hpart, rfl⟩ := hl.exists_part hsnaps.1.1 hholds
    have hback := hl.offsetAt_positionAt_part hshort hpart
    rw [← hsnaps.positionAt_eq] at hback
    refine ⟨hback, fun ho hle => ?_⟩
    rw [hback, hsnaps.unique ho.snaps, Nat.min_eq_left hle]

/-- An offset inside a character, and one between carriage returns. -/
theorem offsetAt_positionAt_returns :
    byteLength "é𝔸\r\r\nx".toList < UInt32.size
      ∧ offsetAt "é𝔸\r\r\nx".toList (positionAt "é𝔸\r\r\nx".toList 4) = 2
      ∧ offsetAt "é𝔸\r\r\nx".toList (positionAt "é𝔸\r\r\nx".toList 7) = 6 := by
  have hshort : byteLength "é𝔸\r\r\nx".toList < UInt32.size := by decide
  have hline : Line.Of ⟨[], ['é', '𝔸'], ['\r', '\r'], ['\n', 'x']⟩ "é𝔸\r\r\nx".toList :=
    ⟨by decide, .inl rfl, by decide, by decide, by simp, .inr ⟨['x'], rfl⟩⟩
  have hcut : ∀ o b, byteLength (takeBytes o "é𝔸\r\r\nx".toList) = b →
      Snaps "é𝔸\r\r\nx".toList o b :=
    fun o b hb => hb ▸ snaps_takeBytes _ o
  exact ⟨hshort,
    ((offsetAt_positionAt hshort 4).2.2 2 _ (hcut 4 2 (by decide)) hline ⟨by decide, by decide⟩).1,
    ((offsetAt_positionAt hshort 7).2.2 7 _ (hcut 7 7 (by decide)) hline ⟨by decide, by decide⟩).1⟩

/-! ## Offsets of positions -/

/-- The boundaries of a line's content that are at least `n` code units behind
its start. -/
def Line.reaching (l : Line) (n : Nat) : Set Nat := {o | ∃ u, l.Column o u ∧ n ≤ u}

namespace Line.Of

variable {l : Line} {text : List Char} {p : Position}

/-- The offset of a position on a line is a boundary of its content. -/
theorem column_offsetAt (h : l.Of text) (hp : p.line.toNat = l.number) :
    l.Column (offsetAt text p) (unitLength (takeUnits p.character.toNat l.content)) := by
  obtain ⟨b, hb⟩ := exists_takeUnits_append p.character.toNat l.content
  exact ⟨_, b, hb, h.offsetAt_eq hp, rfl⟩

theorem boundary_of_column (h : l.Of text) {o u : Nat} (ho : l.Column o u) : Boundary text o := by
  obtain ⟨a, b, hcontent, rfl, -⟩ := ho
  refine ⟨l.before ++ a, b ++ l.returns ++ l.behind, ?_, byteLength_append _ _⟩
  rw [h.text_eq, hcontent]
  simp only [List.append_assoc]

/-- **A boundary of the content** has its column for a position, and comes back
from there. -/
theorem toNat_positionAt_column (h : l.Of text) (hshort : byteLength text < UInt32.size) {o u : Nat}
    (ho : l.Column o u) :
    (positionAt text o).line.toNat = l.number ∧ (positionAt text o).character.toNat = u
      ∧ offsetAt text (positionAt text o) = o := by
  obtain ⟨a, b, hcontent, rfl, rfl⟩ := ho
  have hpart : l.content ++ l.returns = a ++ (b ++ l.returns) := by
    rw [hcontent, List.append_assoc]
  have hle : l.start + byteLength a ≤ l.stop := by
    rw [Line.stop, hcontent, byteLength_append]
    omega
  obtain ⟨hline, hcolumn⟩ := h.toNat_positionAt hshort hpart
  refine ⟨hline, hcolumn, ?_⟩
  rw [h.offsetAt_positionAt_part hshort hpart, Nat.min_eq_left hle]

/-- **The offset of a position is the first that reaches its column**, if there
is one. -/
theorem isLeast_offsetAt (h : l.Of text) (hp : p.line.toNat = l.number)
    (hne : (l.reaching p.character.toNat).Nonempty) :
    IsLeast (l.reaching p.character.toNat) (offsetAt text p) := by
  obtain ⟨o, u, ⟨a, b, hcontent, -, rfl⟩, hreach⟩ := hne
  have hall : p.character.toNat ≤ unitLength l.content := by
    rw [hcontent, unitLength_append]
    exact Nat.le_trans hreach (Nat.le_add_right _ _)
  refine ⟨⟨_, h.column_offsetAt hp, le_unitLength_takeUnits hall⟩, ?_⟩
  rintro o' ⟨u', ⟨a', b', hcontent', rfl, rfl⟩, hreach'⟩
  rw [h.offsetAt_eq hp, hcontent']
  exact Nat.add_le_add_left (byteLength_takeUnits_le hreach' b') _

/-- Behind all columns of its line the offset of a position is the end of the
content. -/
theorem offsetAt_of_reaching_empty (h : l.Of text) (hp : p.line.toNat = l.number)
    (hnone : l.reaching p.character.toNat = ∅) : offsetAt text p = l.stop := by
  have hend : l.Column l.stop (unitLength l.content) :=
    ⟨l.content, [], (List.append_nil _).symm, rfl, rfl⟩
  have hbehind : ¬ p.character.toNat ≤ unitLength l.content := by
    intro hle
    have hmem : l.stop ∈ l.reaching p.character.toNat := ⟨_, hend, hle⟩
    rw [hnone] at hmem
    exact hmem
  rw [h.offsetAt_eq hp, takeUnits_of_le (Nat.le_of_not_le hbehind)]
  rfl

/-- **A position comes back as itself** exactly if its column is one of its
line. -/
theorem positionAt_offsetAt_iff (h : l.Of text) (hshort : byteLength text < UInt32.size)
    (hp : p.line.toNat = l.number) :
    positionAt text (offsetAt text p) = p ↔ ∃ o, l.Column o p.character.toNat := by
  have hcolumn := h.column_offsetAt hp
  obtain ⟨hline, hunits, -⟩ := h.toNat_positionAt_column hshort hcolumn
  constructor
  · intro hback
    rw [hback] at hunits
    exact ⟨offsetAt text p, hunits ▸ hcolumn⟩
  · rintro ⟨o, a, b, hcontent, -, hcharacter⟩
    rw [hcharacter, hcontent, takeUnits_append, ← hcharacter] at hunits
    exact congrArg₂ Position.mk (UInt32.toNat_inj.1 (hline.trans hp.symm))
      (UInt32.toNat_inj.1 hunits)

end Line.Of

/-- Behind the last line there is only the end of the text. -/
theorem offsetAt_of_lineCount_le {text : List Char} {p : Position}
    (h : lineCount text ≤ p.line.toNat) : offsetAt text p = byteLength text := by
  unfold offsetAt
  dsimp only
  rw [List.getElem?_eq_none h]

/-- **The offset of a position is a boundary**, however far out the position is. -/
theorem boundary_offsetAt (text : List Char) (p : Position) : Boundary text (offsetAt text p) := by
  by_cases hp : p.line.toNat < lineCount text
  · obtain ⟨l, hl, hnumber⟩ := exists_line_of_lt hp
    exact hl.boundary_of_column (hl.column_offsetAt hnumber.symm)
  · rw [offsetAt_of_lineCount_le (Nat.le_of_not_lt hp)]
    exact ⟨text, [], (List.append_nil _).symm, rfl⟩

/-- **From a position to its offset and back.** Looking up the offset of any
position succeeds with a boundary of the text. On one of its lines that is the
first boundary of the content that reaches the column, or the end of the
content; the position comes back from it exactly if its column is that of a
boundary, and the offset does in any case. Behind the last line it is the end of
the text. -/
theorem positionAt_offsetAt {text : List Char} (hshort : byteLength text < UInt32.size)
    (p : Position) :
    (LineTable.ofText text).offsetAt? text p = some (offsetAt text p)
    ∧ Boundary text (offsetAt text p) ∧ offsetAt text p ≤ byteLength text
    ∧ (p.line.toNat < lineCount text →
        (∃ l, Line.Of l text ∧ l.number = p.line.toNat)
        ∧ offsetAt text (positionAt text (offsetAt text p)) = offsetAt text p
        ∧ ∀ l, Line.Of l text → l.number = p.line.toNat →
            ((l.reaching p.character.toNat).Nonempty →
              IsLeast (l.reaching p.character.toNat) (offsetAt text p))
            ∧ (l.reaching p.character.toNat = ∅ → offsetAt text p = l.stop)
            ∧ (positionAt text (offsetAt text p) = p ↔ ∃ o, l.Column o p.character.toNat))
    ∧ (lineCount text ≤ p.line.toNat → offsetAt text p = byteLength text) := by
  have hbound := boundary_offsetAt text p
  refine ⟨LineTable.offsetAt?_eq text p, hbound, hbound.le, fun hp => ?_,
    offsetAt_of_lineCount_le⟩
  obtain ⟨l, hl, hnumber⟩ := exists_line_of_lt hp
  have hcolumn := hl.column_offsetAt hnumber.symm
  refine ⟨⟨l, hl, hnumber⟩, (hl.toNat_positionAt_column hshort hcolumn).2.2, ?_⟩
  intro l hl hnumber
  exact ⟨hl.isLeast_offsetAt hnumber.symm, hl.offsetAt_of_reaching_empty hnumber.symm,
    hl.positionAt_offsetAt_iff hshort hnumber.symm⟩

/-- A column inside a character of two code units, and a line behind the last.
-/
theorem positionAt_offsetAt_between :
    byteLength "ab\r\né𝔸d".toList < UInt32.size
      ∧ IsLeast (Line.reaching ⟨"ab\r\n".toList, "é𝔸d".toList, [], []⟩ 2) 10
      ∧ offsetAt "ab\r\né𝔸d".toList (positionAt "ab\r\né𝔸d".toList 10) = 10
      ∧ offsetAt "ab\r\né𝔸d".toList ⟨2, 0⟩ = byteLength "ab\r\né𝔸d".toList := by
  have hshort : byteLength "ab\r\né𝔸d".toList < UInt32.size := by decide
  have hline : Line.Of ⟨"ab\r\n".toList, "é𝔸d".toList, [], []⟩ "ab\r\né𝔸d".toList :=
    ⟨by decide, .inr ⟨"ab\r".toList, by decide⟩, by decide, by decide, by simp, .inl rfl⟩
  have hreach : (Line.reaching ⟨"ab\r\n".toList, "é𝔸d".toList, [], []⟩ 2).Nonempty :=
    ⟨10, 3, ⟨"é𝔸".toList, "d".toList, by decide, by decide, by decide⟩, by decide⟩
  have hinside : offsetAt "ab\r\né𝔸d".toList ⟨1, 2⟩ = 10 := by decide
  have hlook := positionAt_offsetAt hshort ⟨1, 2⟩
  rw [hinside] at hlook
  obtain ⟨-, hback, hleast⟩ := hlook.2.2.2.1 (by decide)
  exact ⟨hshort, (hleast _ hline (by decide)).1 hreach, hback,
    (positionAt_offsetAt hshort ⟨2, 0⟩).2.2.2.2 (by decide)⟩

/-! ## The order of positions -/

theorem unitLength_lastLine_le (s : List Char) : unitLength (lastLine s) ≤ byteLength s := by
  obtain ⟨before, part, rfl, hopens, hpart⟩ := exists_opens s
  rw [lastLine_append before hpart, hopens.lastLine_eq, List.nil_append, byteLength_append]
  exact (unitLength_le_byteLength part).trans (Nat.le_add_left _ _)

theorem unitLength_pos {s : List Char} (h : s ≠ []) : 0 < unitLength s := by
  obtain ⟨c, rest, rfl⟩ := List.exists_cons_of_ne_nil h
  exact Nat.add_pos_left (unitWidth_pos c) _

/-- The line and the column behind a part of a short text fit into 32 bits. -/
theorem toNat_positionAt_append {a b : List Char} (hshort : byteLength (a ++ b) < UInt32.size) :
    (positionAt (a ++ b) (byteLength a)).line.toNat = a.count '\n'
      ∧ (positionAt (a ++ b) (byteLength a)).character.toNat = unitLength (lastLine a) := by
  have hcount : a.count '\n' ≤ a.length := List.count_le_length
  have hbytes := length_le_byteLength a
  have hunits := unitLength_lastLine_le a
  rw [byteLength_append] at hshort
  rw [positionAt_append]
  exact ⟨UInt32.toNat_ofNat_of_lt' (by omega), UInt32.toNat_ofNat_of_lt' (by omega)⟩

/-- **Positions ascend with the boundaries of a text**: a line feed in between
makes for a later line, and anything else for a later column. -/
theorem compare_positionAt_of_lt {text : List Char} (hshort : byteLength text < UInt32.size)
    {o o' : Nat} (ho : Boundary text o) (ho' : Boundary text o') (hlt : o < o') :
    compare (positionAt text o) (positionAt text o') = .lt := by
  obtain ⟨a, b, htext, rfl⟩ := ho
  obtain ⟨x, y, rfl, rfl⟩ := ho'
  obtain ⟨part, rfl, -⟩ := exists_append_of_byteLength_le htext.symm hlt.le
  have hne : part ≠ [] := by
    rintro rfl
    rw [List.append_nil] at hlt
    exact lt_irrefl _ hlt
  obtain ⟨hline', hcolumn'⟩ := toNat_positionAt_append hshort
  obtain ⟨hline, hcolumn⟩ := toNat_positionAt_append (htext ▸ hshort)
  rw [← htext] at hline hcolumn
  rw [Position.compare_eq_lt_iff, UInt32.lt_iff_toNat_lt, UInt32.lt_iff_toNat_lt,
    ← UInt32.toNat_inj, hline, hline', hcolumn, hcolumn', List.count_append]
  by_cases hpart : '\n' ∈ part
  · have hcount := List.count_pos_iff.2 hpart
    exact .inl (by omega)
  · have hunits := unitLength_pos hne
    rw [List.count_eq_zero_of_not_mem hpart, lastLine_append a hpart, unitLength_append]
    exact .inr ⟨rfl, by omega⟩

end PcdCatalog.Text

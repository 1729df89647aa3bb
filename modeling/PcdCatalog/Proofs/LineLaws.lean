import Mathlib.Data.List.DropRight
import Mathlib.Order.Bounds.Basic
import PcdCatalog.Proofs.TextLaws

/-!
# Boundaries and lines

What an offset and a position mean is said here without any look-up. An offset
is a `Boundary` if some part of the text from its start has that many bytes. A
`Line` is a text taken apart around one of its lines: what stands before it, its
content, the carriage returns that close it, and what stands behind; `Line.Of`
says that the parts are what they are called.

Offsets and columns are then lengths of parts of a line. `Line.Of.offsetAt_eq`
reads the offset of a position off the content of its line, and
`Line.Of.positionAt_eq` the position of an offset, so that no argument about
positions has to walk through the lines of a text again. Every boundary lies on
a line and every number below the number of lines has one
(`exists_line_of_boundary`, `exists_line_of_lt`).
-/

namespace PcdCatalog.Text

/-! ## Boundaries -/

/-- **A character boundary**: the offset behind a part that the text begins
with. -/
def Boundary (text : List Char) (o : Nat) : Prop := ∃ a b, text = a ++ b ∧ byteLength a = o

/-- **Moving back to a boundary**: the last one that is neither behind `o` nor
behind the text. -/
def Snaps (text : List Char) (o b : Nat) : Prop :=
  IsGreatest {b | Boundary text b ∧ b ≤ min o (byteLength text)} b

theorem Boundary.le {text : List Char} {o : Nat} (h : Boundary text o) : o ≤ byteLength text := by
  obtain ⟨a, b, rfl, rfl⟩ := h
  rw [byteLength_append]
  exact Nat.le_add_right _ _

/-- Of two parts that a text begins with, the shorter one begins the longer. -/
theorem exists_append_of_byteLength_le {a b x y : List Char} (h : a ++ b = x ++ y)
    (hle : byteLength a ≤ byteLength x) : ∃ part, x = a ++ part ∧ b = part ++ y := by
  rcases List.append_eq_append_iff.1 h with ⟨part, hx, hb⟩ | ⟨part, ha, hy⟩
  · exact ⟨part, hx, hb⟩
  · cases part with
    | nil => exact ⟨[], by rw [ha, List.append_nil, List.append_nil], hy.symm⟩
    | cons c part =>
      have hpos := c.utf8Size_pos
      rw [ha, byteLength_append, byteLength] at hle
      omega

/-- Cutting behind a part or later takes that part. -/
theorem takeBytes_append_of_le {a : List Char} {n : Nat} (h : byteLength a ≤ n) (b : List Char) :
    takeBytes n (a ++ b) = a ++ takeBytes (n - byteLength a) b := by
  induction a generalizing n with
  | nil => rfl
  | cons c a ih =>
    rw [byteLength] at h
    rw [List.cons_append, takeBytes, if_pos (by omega), ih (by omega), byteLength, Nat.sub_sub]
    rfl

/-- **A cut is at the boundary that its offset moves back to.** -/
theorem snaps_takeBytes (text : List Char) (o : Nat) :
    Snaps text o (byteLength (takeBytes o text)) := by
  have hcut : Boundary text (byteLength (takeBytes o text)) :=
    ⟨_, dropBytes o text, (takeBytes_append_dropBytes o text).symm, rfl⟩
  refine ⟨⟨hcut, le_min (byteLength_takeBytes_le o text) hcut.le⟩, ?_⟩
  rintro b ⟨⟨a, rest, rfl, rfl⟩, hle⟩
  rw [takeBytes_append_of_le (hle.trans (min_le_left _ _)), byteLength_append]
  exact Nat.le_add_right _ _

theorem Snaps.eq_takeBytes {text : List Char} {o b : Nat} (h : Snaps text o b) :
    b = byteLength (takeBytes o text) :=
  h.unique (snaps_takeBytes text o)

/-- A boundary stays where it is. -/
theorem Boundary.snaps {text : List Char} {o : Nat} (h : Boundary text o) : Snaps text o o :=
  ⟨⟨h, le_min (Nat.le_refl o) h.le⟩, fun _ hb => hb.2.trans (min_le_left _ _)⟩

/-- An offset has the position of the boundary that it moves back to. -/
theorem Snaps.positionAt_eq {text : List Char} {o b : Nat} (h : Snaps text o b) :
    positionAt text o = positionAt text b := by
  have hcut : takeBytes b text = takeBytes o text := by
    rw [h.eq_takeBytes]
    have happend := takeBytes_append (takeBytes o text) (dropBytes o text)
    rwa [takeBytes_append_dropBytes] at happend
  unfold positionAt
  rw [hcut]

/-! ## Cutting by columns -/

theorem unitWidth_pos (c : Char) : 0 < unitWidth c := by
  unfold unitWidth
  split <;> decide

/-- **Cutting by the code units of a part** gives that part. -/
theorem takeUnits_append (a b : List Char) : takeUnits (unitLength a) (a ++ b) = a := by
  induction a with
  | nil => cases b <;> rfl
  | cons c a ih =>
    have hpos := unitWidth_pos c
    rw [List.cons_append, takeUnits, unitLength, if_neg (by omega), Nat.add_sub_cancel_left, ih]

/-- A column behind the end takes everything. -/
theorem takeUnits_of_le {s : List Char} {n : Nat} (h : unitLength s ≤ n) : takeUnits n s = s := by
  induction s generalizing n with
  | nil => rfl
  | cons c s ih =>
    have hpos := unitWidth_pos c
    rw [unitLength] at h
    rw [takeUnits, if_neg (by omega), ih (by omega)]

theorem exists_takeUnits_append (n : Nat) (s : List Char) : ∃ b, s = takeUnits n s ++ b := by
  induction s generalizing n with
  | nil => exact ⟨[], rfl⟩
  | cons c s ih =>
    rw [takeUnits]
    split
    · exact ⟨c :: s, rfl⟩
    · obtain ⟨b, hb⟩ := ih (n - unitWidth c)
      exact ⟨b, congrArg (c :: ·) hb⟩

/-- A cut reaches its column if the text does. -/
theorem le_unitLength_takeUnits {s : List Char} {n : Nat} (h : n ≤ unitLength s) :
    n ≤ unitLength (takeUnits n s) := by
  induction s generalizing n with
  | nil => exact h
  | cons c s ih =>
    rw [unitLength] at h
    rw [takeUnits]
    split
    next hzero => exact Nat.le_of_eq hzero
    next =>
      have hrest := ih (n := n - unitWidth c) (by omega)
      rw [unitLength]
      omega

/-- **Nothing shorter than the cut reaches its column.** -/
theorem byteLength_takeUnits_le {a : List Char} {n : Nat} (h : n ≤ unitLength a) (b : List Char) :
    byteLength (takeUnits n (a ++ b)) ≤ byteLength a := by
  induction a generalizing n with
  | nil =>
    obtain rfl := Nat.le_zero.1 h
    cases b <;> exact Nat.le_refl 0
  | cons c a ih =>
    rw [unitLength] at h
    rw [List.cons_append, takeUnits]
    split
    · exact Nat.zero_le _
    · exact Nat.add_le_add_left (ih (by omega)) _

/-! ## Carriage returns -/

/-- A line is its content and the carriage returns that close it. -/
theorem exists_returns (line : List Char) :
    ∃ returns, line = trimReturns line ++ returns ∧ (∀ c ∈ returns, c = '\r')
      ∧ (trimReturns line).getLast? ≠ some '\r' := by
  refine ⟨line.rtakeWhile (· == '\r'), (List.rdropWhile_append_rtakeWhile ..).symm, ?_, ?_⟩
  · intro c hc
    simpa using List.mem_rtakeWhile_imp hc
  · intro hlast
    obtain ⟨front, hfront⟩ := List.getLast?_eq_some_iff.1 hlast
    have hne : trimReturns line ≠ [] := by
      rw [hfront]
      simp
    refine List.rdropWhile_last_not (· == '\r') line hne ?_
    have hr : (trimReturns line).getLast hne = '\r' := by
      simp only [hfront, List.getLast_append_singleton]
    exact beq_iff_eq.2 hr

/-- Carriage returns behind a content that ends in none are trimmed. -/
theorem trimReturns_append {content returns : List Char} (htrim : content.getLast? ≠ some '\r')
    (hreturns : ∀ c ∈ returns, c = '\r') : trimReturns (content ++ returns) = content := by
  have hstops : content.reverse.dropWhile (· == '\r') = content.reverse := by
    rw [List.getLast?_eq_head?_reverse] at htrim
    cases hrev : content.reverse with
    | nil => rfl
    | cons c rest =>
      rw [hrev] at htrim
      exact List.dropWhile_cons_of_neg (by simpa using htrim)
  unfold trimReturns
  rw [List.reverse_append, List.dropWhile_append_of_pos, hstops, List.reverse_reverse]
  intro c hc
  exact beq_iff_eq.2 (hreturns c (List.mem_reverse.1 hc))

/-! ## Lines -/

/-- What can stand before a line: nothing, or something up to a line feed. -/
def Opens (before : List Char) : Prop := before = [] ∨ ∃ front, before = front ++ ['\n']

/-- **A text taken apart around a line.** -/
structure Line where
  before : List Char
  content : List Char
  /-- The carriage returns that close the line. -/
  returns : List Char
  behind : List Char

namespace Line

/-- The line feeds before a line. -/
def number (l : Line) : Nat := l.before.count '\n'

/-- The offset at which a line starts. -/
def start (l : Line) : Nat := byteLength l.before

/-- The offset behind the content of a line. -/
def stop (l : Line) : Nat := l.start + byteLength l.content

/-- The offset behind a line and its carriage returns. -/
def past (l : Line) : Nat := l.stop + byteLength l.returns

/-- Whether an offset lies on a line, its end included. -/
def Holds (l : Line) (o : Nat) : Prop := l.start ≤ o ∧ o ≤ l.past

/-- The offset `o` is a boundary of the content, `u` code units behind the start
of the line. -/
def Column (l : Line) (o u : Nat) : Prop :=
  ∃ a b, l.content = a ++ b ∧ o = l.start + byteLength a ∧ u = unitLength a

/-- **The parts are those of a text**: the line starts at the start of the text
or behind a line feed, has no line feed in it, and ends at the end of the text
or in front of a line feed; its content does not end in a carriage return. -/
structure Of (l : Line) (text : List Char) : Prop where
  text_eq : text = l.before ++ (l.content ++ l.returns ++ l.behind)
  opens : Opens l.before
  whole : '\n' ∉ l.content
  trimmed : l.content.getLast? ≠ some '\r'
  returns : ∀ c ∈ l.returns, c = '\r'
  closes : l.behind = [] ∨ ∃ rest, l.behind = '\n' :: rest

end Line

/-! ### Every boundary lies on a line -/

/-- No part of a line stands before a line. -/
theorem Opens.lastLine_eq {before : List Char} (h : Opens before) : lastLine before = [] := by
  obtain rfl | ⟨front, rfl⟩ := h
  · rfl
  · exact lastLine_append_newline front

/-- A text is what stands up to its last line feed, and a part of a line. -/
theorem exists_opens (pre : List Char) :
    ∃ before part, pre = before ++ part ∧ Opens before ∧ '\n' ∉ part := by
  refine ⟨pre.rdropWhile (· != '\n'), pre.rtakeWhile (· != '\n'),
    (List.rdropWhile_append_rtakeWhile ..).symm, ?_, ?_⟩
  · obtain hnil | ⟨front, c, hfront⟩ := List.eq_nil_or_concat (pre.rdropWhile (· != '\n'))
    · exact .inl hnil
    · rw [List.concat_eq_append] at hfront
      have hne : pre.rdropWhile (· != '\n') ≠ [] := by simp [hfront]
      have hlast := List.rdropWhile_last_not (· != '\n') pre hne
      simp only [hfront, List.getLast_append_singleton] at hlast
      obtain rfl : c = '\n' := by simpa using hlast
      exact .inr ⟨front, hfront⟩
  · intro hmem
    simpa using List.mem_rtakeWhile_imp hmem

/-- **Behind what can stand before a line there is one.** -/
theorem exists_line {before : List Char} (h : Opens before) (rest : List Char) :
    ∃ l : Line, l.Of (before ++ rest) ∧ l.before = before := by
  obtain ⟨returns, hline, hreturns, htrimmed⟩ := exists_returns (rest.takeWhile (· != '\n'))
  refine ⟨⟨before, trimReturns (rest.takeWhile (· != '\n')), returns,
    rest.dropWhile (· != '\n')⟩, ⟨?_, h, ?_, htrimmed, hreturns, ?_⟩, rfl⟩
  · rw [← hline, List.takeWhile_append_dropWhile]
  · intro hmem
    have hline' := List.mem_append_left returns hmem
    rw [← hline] at hline'
    simpa using List.mem_takeWhile_imp hline'
  · cases hd : rest.dropWhile (· != '\n') with
    | nil => exact .inl rfl
    | cons c behind =>
      have hne : rest.dropWhile (· != '\n') ≠ [] := by simp [hd]
      have hc := List.head_dropWhile_not (· != '\n') hne
      simp only [hd, List.head_cons] at hc
      obtain rfl : c = '\n' := by simpa using hc
      exact .inr ⟨behind, rfl⟩

/-- A text has a front for every number of its line feeds. -/
theorem exists_opens_of_le {text : List Char} {n : Nat} (h : n ≤ text.count '\n') :
    ∃ before rest, text = before ++ rest ∧ Opens before ∧ before.count '\n' = n := by
  induction text generalizing n with
  | nil => exact ⟨[], [], rfl, .inl rfl, (Nat.le_zero.1 h).symm⟩
  | cons c text ih =>
    cases n with
    | zero => exact ⟨[], c :: text, rfl, .inl rfl, rfl⟩
    | succ n =>
      by_cases hc : c = '\n'
      · subst hc
        rw [List.count_cons_self] at h
        obtain ⟨before, rest, rfl, hopens, hcount⟩ := ih (Nat.le_of_succ_le_succ h)
        refine ⟨'\n' :: before, rest, rfl, ?_, by rw [List.count_cons_self, hcount]⟩
        obtain rfl | ⟨front, rfl⟩ := hopens
        · exact .inr ⟨[], rfl⟩
        · exact .inr ⟨'\n' :: front, rfl⟩
      · rw [List.count_cons_of_ne hc] at h
        obtain ⟨before, rest, rfl, hopens, hcount⟩ := ih h
        refine ⟨c :: before, rest, rfl, ?_, by rw [List.count_cons_of_ne hc, hcount]⟩
        obtain rfl | ⟨front, rfl⟩ := hopens
        · exact absurd hcount (by simp)
        · exact .inr ⟨c :: front, rfl⟩

/-- Every line number below the number of lines has its line. -/
theorem exists_line_of_lt {text : List Char} {n : Nat} (h : n < lineCount text) :
    ∃ l : Line, l.Of text ∧ l.number = n := by
  rw [lineCount_eq_count] at h
  obtain ⟨before, rest, rfl, hopens, rfl⟩ := exists_opens_of_le (Nat.le_of_lt_succ h)
  obtain ⟨l, hl, rfl⟩ := exists_line hopens rest
  exact ⟨l, hl, rfl⟩

namespace Line.Of

variable {l : Line} {text : List Char}

theorem newline_notMem (h : l.Of text) : '\n' ∉ l.content ++ l.returns := by
  rw [List.mem_append, not_or]
  exact ⟨h.whole, fun hmem => absurd (h.returns _ hmem) (by decide)⟩

/-- A boundary on a line is the end of a part of it. -/
theorem exists_part (h : l.Of text) {b : Nat} (hb : Boundary text b) (hh : l.Holds b) :
    ∃ a rest, l.content ++ l.returns = a ++ rest ∧ b = l.start + byteLength a := by
  obtain ⟨pre, post, htext, rfl⟩ := hb
  obtain ⟨a, rfl, hrest⟩ := exists_append_of_byteLength_le (h.text_eq.symm.trans htext) hh.1
  have hle := hh.2
  unfold past stop start at hle
  rw [byteLength_append] at hle
  obtain ⟨rest, hline, -⟩ := exists_append_of_byteLength_le hrest.symm
    (by rw [byteLength_append]; omega)
  exact ⟨a, rest, hline, byteLength_append _ _⟩

end Line.Of

/-- **Every boundary lies on a line.** -/
theorem exists_line_of_boundary {text : List Char} {b : Nat} (h : Boundary text b) :
    ∃ l : Line, l.Of text ∧ l.Holds b := by
  obtain ⟨pre, post, rfl, rfl⟩ := h
  obtain ⟨before, part, rfl, hopens, hpart⟩ := exists_opens pre
  rw [List.append_assoc]
  obtain ⟨l, hl, rfl⟩ := exists_line hopens (part ++ post)
  refine ⟨l, hl, ?_, ?_⟩
  · rw [byteLength_append]
    exact Nat.le_add_right _ _
  -- a part that reached behind its line would take in the line feed there
  · by_contra hlt
    have hsplit : l.content ++ l.returns ++ l.behind = part ++ post :=
      (List.append_cancel_left hl.text_eq).symm
    unfold Line.past Line.stop Line.start at hlt
    rw [byteLength_append] at hlt
    obtain ⟨more, rfl, hbehind⟩ := exists_append_of_byteLength_le hsplit
      (by rw [byteLength_append]; omega)
    cases more with
    | nil => rw [List.append_nil, byteLength_append] at hlt; omega
    | cons c more =>
      obtain hnil | ⟨rest, hrest⟩ := hl.closes
      · exact absurd (hnil.symm.trans hbehind) (by simp)
      · obtain ⟨rfl, -⟩ := List.cons.inj (hrest.symm.trans hbehind)
        exact hpart (by simp)

/-! ### Look-ups by lines -/

/-- A line that starts a text is its first line. -/
theorem lines_append {line behind : List Char} (hline : '\n' ∉ line)
    (hcloses : behind = [] ∨ ∃ rest, behind = '\n' :: rest) :
    ∃ rest, lines (line ++ behind) = line :: rest := by
  induction line with
  | nil =>
    obtain rfl | ⟨rest, rfl⟩ := hcloses
    · exact ⟨[], rfl⟩
    · exact ⟨lines rest, rfl⟩
  | cons c line ih =>
    obtain ⟨hc, hrest⟩ := not_or.1 (mt List.mem_cons.2 hline)
    obtain ⟨rest, hlines⟩ := ih hrest
    refine ⟨rest, ?_⟩
    rw [List.cons_append, lines, if_neg (Ne.symm hc), hlines]

/-- **The line behind what stands before it** is the one with the number of line
feeds there, and starts at its length. -/
theorem lines_of_opens {before tail line : List Char} {rest : List (List Char)}
    (hopens : Opens before) (htail : lines tail = line :: rest) :
    (lines (before ++ tail))[before.count '\n']? = some line
      ∧ lineStart (lines (before ++ tail)) (before.count '\n') = byteLength before := by
  induction before with
  | nil =>
    rw [List.nil_append, htail]
    exact ⟨rfl, rfl⟩
  | cons c before ih =>
    by_cases hc : c = '\n'
    · subst hc
      have hopens' : Opens before := by
        obtain hnil | ⟨front, hfront⟩ := hopens
        · exact absurd hnil (by simp)
        · cases front with
          | nil => exact .inl (List.cons.inj hfront).2
          | cons d front => exact .inr ⟨front, (List.cons.inj hfront).2⟩
      obtain ⟨hget, hstart⟩ := ih hopens'
      rw [List.cons_append, lines, if_pos rfl, List.count_cons_self]
      refine ⟨hget, ?_⟩
      rw [lineStart_cons_succ, hstart]
      rfl
    · obtain ⟨front, rfl⟩ : ∃ front, before = front ++ ['\n'] := by
        obtain hnil | ⟨front, hfront⟩ := hopens
        · exact absurd hnil (by simp)
        · cases front with
          | nil => exact absurd (List.cons.inj hfront).1 hc
          | cons d front => exact ⟨front, (List.cons.inj hfront).2⟩
      obtain ⟨hget, hstart⟩ := ih (.inr ⟨front, rfl⟩)
      obtain ⟨first, others, hlines, -⟩ := exists_lines (front ++ ['\n'] ++ tail)
      -- there is a line feed before the line, so the character lengthens an earlier one
      have hcount : (front ++ ['\n']).count '\n' = front.count '\n' + 1 := by
        rw [List.count_append]
        rfl
      rw [hlines, hcount] at hget hstart
      rw [List.cons_append, lines, if_neg hc, hlines, List.count_cons_of_ne hc, hcount]
      refine ⟨hget, ?_⟩
      rw [lineStart_cons_succ] at hstart ⊢
      rw [byteLength, byteLength, ← hstart]
      omega

namespace Line.Of

variable {l : Line} {text : List Char}

/-- A line has its number and its start among the lines of the text. -/
theorem getElem?_lines (h : l.Of text) :
    (lines text)[l.number]? = some (l.content ++ l.returns)
      ∧ lineStart (lines text) l.number = l.start := by
  obtain ⟨rest, hlines⟩ := lines_append h.newline_notMem h.closes
  have hfound := lines_of_opens h.opens hlines
  rwa [← h.text_eq] at hfound

/-- **The offset of a position on a line** is read off the content of the line.
-/
theorem offsetAt_eq (h : l.Of text) {p : Position} (hp : p.line.toNat = l.number) :
    offsetAt text p = l.start + byteLength (takeUnits p.character.toNat l.content) := by
  obtain ⟨hget, hstart⟩ := h.getElem?_lines
  unfold offsetAt
  dsimp only
  rw [hp, hget, hstart]
  dsimp only
  rw [trimReturns_append h.trimmed h.returns]

/-- **The position behind a part of a line.** -/
theorem positionAt_eq (h : l.Of text) {a b : List Char} (hpart : l.content ++ l.returns = a ++ b) :
    positionAt text (l.start + byteLength a)
      = ⟨UInt32.ofNat l.number, UInt32.ofNat (unitLength a)⟩ := by
  rw [h.text_eq]
  exact positionAt_line h.opens.lastLine_eq h.newline_notMem hpart.symm l.behind

end Line.Of

end PcdCatalog.Text

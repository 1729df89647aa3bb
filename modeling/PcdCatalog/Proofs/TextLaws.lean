import PcdCatalog.Text.Position
import PcdCatalog.Text.Word

/-!
# Laws of measured texts

A text `a ++ b` is cut at the byte offset `byteLength a` into exactly `a` and
`b` (`takeBytes_append`, `dropBytes_append`), because every character takes at
least one byte. What an offset of that form says about lines and columns can
then be read off `a` alone (`positionAt_append`).

A text is its first line and the others behind their line feeds
(`exists_lines`), which is how a walk over a text becomes a walk over its
lines.
-/

namespace PcdCatalog.Text

/-! ## Cutting -/

@[simp] theorem takeBytes_zero (s : List Char) : takeBytes 0 s = [] := by
  cases s with
  | nil => rfl
  | cons c s =>
    rw [takeBytes, if_neg]
    have := c.utf8Size_pos
    omega

@[simp] theorem dropBytes_zero (s : List Char) : dropBytes 0 s = s := by
  have h := takeBytes_append_dropBytes 0 s
  rwa [takeBytes_zero, List.nil_append] at h

/-- **Cutting behind a part of a text** gives that part. -/
@[simp] theorem takeBytes_append (a b : List Char) : takeBytes (byteLength a) (a ++ b) = a := by
  induction a with
  | nil => exact takeBytes_zero b
  | cons c a ih =>
    rw [List.cons_append, takeBytes, byteLength, if_pos (Nat.le_add_right _ _),
      Nat.add_sub_cancel_left, ih]

/-- What is left behind it is the rest. -/
@[simp] theorem dropBytes_append (a b : List Char) : dropBytes (byteLength a) (a ++ b) = b := by
  have h := takeBytes_append_dropBytes (byteLength a) (a ++ b)
  rw [takeBytes_append] at h
  exact List.append_cancel_left h

/-- A text has at least as many bytes as characters. -/
theorem length_le_byteLength (s : List Char) : s.length ≤ byteLength s := by
  induction s with
  | nil => exact Nat.le_refl 0
  | cons c s ih =>
    have := c.utf8Size_pos
    rw [List.length_cons, byteLength]
    omega

/-- A character has at least as many bytes as code units. -/
theorem unitWidth_le_utf8Size (c : Char) : unitWidth c ≤ c.utf8Size := by
  unfold unitWidth
  split
  · exact c.utf8Size_pos
  next hbig =>
    have hsmall : ¬ c.val ≤ 127 := by
      intro h
      rw [UInt32.le_iff_toNat_le] at h
      rw [UInt32.lt_iff_toNat_lt] at hbig
      exact hbig (Nat.lt_of_le_of_lt h (by decide))
    show 2 ≤ if c.val ≤ 127 then 1 else if c.val ≤ 2047 then 2 else if c.val ≤ 65535 then 3 else 4
    rw [if_neg hsmall]
    split
    · exact Nat.le_refl 2
    · split <;> decide

/-- A text has at least as many bytes as code units. -/
theorem unitLength_le_byteLength (s : List Char) : unitLength s ≤ byteLength s := by
  induction s with
  | nil => exact Nat.le_refl 0
  | cons c s ih => exact Nat.add_le_add (unitWidth_le_utf8Size c) ih

/-! ## Lines -/

/-- The lines behind the first, each after its line feed. -/
def following (rest : List (List Char)) : List Char := rest.flatMap ('\n' :: ·)

@[simp] theorem following_nil : following [] = [] := rfl

@[simp] theorem following_cons (line : List Char) (rest : List (List Char)) :
    following (line :: rest) = '\n' :: (line ++ following rest) := rfl

/-- **A text is its lines put together**: the first, and the others behind
their line feeds. -/
theorem exists_lines (text : List Char) :
    ∃ line rest, lines text = line :: rest ∧ text = line ++ following rest := by
  induction text with
  | nil => exact ⟨[], [], rfl, rfl⟩
  | cons c text ih =>
    obtain ⟨line, rest, hl, ht⟩ := ih
    rw [lines, hl]
    by_cases hc : c = '\n'
    · rw [if_pos hc, hc]
      exact ⟨[], line :: rest, rfl, congrArg _ ht⟩
    · rw [if_neg hc]
      exact ⟨c :: line, rest, rfl, congrArg _ ht⟩

@[simp] theorem lineStart_zero (ls : List (List Char)) : lineStart ls 0 = 0 := by
  rw [lineStart]

@[simp] theorem lineStart_cons_succ (line : List Char) (ls : List (List Char)) (n : Nat) :
    lineStart (line :: ls) (n + 1) = byteLength line + 1 + lineStart ls n := by
  rw [lineStart]

/-- There is a line feed for every line in front. -/
theorem le_lineStart {ls : List (List Char)} {n : Nat} (h : n ≤ ls.length) :
    n ≤ lineStart ls n := by
  induction ls generalizing n with
  | nil =>
    obtain rfl : n = 0 := Nat.le_zero.1 h
    exact Nat.le_refl 0
  | cons line ls ih =>
    cases n with
    | zero => exact Nat.zero_le _
    | succ n =>
      have := ih (Nat.le_of_succ_le_succ h)
      rw [lineStart_cons_succ]
      omega

/-- The bytes of a text by its lines. -/
theorem byteLength_following (rest : List (List Char)) :
    byteLength (following rest) = lineStart rest rest.length := by
  induction rest with
  | nil => rfl
  | cons line rest ih =>
    rw [following_cons, List.length_cons, lineStart_cons_succ, ← ih]
    show 1 + byteLength (line ++ following rest) = _
    rw [byteLength_append]
    omega

/-- A line ends before the lines do. -/
theorem lineStart_add_lt {ls : List (List Char)} {n : Nat} {line : List Char}
    (h : ls[n]? = some line) : lineStart ls n + byteLength line < lineStart ls ls.length := by
  induction ls generalizing n with
  | nil => exact absurd h (by simp)
  | cons first ls ih =>
    rw [List.length_cons, lineStart_cons_succ]
    cases n with
    | zero =>
      obtain rfl : first = line := by simpa using h
      rw [lineStart_zero]
      omega
    | succ n =>
      have := ih (show ls[n]? = some line by simpa using h)
      rw [lineStart_cons_succ]
      omega

/-- **A line lies within its text.** -/
theorem lineStart_add_le {text line : List Char} {n : Nat} (h : (lines text)[n]? = some line) :
    lineStart (lines text) n + byteLength line ≤ byteLength text := by
  obtain ⟨first, rest, hl, ht⟩ := exists_lines text
  have hlt := lineStart_add_lt h
  have htotal : byteLength text + 1 = lineStart (lines text) (lines text).length := by
    rw [hl, List.length_cons, lineStart_cons_succ, ← byteLength_following, ht, byteLength_append]
    omega
  omega

/-- No line has a line feed in it. -/
theorem newline_notMem_of_mem_lines {text line : List Char} (h : line ∈ lines text) :
    '\n' ∉ line := by
  induction text generalizing line with
  | nil =>
    obtain rfl := List.mem_singleton.1 h
    exact List.not_mem_nil
  | cons c rest ih =>
    rw [lines] at h
    split at h
    next =>
      rcases List.mem_cons.1 h with rfl | h
      · exact List.not_mem_nil
      · exact ih h
    next hc =>
      cases hl : lines rest with
      | nil => exact absurd hl (lines_ne_nil rest)
      | cons l ls =>
        rw [hl] at h ih
        rcases List.mem_cons.1 h with rfl | h
        · have hl' := ih List.mem_cons_self
          rw [List.mem_cons, not_or]
          exact ⟨fun e => hc e.symm, hl'⟩
        · exact ih (List.mem_cons_of_mem _ h)

/-- Going back through a part without line feeds. -/
theorem takeWhile_reverse_append {b : List Char} (h : '\n' ∉ b) (t : List Char) :
    (b.reverse ++ t).takeWhile (· != '\n') = b.reverse ++ t.takeWhile (· != '\n') := by
  refine List.takeWhile_append_of_pos (fun x hx => ?_)
  have hne : x ≠ '\n' := fun e => h (e ▸ List.mem_reverse.1 hx)
  simpa using hne

/-- A part without line feeds goes on the last line. -/
theorem lastLine_append (a : List Char) {b : List Char} (h : '\n' ∉ b) :
    lastLine (a ++ b) = lastLine a ++ b := by
  unfold lastLine
  rw [List.reverse_append, takeWhile_reverse_append h, List.reverse_append, List.reverse_reverse]

/-- Behind a line feed a new line starts. -/
theorem lastLine_append_newline (a : List Char) : lastLine (a ++ ['\n']) = [] := by
  unfold lastLine
  rw [List.reverse_append]
  rfl

/-- **The position behind a part of a text**: the line feeds in that part, and
the code units behind the last of them. -/
theorem positionAt_append (a b : List Char) :
    positionAt (a ++ b) (byteLength a)
      = ⟨UInt32.ofNat (a.count '\n'), UInt32.ofNat (unitLength (lastLine a))⟩ := by
  unfold positionAt
  rw [takeBytes_append]

/-- **The position behind a part of a line**, which starts behind `pre`. -/
theorem positionAt_line {pre line a b : List Char} (hpre : lastLine pre = [])
    (hline : '\n' ∉ line) (hcut : a ++ b = line) (post : List Char) :
    positionAt (pre ++ (line ++ post)) (byteLength pre + byteLength a)
      = ⟨UInt32.ofNat (pre.count '\n'), UInt32.ofNat (unitLength a)⟩ := by
  have ha : '\n' ∉ a := fun hmem => hline (hcut ▸ List.mem_append_left b hmem)
  rw [← hcut, List.append_assoc, ← byteLength_append, ← List.append_assoc, positionAt_append,
    lastLine_append pre ha, hpre, List.count_append, List.count_eq_zero_of_not_mem ha]
  rfl

end PcdCatalog.Text

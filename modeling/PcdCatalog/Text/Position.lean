import PcdCatalog.Text.Units

/-!
# Positions

A place in a text is either a byte offset or a `Position`: a zero-based line
and a zero-based column counted in UTF-16 code units, each a 32-bit number,
as editors exchange them. Lines end at line feeds only.

`positionAt` turns an offset into a position and `offsetAt` goes back. Both
are total: an offset past the end or inside a character moves back to the
nearest character boundary, a column past the end of its line moves back to
the line's end (before a closing carriage return), and a line past the last
one is the end of the text.
-/

namespace PcdCatalog

/-- **A zero-based line and UTF-16 column.** -/
structure Position where
  line : UInt32
  character : UInt32
deriving DecidableEq, Inhabited

namespace Position

/-- Lines first, then columns. -/
instance : Ord Position where
  compare := compareLex (compareOn line) (compareOn character)

instance : Std.TransOrd Position :=
  inferInstanceAs (Std.TransCmp (compareLex (compareOn line) (compareOn character)))

theorem compare_eq_lt_iff {p q : Position} :
    compare p q = .lt ↔ p.line < q.line ∨ p.line = q.line ∧ p.character < q.character := by
  show (compare p.line q.line).then (compare p.character q.character) = .lt ↔ _
  rw [Ordering.then_eq_lt, Std.compare_eq_lt, Std.compare_eq_lt, Std.compare_eq_iff_eq]

/-- People count from one. -/
def display (p : Position) : String :=
  toString (p.line + 1).toNat ++ ":" ++ toString (p.character + 1).toNat

end Position

namespace Text

/-- The lines of a text, without their line feeds. There is always a last
line, which may be empty. -/
def lines : List Char → List (List Char)
  | [] => [[]]
  | c :: rest =>
    if c = '\n' then [] :: lines rest
    else match lines rest with
      | [] => [[c]]
      | l :: ls => (c :: l) :: ls

/-- How many lines a text has. -/
def lineCount (text : List Char) : Nat := (lines text).length

/-- The part of a text after its last line feed. -/
def lastLine (text : List Char) : List Char :=
  (text.reverse.takeWhile (· != '\n')).reverse

/-- A line without the carriage returns that close it. -/
def trimReturns (line : List Char) : List Char :=
  (line.reverse.dropWhile (· == '\r')).reverse

/-- The position of a byte offset. -/
def positionAt (text : List Char) (offset : Nat) : Position :=
  let before := takeBytes offset text
  ⟨UInt32.ofNat (before.count '\n'), UInt32.ofNat (unitLength (lastLine before))⟩

/-- The bytes before line `n`: those of the earlier lines, each with its line
feed. -/
def lineStart : List (List Char) → Nat → Nat
  | _, 0 => 0
  | [], _ + 1 => 0
  | l :: ls, n + 1 => byteLength l + 1 + lineStart ls n

/-- The byte offset of a position. -/
def offsetAt (text : List Char) (p : Position) : Nat :=
  let ls := lines text
  match ls[p.line.toNat]? with
  | none => byteLength text
  | some line =>
    lineStart ls p.line.toNat
      + byteLength (takeUnits p.character.toNat (trimReturns line))

theorem lines_ne_nil (text : List Char) : lines text ≠ [] := by
  cases text with
  | nil => simp [lines]
  | cons c rest =>
    simp only [lines]
    split
    · simp
    · split <;> simp

/-- There is one line more than there are line feeds. -/
theorem lineCount_eq_count (text : List Char) : lineCount text = text.count '\n' + 1 := by
  induction text with
  | nil => rfl
  | cons c rest ih =>
    unfold lineCount at ih ⊢
    by_cases h : c = '\n'
    · subst h
      simp [lines, ih]
    · have hc : (c :: rest).count '\n' = rest.count '\n' := by
        simp [h]
      rw [hc, ← ih]
      simp only [lines, h, if_false]
      cases hl : lines rest with
      | nil => exact absurd hl (lines_ne_nil rest)
      | cons l ls => simp

end Text

end PcdCatalog

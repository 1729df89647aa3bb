/-!
# Sets of characters

A set of characters is a list of closed ranges of code points, ascending and
apart. Patterns are compiled to such sets, and the tables of character
properties are written as them: `CharSet.ofText` reads `"30-39 5F"` as the
digits and the underscore, in hexadecimal.
-/

namespace PcdCatalog

/-- **A set of characters**, as ascending ranges that do not touch. -/
structure CharSet where
  ranges : List (Nat × Nat)
deriving DecidableEq

namespace CharSet

/-- The largest code point. -/
def lastCode : Nat := 0x10FFFF

/-- Whether a code point lies in one of the ranges. The ranges ascend, so the
search ends at the first one that starts beyond it. -/
def holds (n : Nat) : List (Nat × Nat) → Bool
  | [] => false
  | (lo, hi) :: rest => if n < lo then false else if n ≤ hi then true else holds n rest

/-- Membership of a character. -/
def contains (s : CharSet) (c : Char) : Bool := holds c.toNat s.ranges

/-- Merge neighbours of a list of ranges that ascends by lower end. -/
def fuse : List (Nat × Nat) → List (Nat × Nat)
  | [] => []
  | [r] => [r]
  | (a, b) :: (c, d) :: rest =>
    if c ≤ b + 1 then fuse ((a, max b d) :: rest) else (a, b) :: fuse ((c, d) :: rest)
termination_by l => l.length

/-- The set of all ranges of a list, in any order. -/
def ofRanges (rs : List (Nat × Nat)) : CharSet :=
  ⟨fuse (rs.mergeSort (fun a b => a.1 ≤ b.1))⟩

/-- No character. -/
def empty : CharSet := ⟨[]⟩

/-- One character. -/
def single (c : Char) : CharSet := ⟨[(c.toNat, c.toNat)]⟩

/-- Every character. -/
def full : CharSet := ⟨[(0, lastCode)]⟩

/-- The characters of either set. -/
def union (s t : CharSet) : CharSet := ofRanges (s.ranges ++ t.ranges)

/-- The gaps from `start` up to the last code point. -/
def gaps (start : Nat) : List (Nat × Nat) → List (Nat × Nat)
  | [] => if start ≤ lastCode then [(start, lastCode)] else []
  | (lo, hi) :: rest =>
    if start < lo then (start, lo - 1) :: gaps (hi + 1) rest else gaps (hi + 1) rest

/-- The characters outside the set. -/
def compl (s : CharSet) : CharSet := ⟨gaps 0 s.ranges⟩

/-- The characters of both sets. -/
def inter (s t : CharSet) : CharSet := (s.compl.union t.compl).compl

/-- The characters of the first set outside the second. -/
def diff (s t : CharSet) : CharSet := s.inter t.compl

/-- The characters of exactly one of the sets. -/
def symmDiff (s t : CharSet) : CharSet := (s.union t).diff (s.inter t)

/-! ## Reading sets from text -/

/-- The value of a hexadecimal digit. -/
def hexValue? (c : Char) : Option Nat :=
  if c.isDigit then some (c.toNat - '0'.toNat)
  else if 'A' ≤ c ∧ c ≤ 'F' then some (c.toNat - 'A'.toNat + 10)
  else if 'a' ≤ c ∧ c ≤ 'f' then some (c.toNat - 'a'.toNat + 10)
  else none

/-- The number a text of hexadecimal digits writes; other characters do not
count. -/
def hexNumber (cs : List Char) : Nat :=
  cs.foldl (fun n c => match hexValue? c with
    | some d => 16 * n + d
    | none => n) 0

/-- Cut a text at its separators. -/
def cutAt (sep : Char → Bool) : List Char → List (List Char)
  | [] => [[]]
  | c :: rest =>
    if sep c then [] :: cutAt sep rest
    else match cutAt sep rest with
      | [] => [[c]]
      | w :: ws => (c :: w) :: ws

/-- One range, `"41-5A"` or `"5F"`. -/
def readRange (cs : List Char) : Nat × Nat :=
  match cutAt (· == '-') cs with
  | [lo, hi] => (hexNumber lo, hexNumber hi)
  | _ => (hexNumber cs, hexNumber cs)

/-- The set a table entry writes. Its ranges are written in ascending order,
with blanks and line ends between them. -/
def ofText (s : String) : CharSet :=
  ⟨((cutAt (fun c => c == ' ' || c == '\n') s.toList).filter (fun w => !w.isEmpty)).map readRange⟩

end CharSet

end PcdCatalog

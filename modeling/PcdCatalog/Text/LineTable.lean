import PcdCatalog.Text.Position

/-!
# The table of line starts

Positions are looked up in a table of the byte offsets at which the lines of a
text start. The table is made in one pass over the bytes. The line of an offset
is found by halving it, and the column by measuring the text from the start of
that line; the other way, the table gives the two ends of a line and a walk
along the line finds the column.

The look-ups work on bytes, and each of their steps can go wrong in its own way:
a step back from the very first byte, a subtraction below zero, an entry that
the table does not have, a part of the text that starts or ends inside a
character. All of this is checked here, and `none` is the answer of a look-up
that went wrong.
-/

namespace PcdCatalog.Text

/-! ## Bytes -/

/-- The bytes of a text. -/
def utf8 (text : List Char) : List UInt8 := text.flatMap String.utf8EncodeChar

/-- The byte of a line feed. -/
def lineFeed : UInt8 := 0x0A

/-- Whether a byte continues a character. -/
def continues (b : UInt8) : Bool := 0x80 ≤ b && b < 0xC0

/-- Whether a character starts at an offset, or the text ends there. -/
def isBoundary (bytes : List UInt8) (o : Nat) : Bool :=
  o == 0 || match bytes[o]? with
    | some b => !continues b
    | none => o == bytes.length

/-- Going back to a boundary, byte by byte. -/
def snapBack (bytes : List UInt8) : Nat → Option Nat
  | 0 => if isBoundary bytes 0 then some 0 else none
  | o + 1 => if isBoundary bytes (o + 1) then some (o + 1) else snapBack bytes o

/-- The part of a text between two offsets, both of them boundaries and the
first not behind the second. -/
def part? (text : List Char) (first past : Nat) : Option (List Char) :=
  if first ≤ past ∧ isBoundary (utf8 text) first ∧ isBoundary (utf8 text) past then
    some (takeBytes (past - first) (dropBytes first text))
  else none

/-- A difference that does not go below zero. -/
def less? (a b : Nat) : Option Nat := if b ≤ a then some (a - b) else none

/-! ## Halving -/

/-- How many entries pass a test, if those before `low` do and those from `high`
on do not. -/
def passingFrom (xs : Array Nat) (test : Nat → Bool) (low high : Nat) (h : high ≤ xs.size) : Nat :=
  if hlt : low < high then
    have hmid : low + (high - low) / 2 < xs.size := by omega
    if test xs[low + (high - low) / 2] then passingFrom xs test (low + (high - low) / 2 + 1) high h
    else passingFrom xs test low (low + (high - low) / 2) (Nat.le_of_lt hmid)
  else low
termination_by high - low

/-- How many entries pass a test that all entries fail from some place on. -/
def passing (xs : Array Nat) (test : Nat → Bool) : Nat :=
  passingFrom xs test 0 xs.size (Nat.le_refl _)

end PcdCatalog.Text

namespace PcdCatalog

/-! ## The table -/

/-- **Where the lines of a text start**, in bytes. -/
structure LineTable where
  starts : Array Nat

namespace LineTable

open Text

/-- The first line starts at once, and one more behind every line feed. -/
def ofText (text : List Char) : LineTable where
  starts := (0 :: ((utf8 text).zipIdx.filter (·.1 == lineFeed)).map (·.2 + 1)).toArray

/-- How many lines there are. -/
def lineCount (t : LineTable) : Nat := t.starts.size

/-- **Look up the position of an offset.** -/
def positionAt? (t : LineTable) (text : List Char) (offset : Nat) : Option Position := do
  let offset ← snapBack (utf8 text) (min offset (utf8 text).length)
  let line ← less? (passing t.starts (· ≤ offset)) 1
  let start ← t.starts[line]?
  let part ← part? text start offset
  return ⟨UInt32.ofNat line, UInt32.ofNat (unitLength part)⟩

/-- Where a line ends: in front of the line feed before the next one, and the
last line with the text. -/
def stop? (t : LineTable) (text : List Char) (line : Nat) : Option Nat :=
  match t.starts[line + 1]? with
  | some next => less? next 1
  | none => some (utf8 text).length

/-- A walk along a line, from `units` and `offset` on, up to a column. -/
def walk (column : Nat) : Nat → Nat → List Char → Nat
  | _, offset, [] => offset
  | units, offset, c :: rest =>
    if column ≤ units then offset else walk column (units + unitWidth c) (offset + c.utf8Size) rest

/-- **Look up the offset of a position.** -/
def offsetAt? (t : LineTable) (text : List Char) (p : Position) : Option Nat :=
  match t.starts[p.line.toNat]? with
  | none => some (utf8 text).length
  | some start => do
    let stop ← t.stop? text p.line.toNat
    let line ← part? text start stop
    return walk p.character.toNat 0 start (trimReturns line)

end LineTable

end PcdCatalog

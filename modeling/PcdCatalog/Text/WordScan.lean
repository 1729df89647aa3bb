import PcdCatalog.Text.LineTable
import PcdCatalog.Text.Word

/-!
# Scanning for a word

The word under a cursor is looked for among the bytes of a text. From the offset
of the cursor one scan goes back for as long as the byte in front is that of a
word character, and another one goes on for as long as the byte ahead is; what
lies between the two ends is cut out of the text.

A scan can leave the text, and a cut can start or end inside a character. As for
positions, this is checked, and a look-up that goes wrong answers `none`.
-/

namespace PcdCatalog.Text

/-- The bytes of ASCII letters, digits and the underscore. -/
def isWordByte (b : UInt8) : Bool :=
  (0x30 ≤ b && b ≤ 0x39) || (0x41 ≤ b && b ≤ 0x5A) || b == 0x5F || (0x61 ≤ b && b ≤ 0x7A)

/-- Going back from an offset, byte by byte, to where the word starts. -/
def scanBack? (bytes : List UInt8) : Nat → Option Nat
  | 0 => some 0
  | o + 1 =>
    match bytes[o]? with
    | none => none
    | some b => if isWordByte b then scanBack? bytes o else some (o + 1)

/-- Going on from an offset, byte by byte, to where the word ends. -/
def scanOn (bytes : List UInt8) (o : Nat) : Nat :=
  if h : o < bytes.length then if isWordByte bytes[o] then scanOn bytes (o + 1) else o else o
termination_by bytes.length - o

/-- Cut out the word around an offset, if there is one. -/
def scanWord? (text : List Char) (offset : Nat) : Option (Option (List Char)) := do
  let first ← scanBack? (utf8 text) offset
  let past := scanOn (utf8 text) offset
  if first < past then (part? text first past).map some else some none

end PcdCatalog.Text

namespace PcdCatalog

/-- **Look up the word under a cursor.** -/
def LineTable.wordAt? (t : LineTable) (text : List Char) (p : Position) :
    Option (Option (List Char)) :=
  (t.offsetAt? text p).bind (Text.scanWord? text)

end PcdCatalog

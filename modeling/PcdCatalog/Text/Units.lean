/-!
# Measures of a text

A text is a list of characters. It is measured in three ways: by characters,
by the bytes of its UTF-8 form, and by the code units of its UTF-16 form.
Offsets into a text count bytes, columns count code units, so both measures
come with the prefix that they cut off: `takeBytes` never goes past its
budget, `takeUnits` stops as soon as its budget is reached.
-/

namespace PcdCatalog.Text

/-- The UTF-16 code units of one character. -/
def unitWidth (c : Char) : Nat := if c.val < 0x10000 then 1 else 2

/-- The bytes of a text in UTF-8. -/
def byteLength : List Char → Nat
  | [] => 0
  | c :: rest => c.utf8Size + byteLength rest

/-- The code units of a text in UTF-16. -/
def unitLength : List Char → Nat
  | [] => 0
  | c :: rest => unitWidth c + unitLength rest

/-- The longest prefix of at most `n` bytes. A budget that ends inside a
character leaves that character out. -/
def takeBytes : Nat → List Char → List Char
  | _, [] => []
  | n, c :: rest => if c.utf8Size ≤ n then c :: takeBytes (n - c.utf8Size) rest else []

/-- What `takeBytes` leaves. -/
def dropBytes : Nat → List Char → List Char
  | _, [] => []
  | n, c :: rest => if c.utf8Size ≤ n then dropBytes (n - c.utf8Size) rest else c :: rest

/-- The shortest prefix of at least `n` code units, or everything. A budget
that ends inside a character takes that character in. -/
def takeUnits : Nat → List Char → List Char
  | _, [] => []
  | n, c :: rest => if n = 0 then [] else c :: takeUnits (n - unitWidth c) rest

@[simp] theorem byteLength_append (s t : List Char) :
    byteLength (s ++ t) = byteLength s + byteLength t := by
  induction s with
  | nil => simp [byteLength]
  | cons c s ih => simp [byteLength, ih, Nat.add_assoc]

@[simp] theorem unitLength_append (s t : List Char) :
    unitLength (s ++ t) = unitLength s + unitLength t := by
  induction s with
  | nil => simp [unitLength]
  | cons c s ih => simp [unitLength, ih, Nat.add_assoc]

/-- Cutting loses nothing. -/
@[simp] theorem takeBytes_append_dropBytes (n : Nat) (s : List Char) :
    takeBytes n s ++ dropBytes n s = s := by
  induction s generalizing n with
  | nil => rfl
  | cons c s ih =>
    simp only [takeBytes, dropBytes]
    split
    · simp [ih]
    · simp

/-- The cut stays within its budget. -/
theorem byteLength_takeBytes_le (n : Nat) (s : List Char) :
    byteLength (takeBytes n s) ≤ n := by
  induction s generalizing n with
  | nil => simp [takeBytes, byteLength]
  | cons c s ih =>
    simp only [takeBytes]
    split
    · have := ih (n - c.utf8Size)
      simp only [byteLength]
      omega
    · simp [byteLength]

end PcdCatalog.Text

/-!
# Decimal numbers in words

Numbers that a user types: decimal digits, with a plus in front if one likes.
Where a sign of either kind is allowed, a minus can only stand before zero.
-/

namespace PcdCatalog.Text

/-- The number that decimal digits write. -/
def digits? (cs : List Char) : Option Nat :=
  if cs.isEmpty || !cs.all Char.isDigit then none
  else some (cs.foldl (fun n c => 10 * n + (c.toNat - '0'.toNat)) 0)

/-- A number without a sign, or with a plus. -/
def unsigned? (cs : List Char) : Option Nat :=
  match cs with
  | '+' :: cs => digits? cs
  | cs => digits? cs

/-- A number with any sign; below zero there is none. -/
def signed? (cs : List Char) : Option Nat :=
  match cs with
  | '-' :: cs => (digits? cs).filter (· = 0)
  | cs => unsigned? cs

end PcdCatalog.Text

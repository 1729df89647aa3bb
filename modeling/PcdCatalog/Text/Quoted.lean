import PcdCatalog.Unicode.Class

/-!
# Quoted text

Paths in messages stand between double quotes, so that blanks at their ends
and characters that cannot be seen stay visible. A quote and a backslash are
escaped, line ends, tabs and the null character have short names, and any
other character that is not printable, or that would merge with the one
before it, is written by its code.
-/

namespace PcdCatalog.Text

/-- The characters that are written by their code: controls, formats, private
and unassigned ones, separators other than the blank, and those that extend
the character before them. -/
def unprintable : CharSet :=
  ((Unicode.categoriesOf ["Cc", "Cf", "Co", "Zs", "Zl", "Zp"]).union Unicode.assigned.compl).diff
    (CharSet.single ' ')
  |>.union ((Unicode.property? "graphemeextend").getD CharSet.empty)

/-- One character of a quoted text. -/
def quoteChar (c : Char) : List Char :=
  if c = '"' then ['\\', '"']
  else if c = '\\' then ['\\', '\\']
  else if c = '\n' then ['\\', 'n']
  else if c = '\r' then ['\\', 'r']
  else if c = '\t' then ['\\', 't']
  else if c.toNat = 0 then ['\\', '0']
  else if c.toNat < 128 && 32 ≤ c.toNat && c.toNat != 127 then [c]
  else if unprintable.contains c then
    '\\' :: 'u' :: '\x7b' :: Nat.toDigits 16 c.toNat ++ ['\x7d']
  else [c]

/-- A text between double quotes. -/
def quoted (s : String) : String :=
  "\"" ++ String.ofList (s.toList.flatMap quoteChar) ++ "\""

end PcdCatalog.Text

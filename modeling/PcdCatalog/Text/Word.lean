import PcdCatalog.Text.Position

/-!
# Words

A word is a run of ASCII letters, digits and underscores. Two ways of
finding one matter here: the word a cursor touches (`wordAt`), and the first
PCD name in running text (`definitionName`, `completionName`). A PCD name is
`Pcd` with the word characters that follow it; a name to be resolved needs at
least one, a name still being typed needs none.
-/

namespace PcdCatalog.Text

/-- ASCII letters, digits and the underscore. -/
def isWordChar (c : Char) : Bool := c.isAlphanum || c == '_'

/-- The word that ends or starts at, or contains, a byte offset. -/
def wordAround (text : List Char) (offset : Nat) : Option (List Char) :=
  let before := (takeBytes offset text).reverse.takeWhile isWordChar
  let after := (dropBytes offset text).takeWhile isWordChar
  match before.reverse ++ after with
  | [] => none
  | word => some word

/-- **The word under a cursor**, which a cursor right behind the word still
touches. -/
def wordAt (text : List Char) (p : Position) : Option (List Char) :=
  wordAround text (offsetAt text p)

/-- What follows `Pcd` at the head of a text. -/
def afterPcd : List Char → Option (List Char)
  | 'P' :: 'c' :: 'd' :: rest => some rest
  | _ => none

/-- The PCD name at the head of a text, if at least `least` word characters
follow its `Pcd`. -/
def nameAtHead (least : Nat) (text : List Char) : Option (List Char) :=
  (afterPcd text).bind fun rest =>
    let tail := rest.takeWhile isWordChar
    if least ≤ tail.length then some ('P' :: 'c' :: 'd' :: tail) else none

/-- The leftmost such name. -/
def findName (least : Nat) : List Char → Option (List Char)
  | [] => none
  | c :: rest => (nameAtHead least (c :: rest)).or (findName least rest)

/-- The first complete PCD name of a text. -/
def definitionName : List Char → Option (List Char) := findName 1

/-- The first PCD name of a text that may still be incomplete. -/
def completionName : List Char → Option (List Char) := findName 0

end PcdCatalog.Text

import PcdCatalog.Text.CharSet
import PcdCatalog.Unicode.Category
import PcdCatalog.Unicode.Script
import PcdCatalog.Unicode.Property

/-!
# Character classes by name

`classNamed?` finds the set that a name such as `L`, `Greek` or `White_Space`
stands for, and `classValued?` the set of a property with a value, such as
`Script=Greek`. Names are compared without case, blanks, hyphens and
underscores, and without a leading `is`. A bare name is a property first, then
a general category, then a script.
-/

namespace PcdCatalog.Unicode

/-- Word characters. -/
def word : CharSet := CharSet.ofText wordRanges

/-- Blank characters. -/
def space : CharSet := CharSet.ofText spaceRanges

/-- Decimal digits. -/
def digit : CharSet := CharSet.ofText digitRanges

/-- A name as it is compared. A lone `c` behind `is` stays apart from the
category `C`. -/
def looseName (name : String) : String :=
  let cs := name.toList.map Char.toLower
  let strip (l : List Char) :=
    l.filter (fun c => c != ' ' && c != '_' && c != '-' && c.toNat < 128)
  match cs with
  | 'i' :: 's' :: rest =>
    let r := strip rest
    if r = ['c'] then "isc" else String.ofList r
  | _ => String.ofList (strip cs)

/-- The two-letter categories under one name, for every name of a general
category or group of them. -/
def categoryNames : List (List String × List String) := [
  (["l", "letter"], ["Lu", "Ll", "Lt", "Lm", "Lo"]),
  (["lc", "casedletter"], ["Lu", "Ll", "Lt"]),
  (["lu", "uppercaseletter"], ["Lu"]),
  (["ll", "lowercaseletter"], ["Ll"]),
  (["lt", "titlecaseletter"], ["Lt"]),
  (["lm", "modifierletter"], ["Lm"]),
  (["lo", "otherletter"], ["Lo"]),
  (["m", "mark", "combiningmark"], ["Mn", "Mc", "Me"]),
  (["mn", "nonspacingmark"], ["Mn"]),
  (["mc", "spacingmark"], ["Mc"]),
  (["me", "enclosingmark"], ["Me"]),
  (["n", "number"], ["Nd", "Nl", "No"]),
  (["nd", "decimalnumber", "digit"], ["Nd"]),
  (["nl", "letternumber"], ["Nl"]),
  (["no", "othernumber"], ["No"]),
  (["p", "punctuation", "punct"], ["Pc", "Pd", "Ps", "Pe", "Pi", "Pf", "Po"]),
  (["pc", "connectorpunctuation"], ["Pc"]),
  (["pd", "dashpunctuation"], ["Pd"]),
  (["ps", "openpunctuation"], ["Ps"]),
  (["pe", "closepunctuation"], ["Pe"]),
  (["pi", "initialpunctuation"], ["Pi"]),
  (["pf", "finalpunctuation"], ["Pf"]),
  (["po", "otherpunctuation"], ["Po"]),
  (["s", "symbol"], ["Sm", "Sc", "Sk", "So"]),
  (["sm", "mathsymbol"], ["Sm"]),
  (["sc", "currencysymbol"], ["Sc"]),
  (["sk", "modifiersymbol"], ["Sk"]),
  (["so", "othersymbol"], ["So"]),
  (["z", "separator"], ["Zs", "Zl", "Zp"]),
  (["zs", "spaceseparator"], ["Zs"]),
  (["zl", "lineseparator"], ["Zl"]),
  (["zp", "paragraphseparator"], ["Zp"]),
  (["cc", "control", "cntrl"], ["Cc"]),
  (["cf", "format"], ["Cf"]),
  (["co", "privateuse"], ["Co"])]

/-- The union of some two-letter categories. -/
def categoriesOf (names : List String) : CharSet :=
  CharSet.ofRanges ((categoryRanges.filter (fun r => names.contains r.1)).flatMap
    (fun r => (CharSet.ofText r.2).ranges))

/-- Every assigned character. -/
def assigned : CharSet := categoriesOf (categoryRanges.map Prod.fst)

/-- The general category, or group of categories, of a loose name. -/
def category? (loose : String) : Option CharSet :=
  match loose with
  | "any" => some CharSet.full
  | "ascii" => some (CharSet.ofText "0-7F")
  | "assigned" => some assigned
  | "cn" | "unassigned" => some assigned.compl
  | "c" | "other" => some ((categoriesOf ["Cc", "Cf", "Co"]).union assigned.compl)
  | _ => (categoryNames.find? (fun r => r.1.contains loose)).map (fun r => categoriesOf r.2)

/-- The script of a loose name. -/
def script? (loose : String) : Option CharSet :=
  (scriptRanges.find? (fun r => r.1.contains loose)).map (fun r => CharSet.ofText r.2)

/-- The property of a loose name. -/
def property? (loose : String) : Option CharSet :=
  (propertyRanges.find? (fun r => r.1.contains loose)).map (fun r => CharSet.ofText r.2)

/-- The class a bare name stands for. -/
def classNamed? (name : String) : Option CharSet :=
  let loose := looseName name
  (property? loose).or ((category? loose).or (script? loose))

/-- The class of a property with a value. -/
def classValued? (property value : String) : Option CharSet :=
  match looseName property with
  | "gc" | "generalcategory" | "category" => category? (looseName value)
  | "sc" | "script" => script? (looseName value)
  | _ => none

/-- Letters, in the sense a group name may start with one. -/
def isAlphabetic (c : Char) : Bool :=
  if c.toNat < 128 then c.isAlpha else ((property? "alphabetic").getD CharSet.empty).contains c

/-- Letters and numbers. -/
def isAlphanumeric (c : Char) : Bool :=
  if c.toNat < 128 then c.isAlphanum
  else isAlphabetic c || (categoriesOf ["Nd", "Nl", "No"]).contains c

/-- Blank characters, ASCII or not. -/
def isSpace (c : Char) : Bool := space.contains c

end PcdCatalog.Unicode

import PcdCatalog.Data

/-!
# JSON

`Json.parse?` reads a JSON text and `Json.render` writes one. Numbers without
a fraction and an exponent are whole numbers of any size; other numbers keep
their spelling. Surrogates have to come in pairs, and values nest at most 127
deep.

Every reader returns the text that is left, and the `fuel` of those that call
each other bounds their nesting and the number of items by the length of the
text.
-/

namespace PcdCatalog.Json

/-- The characters between tokens. -/
def isBlank (c : Char) : Bool := c = ' ' || c = '\t' || c = '\n' || c = '\r'

/-- The text without blanks at its beginning. -/
def skip (cs : List Char) : List Char := cs.dropWhile isBlank

/-- The value of a hexadecimal digit. -/
def hexDigit? (c : Char) : Option Nat :=
  if '0' ≤ c ∧ c ≤ '9' then some (c.toNat - '0'.toNat)
  else if 'a' ≤ c ∧ c ≤ 'f' then some (c.toNat - 'a'.toNat + 10)
  else if 'A' ≤ c ∧ c ≤ 'F' then some (c.toNat - 'A'.toNat + 10)
  else none

/-- Four hexadecimal digits. -/
def hex4? : List Char → Option (Nat × List Char)
  | a :: b :: c :: d :: rest => do
    let a ← hexDigit? a
    let b ← hexDigit? b
    let c ← hexDigit? c
    let d ← hexDigit? d
    return (((a * 16 + b) * 16 + c) * 16 + d, rest)
  | _ => none

/-- The character behind `\u`, which may take a second escape. -/
def unicode? (cs : List Char) : Option (Char × List Char) := do
  let (n, rest) ← hex4? cs
  if 0xD800 ≤ n ∧ n < 0xDC00 then
    match rest with
    | '\\' :: 'u' :: rest => do
      let (m, rest) ← hex4? rest
      if 0xDC00 ≤ m ∧ m < 0xE000 then
        return (Char.ofNat (0x10000 + (n - 0xD800) * 0x400 + (m - 0xDC00)), rest)
      else none
    | _ => none
  else if 0xDC00 ≤ n ∧ n < 0xE000 then none
  else return (Char.ofNat n, rest)

/-- A text behind its opening quote. -/
def string? : Nat → List Char → List Char → Option (String × List Char)
  | 0, _, _ => none
  | fuel + 1, acc, cs =>
    let take (c : Char) (rest : List Char) := string? fuel (c :: acc) rest
    match cs with
    | [] => none
    | '"' :: rest => some (String.ofList acc.reverse, rest)
    | '\\' :: '"' :: rest => take '"' rest
    | '\\' :: '\\' :: rest => take '\\' rest
    | '\\' :: '/' :: rest => take '/' rest
    | '\\' :: 'b' :: rest => take '\x08' rest
    | '\\' :: 'f' :: rest => take '\x0c' rest
    | '\\' :: 'n' :: rest => take '\n' rest
    | '\\' :: 'r' :: rest => take '\r' rest
    | '\\' :: 't' :: rest => take '\t' rest
    | '\\' :: 'u' :: rest => do
      let (c, rest) ← unicode? rest
      take c rest
    | c :: rest => if c = '\\' ∨ c.toNat < 0x20 then none else take c rest

/-- Digits, and what follows them. -/
def digits (cs : List Char) : List Char × List Char :=
  (cs.takeWhile Char.isDigit, cs.dropWhile Char.isDigit)

/-- The value of decimal digits. -/
def decimal (ds : List Char) : Nat := ds.foldl (fun n c => 10 * n + (c.toNat - '0'.toNat)) 0

/-- The fraction of a number, if there is one. -/
def fraction? : List Char → Option (List Char × List Char)
  | '.' :: rest =>
    let (ds, rest) := digits rest
    if ds.isEmpty then none else some ('.' :: ds, rest)
  | rest => some ([], rest)

/-- The exponent of a number, if there is one. -/
def exponent? : List Char → Option (List Char × List Char)
  | c :: rest =>
    if c = 'e' ∨ c = 'E' then
      let (sign, rest) := match rest with
        | '+' :: t => (['+'], t)
        | '-' :: t => (['-'], t)
        | t => ([], t)
      let (ds, rest) := digits rest
      if ds.isEmpty then none else some ('e' :: sign ++ ds, rest)
    else some ([], c :: rest)
  | [] => some ([], [])

/-- A number. -/
def number? (cs : List Char) : Option (Data × List Char) := do
  let (negative, rest) := match cs with
    | '-' :: t => (true, t)
    | t => (false, t)
  let (ds, rest) := digits rest
  if ds.isEmpty ∨ (ds.length > 1 ∧ ds.head? = some '0') then none
  let (frac, rest) ← fraction? rest
  let (exp, rest) ← exponent? rest
  if frac.isEmpty && exp.isEmpty then
    let n : Int := decimal ds
    return (.integer (if negative then -n else n), rest)
  else
    return (.real (String.ofList ((if negative then ['-'] else []) ++ ds ++ frac ++ exp)), rest)

/-- What is left behind a fixed word. -/
def word? : List Char → List Char → Option (List Char)
  | [], rest => some rest
  | w :: ws, c :: rest => if w = c then word? ws rest else none
  | _ :: _, [] => none

/-- How deep values may nest. -/
def depthLimit : Nat := 127

mutual

/-- A value. -/
def value? : Nat → Nat → List Char → Option (Data × List Char)
  | 0, _, _ => none
  | fuel + 1, depth, cs =>
    match skip cs with
    | [] => none
    | '"' :: rest => (string? (rest.length + 1) [] rest).map fun (s, r) => (.text s, r)
    | '[' :: rest =>
      if depth = 0 then none
      else match skip rest with
        | ']' :: rest => some (.list [], rest)
        | rest => items? fuel (depth - 1) [] rest
    | '\x7b' :: rest =>
      if depth = 0 then none
      else match skip rest with
        | '\x7d' :: rest => some (.record [], rest)
        | rest => members? fuel (depth - 1) [] rest
    | 't' :: rest => (word? ['r', 'u', 'e'] rest).map fun r => (.bool true, r)
    | 'f' :: rest => (word? ['a', 'l', 's', 'e'] rest).map fun r => (.bool false, r)
    | 'n' :: rest => (word? ['u', 'l', 'l'] rest).map fun r => (.null, r)
    | cs => number? cs

/-- The items of a list, from the next one on. -/
def items? : Nat → Nat → List Data → List Char → Option (Data × List Char)
  | 0, _, _, _ => none
  | fuel + 1, depth, acc, cs => do
    let (d, rest) ← value? fuel depth cs
    match skip rest with
    | ',' :: rest => items? fuel depth (d :: acc) rest
    | ']' :: rest => some (.list (d :: acc).reverse, rest)
    | _ => none

/-- The members of a record, from the next one on. -/
def members? : Nat → Nat → List (String × Data) → List Char → Option (Data × List Char)
  | 0, _, _, _ => none
  | fuel + 1, depth, acc, cs =>
    match skip cs with
    | '"' :: rest => do
      let (name, rest) ← string? (rest.length + 1) [] rest
      match skip rest with
      | ':' :: rest => do
        let (d, rest) ← value? fuel depth rest
        match skip rest with
        | ',' :: rest => members? fuel depth ((name, d) :: acc) rest
        | '\x7d' :: rest => some (.record ((name, d) :: acc).reverse, rest)
        | _ => none
      | _ => none
    | _ => none

end

/-- **Read a JSON text.** -/
def parse? (s : String) : Option Data :=
  let cs := s.toList
  match value? (2 * cs.length + 2) depthLimit cs with
  | some (d, rest) => if (skip rest).isEmpty then some d else none
  | none => none

/-! ## Writing -/

/-- Two hexadecimal digits. -/
def hexPair (n : Nat) : List Char := [Nat.digitChar (n / 16), Nat.digitChar (n % 16)]

/-- A character of a text. -/
def escape (c : Char) : List Char :=
  if c = '"' then ['\\', '"']
  else if c = '\\' then ['\\', '\\']
  else if c = '\n' then ['\\', 'n']
  else if c = '\r' then ['\\', 'r']
  else if c = '\t' then ['\\', 't']
  else if c.toNat < 0x20 then '\\' :: 'u' :: '0' :: '0' :: hexPair c.toNat
  else [c]

/-- A text in quotes. -/
def quote (s : String) : String := "\"" ++ String.ofList (s.toList.flatMap escape) ++ "\""

mutual

/-- **Write a value** without blanks. -/
def render : Data → String
  | .null => "null"
  | .bool true => "true"
  | .bool false => "false"
  | .integer i => toString i
  | .real s => s
  | .text s | .moment s => quote s
  | .list items => "[" ++ String.intercalate "," (renderItems items) ++ "]"
  | .record fields => "\x7b" ++ String.intercalate "," (renderFields fields) ++ "\x7d"

/-- The items of a list. -/
def renderItems : List Data → List String
  | [] => []
  | d :: ds => render d :: renderItems ds

/-- The members of a record. -/
def renderFields : List (String × Data) → List String
  | [] => []
  | (name, d) :: fs => (quote name ++ ":" ++ render d) :: renderFields fs

end

end PcdCatalog.Json

import PcdCatalog.Data.Json

/-!
# TOML

`Toml.parse?` reads a TOML document into a record. Reading a line and placing
it in the document are kept apart: the readers below go from text to keys and
values, and `Tree` knows which tables may still be extended. A table that a
header only passed through may get a header of its own later; a table made by
dotted keys, an inline table and one that has had its header may not.

Keys and values nest at most 79 deep.
-/

namespace PcdCatalog.Toml

/-- How deep keys and values may nest. -/
def depthLimit : Nat := 80

/-! ## Characters -/

/-- Blanks within a line. -/
def isBlank (c : Char) : Bool := c = ' ' || c = '\t'

/-- The text without blanks at its beginning. -/
def skip (cs : List Char) : List Char := cs.dropWhile isBlank

/-- The characters of a comment: no controls but the tab. -/
def isCommentChar (c : Char) : Bool := c = '\t' || (c.toNat ≥ 0x20 && c.toNat != 0x7F)

/-- The characters that stand for themselves in a quoted text. -/
def isPlain (quote c : Char) : Bool := isCommentChar c && c != quote

/-- The characters of a bare key. -/
def isBareKeyChar (c : Char) : Bool := c.isAlphanum || c = '-' || c = '_'

/-- What follows the end of a line. -/
def newline? : List Char → Option (List Char)
  | '\n' :: rest => some rest
  | '\r' :: '\n' :: rest => some rest
  | _ => none

/-- The text behind a comment, which starts here or not at all. -/
def skipComment : List Char → List Char
  | '#' :: rest => rest.dropWhile isCommentChar
  | cs => cs

/-- The rest of a line has to be blank, up to a comment. -/
def lineEnd? (cs : List Char) : Option (List Char) :=
  match skipComment (skip cs) with
  | [] => some []
  | rest => newline? rest

/-- Drop blanks, line ends and comments. -/
def skipLines : Nat → List Char → List Char
  | 0, cs => cs
  | fuel + 1, cs =>
    match skipComment (skip cs) with
    | rest =>
      match newline? rest with
      | some rest => skipLines fuel rest
      | none => rest

/-! ## Texts -/

/-- Hexadecimal digits, exactly as many as asked for. -/
def hex? : Nat → Nat → List Char → Option (Nat × List Char)
  | 0, n, cs => some (n, cs)
  | k + 1, n, c :: cs => (Json.hexDigit? c).bind fun d => hex? k (16 * n + d) cs
  | _ + 1, _, [] => none

/-- A character by its code. -/
def codePoint? (digits : Nat) (cs : List Char) : Option (Char × List Char) := do
  let (n, rest) ← hex? digits 0 cs
  if h : n.isValidChar then some (Char.ofNatAux n h, rest) else none

/-- What a backslash and the characters behind it stand for. -/
def escape? : List Char → Option (Char × List Char)
  | 'b' :: rest => some ('\x08', rest)
  | 't' :: rest => some ('\t', rest)
  | 'n' :: rest => some ('\n', rest)
  | 'f' :: rest => some ('\x0c', rest)
  | 'r' :: rest => some ('\r', rest)
  | '"' :: rest => some ('"', rest)
  | '\\' :: rest => some ('\\', rest)
  | 'u' :: rest => codePoint? 4 rest
  | 'U' :: rest => codePoint? 8 rest
  | _ => none

/-- A text in double quotes behind its opening quote. -/
def basic? : Nat → List Char → List Char → Option (String × List Char)
  | 0, _, _ => none
  | fuel + 1, acc, cs =>
    match cs with
    | [] => none
    | '"' :: rest => some (String.ofList acc.reverse, rest)
    | '\\' :: rest => (escape? rest).bind fun (c, rest) => basic? fuel (c :: acc) rest
    | c :: rest => if isPlain '"' c then basic? fuel (c :: acc) rest else none

/-- A text in single quotes behind its opening quote. -/
def literal? (cs : List Char) : Option (String × List Char) :=
  match cs.dropWhile (isPlain '\'') with
  | '\'' :: rest => some (String.ofList (cs.takeWhile (isPlain '\'')), rest)
  | _ => none

/-- The line end behind a backslash, with the blanks around it and the blank
lines that follow. -/
def foldedLines? (cs : List Char) : Option (List Char) :=
  (newline? (skip cs)).map fun rest => blanks (rest.length + 1) rest
where
  /-- Drop blanks and line ends. -/
  blanks : Nat → List Char → List Char
    | 0, cs => cs
    | fuel + 1, cs =>
      match newline? (skip cs) with
      | some rest => blanks fuel rest
      | none => skip cs

/-- A text of several lines behind its three opening quotes. A run of up to two
quotes belongs to the text; the three that close it may have up to two before
them. Only double quotes allow escapes. -/
def multiline? (quote : Char) : Nat → List Char → List Char → Option (String × List Char)
  | 0, _, _ => none
  | fuel + 1, acc, cs =>
    match cs with
    | [] => none
    | c :: rest =>
      if c = quote then
        let run := (cs.takeWhile (· == quote)).length
        if run < 3 then
          multiline? quote fuel (List.replicate run quote ++ acc) (cs.drop run)
        else
          let inside := min (run - 3) 2
          some (String.ofList (List.replicate inside quote ++ acc).reverse, cs.drop (inside + 3))
      else if c = '\\' ∧ quote = '"' then
        match foldedLines? rest with
        | some rest => multiline? quote fuel acc rest
        | none => (escape? rest).bind fun (c, rest) => multiline? quote fuel (c :: acc) rest
      else if isPlain quote c then multiline? quote fuel (c :: acc) rest
      else match newline? cs with
        | some rest => multiline? quote fuel ('\n' :: acc) rest
        | none => none

/-- A text of several lines; a line end right behind the quotes is dropped. -/
def multilineText? (quote : Char) (cs : List Char) : Option (String × List Char) :=
  let cs := (newline? cs).getD cs
  multiline? quote (cs.length + 1) [] cs

/-- A text of one line. -/
def lineText? : List Char → Option (String × List Char)
  | '"' :: rest => basic? (rest.length + 1) [] rest
  | '\'' :: rest => literal? rest
  | _ => none

/-- A text of any kind. -/
def text? : List Char → Option (String × List Char)
  | '"' :: '"' :: '"' :: rest => multilineText? '"' rest
  | '\'' :: '\'' :: '\'' :: rest => multilineText? '\'' rest
  | cs => lineText? cs

/-! ## Keys -/

/-- One part of a key. -/
def keyPart? (cs : List Char) : Option (String × List Char) :=
  match cs with
  | '"' :: _ | '\'' :: _ => lineText? cs
  | _ =>
    let name := cs.takeWhile isBareKeyChar
    if name.isEmpty then none else some (String.ofList name, cs.dropWhile isBareKeyChar)

/-- The parts of a dotted key, with blanks around them. -/
def keyParts? : Nat → List String → List Char → Option (List String × List Char)
  | 0, _, _ => none
  | fuel + 1, acc, cs => do
    let (part, rest) ← keyPart? (skip cs)
    match skip rest with
    | '.' :: rest => keyParts? fuel (part :: acc) rest
    | rest => some ((part :: acc).reverse, rest)

/-- A key. -/
def key? (cs : List Char) : Option (List String × List Char) := do
  let (parts, rest) ← keyParts? (cs.length + 1) [] cs
  if parts.length < depthLimit then some (parts, rest) else none

/-! ## Numbers -/

/-- Digits of a kind, with single underscores between them. -/
def digits (isDigit : Char → Bool) : List Char → List Char × List Char
  | [] => ([], [])
  | c :: cs =>
    if isDigit c then
      let (ds, rest) := more cs
      (c :: ds, rest)
    else ([], c :: cs)
where
  /-- The digits behind the first one. -/
  more : List Char → List Char × List Char
    | '_' :: c :: cs =>
      if isDigit c then
        let (ds, rest) := more cs
        (c :: ds, rest)
      else ([], '_' :: c :: cs)
    | c :: cs =>
      if isDigit c then
        let (ds, rest) := more cs
        (c :: ds, rest)
      else ([], c :: cs)
    | [] => ([], [])

/-- A sign. -/
def sign : List Char → Bool × List Char
  | '+' :: rest => (false, rest)
  | '-' :: rest => (true, rest)
  | rest => (false, rest)

/-- The digits of a decimal number, which begin with a zero only if there is no
other. -/
def decimalDigits? (cs : List Char) : Option (List Char × List Char) :=
  match cs with
  | '0' :: rest => some (['0'], rest)
  | _ =>
    let (ds, rest) := digits Char.isDigit cs
    if ds.isEmpty then none else some (ds, rest)

/-- The value of digits to a base. -/
def valueOf (base : Nat) (ds : List Char) : Nat :=
  ds.foldl (fun n c => base * n + (Json.hexDigit? c).getD 0) 0

/-- A whole number of 64 bits with a sign. -/
def integerOf? (negative : Bool) (n : Nat) : Option Data :=
  if negative then (if n ≤ 0x8000000000000000 then some (.integer (-(n : Int))) else none)
  else (if n < 0x8000000000000000 then some (.integer n) else none)

/-- A whole number in a base other than ten. -/
def based? (base : Nat) (isDigit : Char → Bool) (cs : List Char) : Option (Data × List Char) :=
  let (ds, rest) := digits isDigit cs
  if ds.isEmpty then none
  else (integerOf? false (valueOf base ds)).map fun d => (d, rest)

/-- A whole number. -/
def integer? : List Char → Option (Data × List Char)
  | '0' :: 'x' :: rest => based? 16 (fun c => (Json.hexDigit? c).isSome) rest
  | '0' :: 'o' :: rest => based? 8 (fun c => '0' ≤ c && c ≤ '7') rest
  | '0' :: 'b' :: rest => based? 2 (fun c => c = '0' || c = '1') rest
  | cs => do
    let (negative, rest) := sign cs
    let (ds, rest) ← decimalDigits? rest
    let d ← integerOf? negative (valueOf 10 ds)
    return (d, rest)

/-- The fraction of a number; the outer `none` means that it is malformed. -/
def fraction? : List Char → Option (Option (List Char) × List Char)
  | '.' :: rest =>
    let (ds, rest) := digits Char.isDigit rest
    if ds.isEmpty then none else some (some ds, rest)
  | rest => some (none, rest)

/-- The exponent of a number, likewise. -/
def exponent? : List Char → Option (Option Int × List Char)
  | c :: rest =>
    if c = 'e' ∨ c = 'E' then
      let (negative, rest) := sign rest
      let (ds, rest) := digits Char.isDigit rest
      if ds.isEmpty then none
      else
        let n : Int := valueOf 10 ds
        some (some (if negative then -n else n), rest)
    else some (none, c :: rest)
  | [] => some (none, [])

/-- The least number that rounds to none of 64-bit floating point. -/
def floatBound : Nat := Nat.pow 2 1024 - Nat.pow 2 970

/-- Whether the digits, with an exponent of ten, are beyond the largest number
of 64-bit floating point. -/
def overflows (ds : List Char) (exponent : Int) : Bool :=
  let n := valueOf 10 ds
  if n = 0 then false
  else if exponent < 0 then
    if exponent.natAbs > ds.length then false
    else n ≥ floatBound * Nat.pow 10 exponent.natAbs
  else if exponent > 310 then true
  else n * Nat.pow 10 exponent.natAbs ≥ floatBound

/-- A number with a fraction or an exponent. It is refused if it is too large,
and so is a malformed one. The outer `none` means that this is no such
number. -/
def real? (cs : List Char) : Option (Option (Data × List Char)) := do
  let (negative, rest) := sign cs
  let (ds, rest) ← decimalDigits? rest
  match rest with
  | c :: _ =>
    if c = '.' ∨ c = 'e' ∨ c = 'E' then
      some (do
        let (frac, rest) ← fraction? rest
        let (exp, rest) ← exponent? rest
        let fs := frac.getD []
        let e : Int := exp.getD 0 - fs.length
        if !negative && overflows (ds ++ fs) e then none
        else some (.real (String.ofList (cs.take (cs.length - rest.length))), rest))
    else none
  | [] => none

/-! ## Dates and times -/

/-- Decimal digits, exactly as many as asked for. -/
def fixed? : Nat → Nat → List Char → Option (Nat × List Char)
  | 0, n, cs => some (n, cs)
  | k + 1, n, c :: cs =>
    if c.isDigit then fixed? k (10 * n + (c.toNat - '0'.toNat)) cs else none
  | _ + 1, _, [] => none

/-- Two digits between bounds. -/
def pair? (least most : Nat) (cs : List Char) : Option (Nat × List Char) := do
  let (n, rest) ← fixed? 2 0 cs
  if least ≤ n ∧ n ≤ most then some (n, rest) else none

/-- What follows a fixed character. -/
def mark? (c : Char) : List Char → Option (List Char)
  | d :: rest => if c = d then some rest else none
  | [] => none

/-- The days of a month. -/
def monthDays (year month : Nat) : Nat :=
  if month = 2 then
    if year % 4 = 0 ∧ (year % 100 ≠ 0 ∨ year % 400 = 0) then 29 else 28
  else if month = 4 ∨ month = 6 ∨ month = 9 ∨ month = 11 then 30
  else 31

/-- A day. -/
def date? (cs : List Char) : Option (List Char) := do
  let (year, rest) ← fixed? 4 0 cs
  let rest ← mark? '-' rest
  let (month, rest) ← pair? 1 12 rest
  let rest ← mark? '-' rest
  let (day, rest) ← pair? 1 31 rest
  if day ≤ monthDays year month then some rest else none

/-- A time of day. -/
def time? (cs : List Char) : Option (List Char) := do
  let (_, rest) ← pair? 0 23 cs
  let rest ← mark? ':' rest
  let (_, rest) ← pair? 0 59 rest
  let rest ← mark? ':' rest
  let (_, rest) ← pair? 0 60 rest
  match rest with
  | '.' :: c :: tail => if c.isDigit then some (tail.dropWhile Char.isDigit) else some rest
  | _ => some rest

/-- The distance of a time zone. -/
def offset? : List Char → Option (List Char)
  | 'Z' :: rest | 'z' :: rest => some rest
  | '+' :: rest | '-' :: rest => do
    let (_, rest) ← pair? 0 23 rest
    let rest ← mark? ':' rest
    let (_, rest) ← pair? 0 59 rest
    return rest
  | _ => none

/-- A time behind a day, with a time zone or not. -/
def timeOfDay? : List Char → Option (List Char)
  | c :: rest =>
    if c = 'T' ∨ c = 't' ∨ c = ' ' then
      (time? rest).map fun rest => (offset? rest).getD rest
    else none
  | [] => none

/-- A day, a time, or both. -/
def moment? (cs : List Char) : Option (Data × List Char) :=
  let rest? := match date? cs with
    | some rest => some ((timeOfDay? rest).getD rest)
    | none => time? cs
  rest?.map fun rest => (.moment (String.ofList (cs.take (cs.length - rest.length))), rest)

/-! ## Tables -/

/-- **A document while it is being read.** -/
inductive Tree where
  | leaf (value : Data)
  /-- A table. It is implied as long as it had no header and no key of its own
  text; it is dotted if dotted keys made it. -/
  | table (implied dotted : Bool) (fields : List (String × Tree))
  /-- A list of tables, each under a header. -/
  | rows (tables : List Tree)
deriving Inhabited

namespace Tree

/-- The subtree under a name. -/
def find? (name : String) (fields : List (String × Tree)) : Option Tree :=
  (fields.find? fun f => f.1 == name).map Prod.snd

/-- The fields with another subtree under a name. -/
def set (name : String) (t : Tree) : List (String × Tree) → List (String × Tree)
  | [] => [(name, t)]
  | f :: fields => if f.1 == name then (name, t) :: fields else f :: set name t fields

/-- Change the table at the end of a path, making the tables on the way. Dotted
keys may pass only through tables that are implied. -/
def within (dotted : Bool) (change : Tree → Option Tree) : List String → Tree → Option Tree
  | [], t => change t
  | k :: ks, .table i d fields =>
    match find? k fields with
    | none =>
      (within dotted change ks (.table true dotted [])).map fun t =>
        .table i d (set k t fields)
    | some (.leaf _) => none
    | some (.table ci cd cf) =>
      if dotted && !ci then none
      else
        (within dotted change ks (.table ci cd cf)).map fun t => .table i d (set k t fields)
    | some (.rows ts) =>
      match ts.getLast? with
      | none => none
      | some last =>
        (within dotted change ks last).map fun t =>
          .table i d (set k (.rows (ts.dropLast ++ [t])) fields)
  | _ :: _, _ => none

/-- Put a value under a key of a table. -/
def put (path : List String) (name : String) (v : Tree) : Tree → Option Tree :=
  within true (fun
    | .table i d fields =>
      if d == path.isEmpty || (find? name fields).isSome then none
      else some (.table i d (fields ++ [(name, v)]))
    | _ => none) path

/-- Put a value under a dotted key of a table. -/
def putKey (key : List String) (v : Tree) (t : Tree) : Option Tree :=
  match key.getLast? with
  | none => none
  | some name => put key.dropLast name v t

/-- Open the table of a header. -/
def header (key : List String) (root : Tree) : Option Tree :=
  match key.getLast? with
  | none => none
  | some name =>
    within false (fun
      | .table i d fields =>
        match find? name fields with
        | none => some (.table i d (set name (.table false false []) fields))
        | some (.table true false cf) => some (.table i d (set name (.table false false cf) fields))
        | some _ => none
      | _ => none) key.dropLast root

/-- Begin a new row of a list of tables. -/
def rowHeader (key : List String) (root : Tree) : Option Tree :=
  match key.getLast? with
  | none => none
  | some name =>
    within false (fun
      | .table i d fields =>
        match find? name fields with
        | none => some (.table i d (set name (.rows [.table false false []]) fields))
        | some (.rows ts) =>
          some (.table i d (set name (.rows (ts ++ [.table false false []])) fields))
        | some _ => none
      | _ => none) key.dropLast root

mutual

/-- The data of a tree. -/
def data : Tree → Data
  | leaf v => v
  | table _ _ fields => .record (dataFields fields)
  | rows ts => .list (dataRows ts)

/-- The data of the fields of a table. -/
def dataFields : List (String × Tree) → List (String × Data)
  | [] => []
  | (name, t) :: fields => (name, data t) :: dataFields fields

/-- The data of rows. -/
def dataRows : List Tree → List Data
  | [] => []
  | t :: ts => data t :: dataRows ts

end

end Tree

/-! ## Values -/

/-- A word, and the value it stands for. -/
def word? (cs : List Char) : Option (Data × List Char) :=
  let is (w : String) (d : Data) := (Json.word? w.toList cs).map fun r => (d, r)
  (is "true" (.bool true)).or ((is "false" (.bool false)).or ((is "inf" (.real "inf")).or
    ((is "nan" (.real "nan")).or ((is "+inf" (.real "inf")).or ((is "-inf" (.real "-inf")).or
      ((is "+nan" (.real "nan")).or (is "-nan" (.real "nan"))))))))

/-- A number, a date or a time. -/
def number? (cs : List Char) : Option (Data × List Char) :=
  match moment? cs with
  | some r => some r
  | none =>
    match real? cs with
    | some r => r
    | none => integer? cs

mutual

/-- A value. -/
def value? : Nat → Nat → List Char → Option (Data × List Char)
  | 0, _, _ => none
  | fuel + 1, depth, cs =>
    match cs with
    | '"' :: _ | '\'' :: _ => (text? cs).map fun (s, r) => (.text s, r)
    | '[' :: rest => if depth + 1 < depthLimit then items? fuel (depth + 1) [] rest else none
    | '\x7b' :: rest =>
      if depth + 1 < depthLimit then
        match skip rest with
        | '\x7d' :: rest => some (.record [], rest)
        | rest => pairs? fuel (depth + 1) (.table false false []) rest
      else none
    | _ => (word? cs).or (number? cs)

/-- The items of a list, from the next one on. -/
def items? : Nat → Nat → List Data → List Char → Option (Data × List Char)
  | 0, _, _, _ => none
  | fuel + 1, depth, acc, cs =>
    match skipLines (cs.length + 1) cs with
    | ']' :: rest => some (.list acc.reverse, rest)
    | cs => do
      let (d, rest) ← value? fuel depth cs
      match skipLines (rest.length + 1) rest with
      | ',' :: rest => items? fuel depth (d :: acc) rest
      | ']' :: rest => some (.list (d :: acc).reverse, rest)
      | _ => none

/-- The pairs of an inline table, from the next one on. -/
def pairs? : Nat → Nat → Tree → List Char → Option (Data × List Char)
  | 0, _, _, _ => none
  | fuel + 1, depth, t, cs => do
    let (key, rest) ← key? cs
    match rest with
    | '=' :: rest => do
      let (d, rest) ← value? fuel depth (skip rest)
      let t ← Tree.putKey key (.leaf d) t
      match skip rest with
      | ',' :: rest => pairs? fuel depth t rest
      | '\x7d' :: rest => some (t.data, rest)
      | _ => none
    | _ => none

end

/-! ## Documents -/

/-- A key with its value, and what follows on the next line. -/
def pairLine? (cs : List Char) : Option (List String × Data × List Char) := do
  let (key, rest) ← key? cs
  match rest with
  | '=' :: rest => do
    let (d, rest) ← value? (2 * rest.length + 2) 0 (skip rest)
    let rest ← lineEnd? rest
    return (key, d, rest)
  | _ => none

/-- The lines of a document, under the header `path`. -/
def lines? : Nat → List String → Tree → List Char → Option Tree
  | 0, _, _, _ => none
  | fuel + 1, path, root, cs =>
    match skip cs with
    | [] => some root
    | '#' :: rest => do
      let rest ← lineEnd? ('#' :: rest)
      lines? fuel path root rest
    | '[' :: '[' :: rest => do
      let (key, rest) ← key? rest
      match rest with
      | ']' :: ']' :: rest => do
        let rest ← lineEnd? rest
        let root ← root.rowHeader key
        lines? fuel key root rest
      | _ => none
    | '[' :: rest => do
      let (key, rest) ← key? rest
      match rest with
      | ']' :: rest => do
        let rest ← lineEnd? rest
        let root ← root.header key
        lines? fuel key root rest
      | _ => none
    | cs =>
      match newline? cs with
      | some rest => lines? fuel path root rest
      | none => do
        let (key, d, rest) ← pairLine? cs
        let root ← root.within false (Tree.putKey key (.leaf d)) path
        lines? fuel path root rest

/-- **Read a TOML document.** -/
def parse? (s : String) : Option Data :=
  let cs := match s.toList with
    | '\ufeff' :: rest => rest
    | cs => cs
  (lines? (cs.length + 1) [] (.table false false []) cs).map Tree.data

end PcdCatalog.Toml

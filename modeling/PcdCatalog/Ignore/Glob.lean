/-!
# Globs of ignore rules

The globs of ignore rules are matched against the bytes of a relative path. A
question mark and a star stay within a name, a class may match a slash, and
two stars that stand alone between slashes match any number of directories.

`Glob.parse?` reads a glob into `Piece`s, and `Glob.matches` lets each piece
take what it can: the places a list of pieces can reach in a path are
followed all at once, so no choice is tried twice.
-/

namespace PcdCatalog.Ignore

/-- The byte of a slash. -/
def slash : UInt8 := 0x2F

/-- **A part of a glob.** -/
inductive Piece where
  /-- These bytes. -/
  | bytes (text : List UInt8)
  /-- One byte other than a slash. -/
  | any
  /-- Any number of bytes other than slashes. -/
  | many
  /-- One byte in, or for a negated class out of, some ranges. -/
  | cls (negated : Bool) (ranges : List (UInt8 × UInt8))
  /-- Two stars at the beginning: any directories, or none. -/
  | leading
  /-- Two stars at the end: whatever lies below. -/
  | trailing
  /-- Two stars in between: any directories, or none. -/
  | between
  /-- One of several lists of pieces. -/
  | choice (branches : List (List Piece))
deriving Inhabited

/-! ## Matching -/

/-- A list and all its rests, down to the empty one. -/
def rests : List UInt8 → List (List UInt8)
  | [] => [[]]
  | b :: bs => (b :: bs) :: rests bs

/-- The rests behind each slash. -/
def behindSlashes : List UInt8 → List (List UInt8)
  | [] => []
  | b :: bs => if b = slash then bs :: behindSlashes bs else behindSlashes bs

/-- The rests after any number of bytes other than slashes. -/
def withinName : List UInt8 → List (List UInt8)
  | [] => [[]]
  | b :: bs => if b = slash then [b :: bs] else (b :: bs) :: withinName bs

/-- The rest behind fixed bytes. -/
def behind? : List UInt8 → List UInt8 → Option (List UInt8)
  | [], bs => some bs
  | a :: as, b :: bs => if a = b then behind? as bs else none
  | _ :: _, [] => none

/-- The rest behind one byte that satisfies `p`. -/
def behindOne (p : UInt8 → Bool) : List UInt8 → List (List UInt8)
  | b :: bs => if p b then [bs] else []
  | [] => []

/-- Each rest of one text once; they differ by their lengths. -/
def distinct (rs : List (List UInt8)) : List (List UInt8) :=
  rs.foldl (fun acc r => if acc.any (fun a => a.length == r.length) then acc else acc ++ [r]) []

mutual

/-- Whether pieces stand for nothing at all; such a branch of a choice does not
count. -/
def isVoid : List Piece → Bool
  | [] => true
  | .choice branches :: ps => allVoid branches && isVoid ps
  | _ :: _ => false

/-- Whether all branches stand for nothing. -/
def allVoid : List (List Piece) → Bool
  | [] => true
  | b :: bs => isVoid b && allVoid bs

end

mutual

/-- What can be left of a path behind one piece. -/
def Piece.after : Piece → List UInt8 → List (List UInt8)
  | .bytes text, bs => (behind? text bs).toList
  | .any, bs => behindOne (· != slash) bs
  | .many, bs => withinName bs
  | .cls negated ranges, bs =>
    behindOne (fun b => ranges.any (fun r => r.1 ≤ b && b ≤ r.2) != negated) bs
  | .leading, bs =>
    distinct (bs :: behindSlashes bs)
  | .trailing, bs =>
    match bs with
    | b :: rest => if b = slash then rests rest else []
    | [] => []
  | .between, bs =>
    match bs with
    | b :: rest => if b = slash then distinct (rest :: behindSlashes rest) else []
    | [] => []
  | .choice branches, bs =>
    if allVoid branches then [bs] else distinct (afterOne branches bs)

/-- What can be left behind a list of pieces, from one of several places. -/
def afterAll : List Piece → List (List UInt8) → List (List UInt8)
  | [], rs => rs
  | p :: ps, rs => afterAll ps (distinct (rs.flatMap fun r => p.after r))

/-- What can be left behind one of several branches. -/
def afterOne : List (List Piece) → List UInt8 → List (List UInt8)
  | [], _ => []
  | b :: branches, bs =>
    (if isVoid b then [] else afterAll b [bs]) ++ afterOne branches bs

end

/-- **Whether a glob matches a whole path.** Two stars alone match every path. -/
def Piece.matches (glob : List Piece) (path : List UInt8) : Bool :=
  match glob with
  | [.leading] => true
  | _ => (afterAll glob [path]).any List.isEmpty

/-! ## Reading -/

namespace Glob

/-- A glob while it is being read: the branches of the open choices, innermost
first, each with its pieces last first. -/
structure Draft where
  /-- The branch being read. -/
  current : List Piece
  /-- For each open choice, its finished branches and the branch around it. -/
  opened : List (List (List Piece) × List Piece)

/-- The bytes of a character. -/
def bytesOf (c : Char) : List UInt8 := (String.singleton c).toUTF8.data.toList

/-- Add a piece. -/
def Draft.push (d : Draft) (p : Piece) : Draft := { d with current := p :: d.current }

/-- The ranges of bytes that a range of characters is written with. -/
def byteRanges (lo hi : Char) : List (UInt8 × UInt8) :=
  if lo = hi then (bytesOf lo).map fun b => (b, b)
  else
    let a := bytesOf lo
    let b := bytesOf hi
    a.dropLast.map (fun x => (x, x)) ++ [(a.getLast?.getD 0, b.head?.getD 0)]
      ++ b.tail.map (fun x => (x, x))

/-- The inside of a class behind its opening bracket, with the ranges read so
far, last first. -/
def classBody? (first inRange : Bool) (ranges : List (Char × Char)) :
    List Char → Option (List (Char × Char) × List Char)
  | [] => none
  | c :: rest =>
    let single := classBody? false false ((c, c) :: ranges) rest
    let extended : Option (List (Char × Char) × List Char) :=
      match ranges with
      | (lo, _) :: rs => if c < lo then none else classBody? false false ((lo, c) :: rs) rest
      | [] => none
    if c = ']' then
      if first then single
      else some ((if inRange then ('-', '-') :: ranges else ranges).reverse, rest)
    else if c = '-' then
      if first then single
      else if inRange then extended
      else classBody? false true ranges rest
    else if inRange then extended
    else single

/-- A class behind its opening bracket. -/
def class? (cs : List Char) : Option (Piece × List Char) := do
  let (negated, cs) := match cs with
    | '!' :: rest | '^' :: rest => (true, rest)
    | rest => (false, rest)
  let (ranges, rest) ← classBody? true false [] cs
  return (.cls negated (ranges.flatMap fun r => byteRanges r.1 r.2), rest)

/-- Two stars in a row, and what is left behind them. They stand for directories
if slashes, the ends of the glob or of a branch are around them. -/
def stars (d : Draft) (before : Option Char) (rest : List Char) : Draft × List Char :=
  let plain := (((d.push .many).push .many), rest)
  let nested := !d.opened.isEmpty
  if d.current.isEmpty then
    match rest with
    | [] => (d.push .leading, [])
    | '/' :: rest => (d.push .leading, rest)
    | _ => plain
  else if before != some '/' && !(nested && (before = some ',' || before = some '\x7b')) then plain
  else
    let replace (isEnd : Bool) : Draft :=
      match d.current with
      | .leading :: _ | .trailing :: _ => d
      | _ :: ps => { d with current := (if isEnd then .trailing else .between) :: ps }
      | [] => d
    match rest with
    | [] => (replace true, [])
    | '/' :: tail => (replace false, tail)
    | c :: _ =>
      if nested && (c = ',' || c = '\x7d') then (replace true, rest) else plain

/-- Read the rest of a glob. `before` is the character read last. -/
def read? : Nat → Draft → Option Char → List Char → Option Draft
  | 0, _, _, _ => none
  | _ + 1, d, _, [] => some d
  | fuel + 1, d, before, c :: rest =>
    match c with
    | '?' => read? fuel (d.push .any) (some c) rest
    | '*' =>
      match rest with
      | '*' :: rest' =>
        let (d, rest'') := stars d before rest'
        -- Whatever was read last decides how the next stars are taken.
        read? fuel d (if rest''.length < rest'.length then some '/' else some '*') rest''
      | _ => read? fuel (d.push .many) (some c) rest
    | '[' => do
      let (p, rest) ← class? rest
      read? fuel (d.push p) (some ']') rest
    | '\x7b' => read? fuel ⟨[], ([], d.current) :: d.opened⟩ (some c) rest
    | '\x7d' =>
      match d.opened with
      | [] => none
      | (branches, around) :: opened =>
        let all := (branches ++ [d.current.reverse])
        read? fuel ⟨.choice all :: around, opened⟩ (some c) rest
    | ',' =>
      match d.opened with
      | [] => read? fuel (d.push (.bytes (bytesOf c))) (some c) rest
      | (branches, around) :: opened =>
        read? fuel ⟨[], (branches ++ [d.current.reverse], around) :: opened⟩ (some c) rest
    | '\\' =>
      match rest with
      | [] => none
      | e :: rest => read? fuel (d.push (.bytes (bytesOf e))) (some e) rest
    | c => read? fuel (d.push (.bytes (bytesOf c))) (some c) rest

/-- **Read a glob.** An open class or choice refuses it. -/
def parse? (text : String) : Option (List Piece) := do
  let cs := text.toList
  let d ← read? (cs.length + 1) ⟨[], []⟩ none cs
  if d.opened.isEmpty then some d.current.reverse else none

end Glob

end PcdCatalog.Ignore

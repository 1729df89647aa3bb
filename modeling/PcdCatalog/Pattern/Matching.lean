import PcdCatalog.Pattern.Syntax
import PcdCatalog.Text.Units

/-!
# Matching

A pattern is matched from a `Cursor` – the characters still to come, the one
just behind, and the byte offset between them. `Node.ends` lists the places
where a match from a cursor can end, in order of preference and each place
once; only the best way to reach a place counts. The head of that list is the
match a left-to-right search with preference finds, so `search` takes the
first cursor whose list is not empty, and `matches` repeats it from the end of
each match. An empty match that touches the end of the previous one is
passed over.

Listing each place once is what keeps the work polynomial: a repetition
visits every place at most once, however many ways lead there.
-/

namespace PcdCatalog.Pattern

/-- A place in a text, with what the tests there may look at. -/
structure Cursor where
  /-- The character behind the place. -/
  behind : Option Char
  /-- The characters after it. -/
  ahead : List Char
  /-- Its byte offset. -/
  offset : Nat

/-- A cursor together with the last match of group one on the way there, as
byte offsets. -/
structure Hit where
  cursor : Cursor
  name : Option (Nat × Nat)

namespace Cursor

/-- The place before a text. -/
def start (text : List Char) : Cursor := ⟨none, text, 0⟩

/-- The cursor behind the next character. -/
def next? (c : Cursor) : Option (Char × Cursor) :=
  match c.ahead with
  | [] => none
  | x :: rest => some (x, ⟨some x, rest, c.offset + x.utf8Size⟩)

/-- How many characters are to come; it tells the places of one text apart. -/
def left (c : Cursor) : Nat := c.ahead.length

/-- Whether the character behind is in a set. -/
def behindIn (c : Cursor) (s : CharSet) : Bool := c.behind.any s.contains

/-- Whether the character ahead is in a set. -/
def aheadIn (c : Cursor) (s : CharSet) : Bool := c.ahead.head?.any s.contains

end Cursor

/-- Whether a test holds at a cursor. -/
def Look.holds (c : Cursor) : Look → Bool
  | textStart => c.behind.isNone
  | textEnd => c.ahead.isEmpty
  | lineStart => c.behind.isNone || c.behind == some '\n'
  | lineEnd => c.ahead.isEmpty || c.ahead.head? == some '\n'
  | returnLineStart =>
    c.behind.isNone || c.behind == some '\n'
      || (c.behind == some '\r' && c.ahead.head? != some '\n')
  | returnLineEnd =>
    c.ahead.isEmpty || c.ahead.head? == some '\r'
      || (c.ahead.head? == some '\n' && c.behind != some '\r')
  | wordBoundary w => c.behindIn w != c.aheadIn w
  | notWordBoundary w => c.behindIn w == c.aheadIn w
  | wordStart w => !c.behindIn w && c.aheadIn w
  | wordEnd w => c.behindIn w && !c.aheadIn w
  | wordStartHalf w => !c.behindIn w
  | wordEndHalf w => !c.aheadIn w

/-! ## Places, each once -/

/-- Keep the first hit at each place. `seen` has one bit per place. -/
def onceFrom (seen : Nat) : List Hit → List Hit
  | [] => []
  | h :: rest =>
    if seen.testBit h.cursor.left then onceFrom seen rest
    else h :: onceFrom (seen ||| (1 <<< h.cursor.left)) rest

/-- Each place once, the first hit there. -/
def once (hits : List Hit) : List Hit := onceFrom 0 hits

/-! ## Repetition -/

/-- The cursors behind 1, 2, … characters of a set, at most `most` of them. -/
def runOf (s : CharSet) : Option Nat → Option Char → List Char → Nat → List Cursor
  | _, _, [], _ => []
  | most, _, x :: rest, offset =>
    if most = some 0 || !s.contains x then []
    else
      let at' := offset + x.utf8Size
      ⟨some x, rest, at'⟩ :: runOf s (most.map (· - 1)) (some x) rest at'

/-- A repeated set: the places after at least `least` of its characters. -/
def runEnds (s : CharSet) (least : Nat) (most : Option Nat) (greedy : Bool) (h : Hit) :
    List Hit :=
  let places := h.cursor :: runOf s most h.cursor.behind h.cursor.ahead h.cursor.offset
  let hits := (places.drop least).map (fun c => { h with cursor := c })
  if greedy then hits.reverse else hits

/-- Visit a place of an unbounded repetition, then the places that further
rounds of the body reach, each once. Places are collected newest first
together with the bits of those visited; a greedy repetition collects a place
after the ones beyond it. `fuel` bounds the rounds, each of which takes at
least one character. -/
def visit (body : Hit → List Hit) (greedy : Bool) : Nat → Hit → List Hit × Nat → List Hit × Nat
  | 0, _, acc => acc
  | fuel + 1, h, (out, seen) =>
    if seen.testBit h.cursor.left then (out, seen)
    else
      let seen := seen ||| (1 <<< h.cursor.left)
      let onward := (body h).filter (fun e => e.cursor.left < h.cursor.left)
      if greedy then
        let (out, seen) := onward.foldl (fun acc e => visit body greedy fuel e acc) (out, seen)
        (h :: out, seen)
      else
        onward.foldl (fun acc e => visit body greedy fuel e acc) (h :: out, seen)

/-- Any number of rounds of a body that takes at least one character. -/
def star (body : Hit → List Hit) (greedy : Bool) (h : Hit) : List Hit :=
  (visit body greedy (h.cursor.left + 1) h ([], 0)).1.reverse

/-- At least one round. A first round that takes nothing ends the
repetition. -/
def plus (body : Hit → List Hit) (greedy : Bool) (h : Hit) : List Hit :=
  let rounds := (body h).foldl (fun (acc : List Hit × Nat) e =>
    if e.cursor.left = h.cursor.left then
      if acc.2.testBit e.cursor.left then acc
      else (e :: acc.1, acc.2 ||| (1 <<< e.cursor.left))
    else visit body greedy (h.cursor.left + 1) e acc) ([], 0)
  rounds.1.reverse

/-- Exactly `n` rounds. -/
def times (body : Hit → List Hit) : Nat → List Hit → List Hit
  | 0, hits => hits
  | n + 1, hits => times body n (once (hits.flatMap body))

/-- Up to `n` rounds. -/
def upTo (body : Hit → List Hit) (greedy : Bool) : Nat → Hit → List Hit
  | 0, h => [h]
  | n + 1, h =>
    let more := once ((body h).flatMap (upTo body greedy n))
    once (if greedy then more ++ [h] else h :: more)

/-- The ends of a repetition. -/
def repEnds (body : Hit → List Hit) (takesSome : Bool) (least : Nat) (most : Option Nat)
    (greedy : Bool) (h : Hit) : List Hit :=
  match most with
  | some m => once ((times body least [h]).flatMap (upTo body greedy (m - least)))
  | none =>
    match least with
    | 0 =>
      if takesSome then star body greedy h
      else if greedy then once (plus body greedy h ++ [h])
      else once (h :: plus body greedy h)
    | n + 1 => once ((times body n [h]).flatMap (plus body greedy))

/-! ## Patterns -/

/-- **Where a match can end**, best first, each place once. -/
def Node.ends : Node → Hit → List Hit
  | .empty, h => [h]
  | .look test, h => if test.holds h.cursor then [h] else []
  | .one s, h =>
    match h.cursor.next? with
    | none => []
    | some (x, c) => if s.contains x then [{ h with cursor := c }] else []
  | .seq a b, h => once ((a.ends h).flatMap b.ends)
  | .alt a b, h => once (a.ends h ++ b.ends h)
  | .group i n, h =>
    if i = 1 then
      (n.ends h).map (fun e => { e with name := some (h.cursor.offset, e.cursor.offset) })
    else n.ends h
  | .rep least most greedy (.one s), h => runEnds s least most greedy h
  | .rep least most greedy n, h => repEnds n.ends n.takesSome least most greedy h

/-- A match: its byte range, and that of group one. -/
structure Match where
  start : Nat
  stop : Nat
  name : Option (Nat × Nat)

/-- The preferred match that starts at a cursor, and where it ends. -/
def Node.matchAt (n : Node) (c : Cursor) : Option (Match × Cursor) :=
  (n.ends ⟨c, none⟩).head?.map fun h => (⟨c.offset, h.cursor.offset, h.name⟩, h.cursor)

/-- The leftmost match from a cursor on. -/
def Node.searchFrom (n : Node) (behind : Option Char) (offset : Nat) :
    List Char → Option (Match × Cursor)
  | [] => n.matchAt ⟨behind, [], offset⟩
  | x :: rest =>
    (n.matchAt ⟨behind, x :: rest, offset⟩).or
      (n.searchFrom (some x) (offset + x.utf8Size) rest)

/-- The leftmost match from a cursor on. -/
def Node.search (n : Node) (c : Cursor) : Option (Match × Cursor) :=
  n.searchFrom c.behind c.offset c.ahead

/-- The next match when the previous one ended at `last`: an empty match right
there is passed over. -/
def Node.searchAfter (n : Node) (last : Option Nat) (c : Cursor) : Option (Match × Cursor) :=
  match n.search c with
  | none => none
  | some (m, e) =>
    if m.start = m.stop ∧ some m.stop = last then
      match c.next? with
      | none => none
      | some (_, c') => n.search c'
    else some (m, e)

/-- The matches from a cursor on. Each either takes a character or is followed
by one that does, so the characters to come bound their number. -/
def Node.matchesFrom (n : Node) : Nat → Option Nat → Cursor → List Match
  | 0, _, _ => []
  | fuel + 1, last, c =>
    match n.searchAfter last c with
    | none => []
    | some (m, e) => m :: n.matchesFrom fuel (some m.stop) e

/-- **All matches**, left to right and apart. -/
def Node.matches (n : Node) (text : List Char) : List Match :=
  n.matchesFrom (2 * text.length + 2) none (.start text)

end PcdCatalog.Pattern

import PcdCatalog.Text.CharSet

/-!
# Patterns

The shape of a declaration pattern once it has been read: characters by their
sets, tests on the place between two characters, sequence, choice, repetition
and groups. Only the first group of a pattern is ever asked for, since it
holds the declared name; the others are kept for counting.
-/

namespace PcdCatalog.Pattern

/-- A test on the place between two characters. Word tests come with the set
of word characters that they use. -/
inductive Look where
  | textStart
  | textEnd
  /-- After a line feed, or at the start of the text. -/
  | lineStart
  | lineEnd
  /-- The same for lines that end in a carriage return, a line feed, or both. -/
  | returnLineStart
  | returnLineEnd
  | wordBoundary (word : CharSet)
  | notWordBoundary (word : CharSet)
  | wordStart (word : CharSet)
  | wordEnd (word : CharSet)
  /-- Not behind a word character. -/
  | wordStartHalf (word : CharSet)
  /-- Not before a word character. -/
  | wordEndHalf (word : CharSet)

/-- **A pattern.** -/
inductive Node where
  /-- Matches between any two characters. -/
  | empty
  | look (test : Look)
  /-- One character of a set. -/
  | one (set : CharSet)
  | seq (first second : Node)
  /-- The first branch is preferred. -/
  | alt (first second : Node)
  /-- A numbered group. -/
  | group (index : Nat) (body : Node)
  /-- From `least` to `most` times; a greedy repetition prefers more. -/
  | rep (least : Nat) (most : Option Nat) (greedy : Bool) (body : Node)

namespace Node

/-- One past the largest group number, or one if there is no group: the whole
match counts as group zero. -/
def groupCount : Node → Nat
  | empty | look _ | one _ => 1
  | seq a b | alt a b => max a.groupCount b.groupCount
  | group i n => max (i + 1) n.groupCount
  | rep _ _ _ n => n.groupCount

/-- Whether every match takes at least one character. -/
def takesSome : Node → Bool
  | empty | look _ => false
  | one _ => true
  | seq a b => a.takesSome || b.takesSome
  | alt a b => a.takesSome && b.takesSome
  | group _ n => n.takesSome
  | rep least _ _ n => decide (0 < least) && n.takesSome

/-- Roughly how many bytes a pattern takes once its repetitions are written out.
A set beyond ASCII takes some space for each of its ranges. -/
def weight : Node → Nat
  | empty | look _ => 32
  | one set =>
    if set.ranges.all fun r => r.2 < 128 then 32 + 8 * set.ranges.length else 64 * set.ranges.length
  | seq a b => a.weight + b.weight
  | alt a b => a.weight + b.weight + 32
  | group _ n => n.weight + 64
  | rep least none _ n => max least 1 * n.weight + 64
  | rep least (some most) _ n => max least most * n.weight + 64 * (most - least)

/-- A pattern repeated; none at all is the empty pattern, whatever the body. -/
def repeated (least : Nat) (most : Option Nat) (greedy : Bool) (n : Node) : Node :=
  if most = some 0 then empty
  else if least = 1 ∧ most = some 1 then n
  else rep least most greedy n

/-- The sequence of a list of patterns. -/
def ofList : List Node → Node
  | [] => empty
  | [n] => n
  | n :: rest => seq n (ofList rest)

/-- The pattern that matches exactly one text. -/
def text (s : List Char) : Node := ofList (s.map (fun c => one (CharSet.single c)))

end Node

end PcdCatalog.Pattern

import PcdCatalog.Pattern.Syntax
import PcdCatalog.Unicode.Class
import PcdCatalog.Unicode.CaseFold

/-!
# Reading patterns

`parse?` reads the text of a pattern. Patterns are Unicode-aware unless the
flag `u` is switched off, in which case classes are ASCII classes and whatever
could match a part of a character is refused. Look-around and references back
to a group are refused too.

Flags hold from where they are set to the end of the enclosing group, also in
later branches of a choice, so the reader threads them along with the text
that is left and the groups opened so far. The `fuel` of the mutually
dependent readers is a bound on their nesting that the length of the text
gives (`parse?`).
-/

namespace PcdCatalog.Pattern

/-- The switches of a pattern. -/
structure Flags where
  /-- `i`: letters match in either case. -/
  anyCase : Bool := false
  /-- `m`: line tests hold at every line. -/
  multiLine : Bool := false
  /-- `s`: the dot matches line ends too. -/
  dotAll : Bool := false
  /-- `U`: repetitions prefer less, and more with a question mark. -/
  swapGreed : Bool := false
  /-- `u`: classes are Unicode classes. -/
  unicode : Bool := true
  /-- `R`: lines may end in carriage returns. -/
  crlf : Bool := false
  /-- `x`: blanks and comments in the pattern do not count. -/
  spaced : Bool := false

/-- What a reader works on: the text that is left, how many groups are open or
closed already, and their names. -/
structure Reader where
  rest : List Char
  groups : Nat := 0
  names : List (List Char) := []

namespace Parser

/-- The pattern is refused. -/
abbrev Read (α : Type) := Option α

/-! ## Blanks -/

/-- Drop blanks and comments when the pattern is spaced. -/
def skip (f : Flags) : List Char → List Char
  | [] => []
  | c :: rest =>
    if !f.spaced then c :: rest
    else if Unicode.isSpace c then skip f rest
    else if c = '#' then skipComment f rest
    else c :: rest
where
  /-- Drop the rest of a comment. -/
  skipComment (f : Flags) : List Char → List Char
    | [] => []
    | c :: rest => if c = '\n' then skip f rest else skipComment f rest

/-- The text behind a fixed beginning. -/
def after? : List Char → List Char → Option (List Char)
  | [], rest => some rest
  | c :: cs, d :: rest => if c = d then after? cs rest else none
  | _ :: _, [] => none

/-! ## Characters and classes -/

/-- What an escape, or a character that stands for itself, may be. `raw` marks
a character written by two hexadecimal digits, which without Unicode is a
byte. -/
inductive Piece where
  | char (c : Char) (raw : Bool)
  | cls (set : CharSet)
  | test (t : Look)

/-- The set of word characters of the flags. -/
def wordSet (f : Flags) : CharSet :=
  if f.unicode then Unicode.word else CharSet.ofText "30-39 41-5A 5F 61-7A"

/-- The set of blanks of the flags. -/
def spaceSet (f : Flags) : CharSet :=
  if f.unicode then Unicode.space else CharSet.ofText "9-D 20"

/-- The set of digits of the flags. -/
def digitSet (f : Flags) : CharSet :=
  if f.unicode then Unicode.digit else CharSet.ofText "30-39"

/-- A set closed under case if the flags say so. -/
def cased (f : Flags) (s : CharSet) : CharSet :=
  if !f.anyCase then s else if f.unicode then s.foldCase else s.foldAscii

/-- A negated set; without Unicode it would match parts of characters. -/
def negated (f : Flags) (neg : Bool) (s : CharSet) : Read CharSet :=
  if !neg then some s else if f.unicode then some s.compl else none

/-- A character, refused when it stands for a byte beyond ASCII. -/
def charOf (f : Flags) (c : Char) (raw : Bool) : Read Char :=
  if !f.unicode && raw && c.toNat ≥ 128 then none else some c

/-- The pattern of one literal character. -/
def literal (f : Flags) (c : Char) (raw : Bool) : Read Node := do
  let c ← charOf f c raw
  let s := CharSet.single c
  if !f.unicode && c.toNat ≥ 128 then return .one s
  return .one (cased f s)

/-- Characters that mean something in a pattern. -/
def isMeta (c : Char) : Bool := "\\.+*?()|[]\x7b\x7d^$#&-~".toList.contains c

/-- Characters that may follow a backslash and then stand for themselves. -/
def isEscapable (c : Char) : Bool :=
  isMeta c || (c.toNat < 128 && !c.isAlphanum && c != '<' && c != '>')

/-- A code point as a character. -/
def charOfCode? (n : Nat) : Option Char :=
  if h : n.isValidChar then some (Char.ofNatAux n h) else none

/-- Exactly `n` hexadecimal digits. -/
def hexDigits (f : Flags) : Nat → Nat → List Char → Read (Nat × List Char)
  | 0, value, rest => some (value, rest)
  | n + 1, value, rest =>
    match rest with
    | [] => none
    | c :: rest => do
      let d ← CharSet.hexValue? c
      hexDigits f n (16 * value + d) (skip f rest)

/-- Hexadecimal digits up to a closing brace, at least one. -/
def hexBrace (f : Flags) : Nat → Option Nat → List Char → Read (Nat × List Char)
  | 0, _, _ => none
  | fuel + 1, value, rest =>
    match skip f rest with
    | [] => none
    | '\x7d' :: rest => value.map (fun v => (v, skip f rest))
    | c :: rest => do
      let d ← CharSet.hexValue? c
      hexBrace f fuel (some (16 * value.getD 0 + d)) rest

/-- A character by its code, behind `x`, `u` or `U`. -/
def hexChar (f : Flags) (kind : Char) (rest : List Char) : Read (Piece × List Char) :=
  match skip f rest with
  | [] => none
  | '\x7b' :: rest => do
    let (n, rest) ← hexBrace f (rest.length + 1) none rest
    let c ← charOfCode? n
    return (.char c false, rest)
  | rest => do
    let width := if kind = 'x' then 2 else if kind = 'u' then 4 else 8
    let (n, rest) ← hexDigits f width 0 rest
    let c ← charOfCode? n
    return (.char c (kind = 'x'), rest)

/-- The name of a class up to a closing brace. -/
def classNameEnd (f : Flags) : Nat → List Char → List Char → Read (List Char × List Char)
  | 0, _, _ => none
  | fuel + 1, acc, rest =>
    match skip f rest with
    | [] => none
    | '\x7d' :: rest => some (acc.reverse, rest)
    | c :: rest => classNameEnd f fuel (c :: acc) rest

/-- Cut a text at the first place where another begins. -/
def cutBefore (mark : List Char) : List Char → Option (List Char × List Char)
  | [] => none
  | c :: rest =>
    match after? mark (c :: rest) with
    | some tail => some ([], tail)
    | none => (cutBefore mark rest).map (fun (a, b) => (c :: a, b))

/-- The class a name in braces stands for: a bare name, or a property with a
value, joined by an equality, a colon or an inequality. -/
def namedClass (name : List Char) : Read (CharSet × Bool) :=
  let valued (p v : List Char) (neg : Bool) :=
    (Unicode.classValued? (String.ofList p) (String.ofList v)).map (·, neg)
  match cutBefore "!=".toList name with
  | some (p, v) => valued p v true
  | none =>
    match cutBefore [':'] name with
    | some (p, v) => valued p v false
    | none =>
      match cutBefore ['='] name with
      | some (p, v) => valued p v false
      | none => (Unicode.classNamed? (String.ofList name)).map (·, false)

/-- A class behind `p` or `P`. -/
def unicodeClass (f : Flags) (neg : Bool) (rest : List Char) : Read (Piece × List Char) :=
  match skip f rest with
  | [] => none
  | c :: rest => do
    let (set, flip, rest) ←
      if c = '\x7b' then do
        let (name, rest) ← classNameEnd f (rest.length + 1) [] rest
        let (set, flip) ← namedClass name
        some (set, flip, rest)
      else if c = '\\' then none
      else do
        let set ← Unicode.classNamed? (String.ofList [c])
        some (set, false, skip f rest)
    if !f.unicode then none
    let s ← negated f (neg != flip) (cased f set)
    return (.cls s, rest)

/-- Letters and hyphens up to a closing brace. -/
def boundaryName (f : Flags) : Nat → List Char → List Char → Read (List Char × List Char)
  | 0, _, _ => none
  | fuel + 1, acc, rest =>
    match rest with
    | '\x7d' :: rest => some (acc.reverse, rest)
    | c :: rest =>
      if c.isAlpha || c = '-' then boundaryName f fuel (c :: acc) (skip f rest) else none
    | [] => none

/-- A word test behind `b`. Braces with a name in them choose its kind; other
braces are a repetition. -/
def wordTest (f : Flags) (rest : List Char) : Read (Piece × List Char) :=
  let w := wordSet f
  match rest with
  | '\x7b' :: tail =>
    match skip f tail with
    | [] => none
    | c :: _ =>
      if c.isAlpha || c = '-' then do
        let (name, rest) ← boundaryName f (tail.length + 1) [] (skip f tail)
        match String.ofList name with
        | "start" => some (.test (.wordStart w), rest)
        | "end" => some (.test (.wordEnd w), rest)
        | "start-half" => some (.test (.wordStartHalf w), rest)
        | "end-half" => some (.test (.wordEndHalf w), rest)
        | _ => none
      else some (.test (.wordBoundary w), rest)
  | _ => some (.test (.wordBoundary w), rest)

/-- What follows a backslash. -/
def escape (f : Flags) (rest : List Char) : Read (Piece × List Char) :=
  match rest with
  | [] => none
  | c :: rest =>
    let cls (neg : Bool) (s : CharSet) : Read (Piece × List Char) := do
      let s ← negated f neg s
      return (.cls s, rest)
    if c = 'x' || c = 'u' || c = 'U' then hexChar f c rest
    else if c = 'p' then unicodeClass f false rest
    else if c = 'P' then unicodeClass f true rest
    else if c = 'd' then cls false (digitSet f)
    else if c = 'D' then cls true (digitSet f)
    else if c = 's' then cls false (spaceSet f)
    else if c = 'S' then cls true (spaceSet f)
    else if c = 'w' then cls false (wordSet f)
    else if c = 'W' then cls true (wordSet f)
    else if isEscapable c then some (.char c false, rest)
    else if c = 'a' then some (.char '\x07' false, rest)
    else if c = 'f' then some (.char '\x0c' false, rest)
    else if c = 't' then some (.char '\t' false, rest)
    else if c = 'n' then some (.char '\n' false, rest)
    else if c = 'r' then some (.char '\r' false, rest)
    else if c = 'v' then some (.char '\x0b' false, rest)
    else if c = 'A' then some (.test .textStart, rest)
    else if c = 'z' then some (.test .textEnd, rest)
    else if c = 'b' then wordTest f rest
    else if c = 'B' then some (.test (.notWordBoundary (wordSet f)), rest)
    else if c = '<' then some (.test (.wordStart (wordSet f)), rest)
    else if c = '>' then some (.test (.wordEnd (wordSet f)), rest)
    else none

/-! ## Bracketed classes -/

/-- The set of a class name in colons. -/
def posixClass (name : List Char) : Option CharSet :=
  match String.ofList name with
  | "alnum" => some (CharSet.ofText "30-39 41-5A 61-7A")
  | "alpha" => some (CharSet.ofText "41-5A 61-7A")
  | "ascii" => some (CharSet.ofText "0-7F")
  | "blank" => some (CharSet.ofText "9 20")
  | "cntrl" => some (CharSet.ofText "0-1F 7F")
  | "digit" => some (CharSet.ofText "30-39")
  | "graph" => some (CharSet.ofText "21-7E")
  | "lower" => some (CharSet.ofText "61-7A")
  | "print" => some (CharSet.ofText "20-7E")
  | "punct" => some (CharSet.ofText "21-2F 3A-40 5B-60 7B-7E")
  | "space" => some (CharSet.ofText "9-D 20")
  | "upper" => some (CharSet.ofText "41-5A")
  | "word" => some (CharSet.ofText "30-39 41-5A 5F 61-7A")
  | "xdigit" => some (CharSet.ofText "30-39 41-46 61-66")
  | _ => none

/-- A class name in colons and brackets, if one begins here; its refusal as a
negated ASCII class is the inner `none`. -/
def posixItem? (f : Flags) (rest : List Char) : Option (Read CharSet × List Char) := do
  let tail ← after? "[:".toList rest
  let (neg, tail) := match tail with
    | '^' :: t => (true, t)
    | t => (false, t)
  let name := tail.takeWhile (· != ':')
  let tail ← after? ":]".toList (tail.drop name.length)
  let set ← posixClass name
  return (negated f neg (cased f set), tail)

/-- One character or class inside brackets. -/
def setItem (f : Flags) : List Char → Read (Piece × List Char)
  | [] => none
  | '\\' :: rest => escape f rest
  | c :: rest => some (.char c false, rest)

/-- A character inside brackets; without Unicode it has to be ASCII. -/
def setChar (f : Flags) (c : Char) (raw : Bool) : Read Char := do
  let c ← charOf f c raw
  if !f.unicode && c.toNat ≥ 128 then none else some c

/-- An item inside brackets, or a range of characters. -/
def setRange (f : Flags) (rest : List Char) : Read (CharSet × List Char) := do
  let (first, rest) ← setItem f rest
  let rest := skip f rest
  let lone : Read (CharSet × List Char) :=
    match first with
    | .char c raw => (setChar f c raw).map (fun c => (CharSet.single c, rest))
    | .cls s => some (s, rest)
    | .test _ => none
  match rest with
  | [] => none
  | '-' :: tail =>
    match skip f tail with
    | [] => none
    | ']' :: _ | '-' :: _ => lone
    | tail => do
      let (second, rest) ← setItem f tail
      match first, second with
      | .char a rawA, .char b rawB => do
        let a ← setChar f a rawA
        let b ← setChar f b rawB
        if b < a then none else some (⟨[(a.toNat, b.toNat)]⟩, rest)
      | _, _ => none
  | _ => lone

/-- How two classes are joined. -/
inductive SetOp where
  | inter | diff | symmDiff

/-- Join what stands before an operator with what stands after it. -/
def joinSets (f : Flags) : Option (CharSet × SetOp) → CharSet → CharSet
  | none, s => s
  | some (l, op), r =>
    let l := cased f l
    let r := cased f r
    match op with
    | .inter => l.inter r
    | .diff => l.diff r
    | .symmDiff => l.symmDiff r

/-- Literal hyphens at the beginning of a class. -/
def leadingHyphens (f : Flags) : Nat → List Char → List Char
  | 0, rest => rest
  | fuel + 1, '-' :: rest => leadingHyphens f fuel (skip f rest)
  | _, rest => rest

/-- The opening of a class behind its bracket: whether the class is negated, what stands
literally at its beginning, and what is left behind that. Hyphens are literal there, and
so is a closing bracket if no hyphen is in front of it. -/
def setOpening (f : Flags) (rest : List Char) : Bool × CharSet × List Char :=
  let (neg, rest) := match skip f rest with
    | '^' :: t => (true, skip f t)
    | t => (false, t)
  let tail := leadingHyphens f rest.length rest
  let start : CharSet := if tail.length < rest.length then .single '-' else .empty
  match tail with
  | ']' :: t => if start.ranges.isEmpty then (neg, .single ']', skip f t) else (neg, start, tail)
  | _ => (neg, start, tail)

/-- The inside of a bracketed class, up to its closing bracket: `left` is the
operand before the last operator, `items` what has been read since. -/
def setBody (f : Flags) : Nat → Option (CharSet × SetOp) → CharSet → List Char →
    Read (CharSet × List Char)
  | 0, _, _, _ => none
  | fuel + 1, left, items, rest =>
    match skip f rest with
    | [] => none
    | ']' :: rest => some (joinSets f left items, rest)
    | '&' :: '&' :: rest => setBody f fuel (some (joinSets f left items, .inter)) .empty rest
    | '-' :: '-' :: rest => setBody f fuel (some (joinSets f left items, .diff)) .empty rest
    | '~' :: '~' :: rest => setBody f fuel (some (joinSets f left items, .symmDiff)) .empty rest
    | '[' :: rest =>
      match posixItem? f ('[' :: rest) with
      | some (set, rest) => do
        let set ← set
        setBody f fuel left (items.union set) rest
      | none => do
        -- A nested class: its own opening, then its body.
        let (neg, start, rest) := setOpening f rest
        let (inner, rest) ← setBody f fuel none start rest
        let inner ← negated f neg (cased f inner)
        setBody f fuel left (items.union inner) rest
    | rest => do
      let (set, rest) ← setRange f rest
      setBody f fuel left (items.union set) rest

/-- A bracketed class behind its opening bracket. -/
def bracketed (f : Flags) (rest : List Char) : Read (CharSet × List Char) := do
  let (neg, start, rest) := setOpening f rest
  let (set, rest) ← setBody f (rest.length + 1) none start rest
  let set ← negated f neg (cased f set)
  return (set, rest)

/-! ## Repetition counts -/

/-- Digits, with blanks around them; the value is a 32-bit number. -/
def count? (f : Flags) (rest : List Char) : Read (Option Nat × List Char) :=
  let rest := rest.dropWhile Unicode.isSpace
  let rec digits : Nat → List Char → List Char → List Char × List Char
    | 0, acc, rest => (acc.reverse, rest)
    | fuel + 1, acc, rest =>
      match rest with
      | c :: tail => if c.isDigit then digits fuel (c :: acc) (skip f tail) else (acc.reverse, rest)
      | [] => (acc.reverse, [])
  let (ds, rest) := digits (rest.length + 1) [] rest
  let rest := skip f (rest.dropWhile Unicode.isSpace)
  if ds.isEmpty then some (none, rest)
  else
    let n := ds.foldl (fun n c => 10 * n + (c.toNat - '0'.toNat)) 0
    if n < UInt32.size then some (some n, rest) else none

/-- A counted repetition behind its opening brace: the bounds, whether a
question mark follows, and what is left. -/
def counted (f : Flags) (rest : List Char) : Read (Nat × Option Nat × Bool × List Char) := do
  let rest := skip f rest
  if rest.isEmpty then none
  let (first, rest) ← count? f rest
  let (least, most, rest) ← match rest with
    | ',' :: rest =>
      match skip f rest with
      | [] => none
      | '\x7d' :: tail => do
        let n ← first
        some (n, none, '\x7d' :: tail)
      | rest => do
        let n ← first
        let (second, rest) ← count? f rest
        let m ← second
        some (n, some m, rest)
    | _ => do
      let n ← first
      some (n, some n, rest)
  match rest with
  | '\x7d' :: rest =>
    if most.any (fun m => m < least) then none
    else
      match skip f rest with
      | '?' :: tail => some (least, most, true, tail)
      | rest => some (least, most, false, rest)
  | _ => none

/-! ## Groups and flags -/

/-- Characters of a group name. -/
def isNameChar (first : Bool) (c : Char) : Bool :=
  if first then c = '_' || Unicode.isAlphabetic c
  else c = '_' || c = '.' || c = '[' || c = ']' || Unicode.isAlphanumeric c

/-- A group name up to its closing angle bracket; a name is used once. -/
def groupName (r : Reader) : Read Reader :=
  let name := r.rest.takeWhile (· != '>')
  match r.rest.drop name.length, name with
  | '>' :: rest, c :: cs =>
    if isNameChar true c && cs.all (isNameChar false) && !r.names.contains name then
      some { r with rest := rest, names := name :: r.names }
    else none
  | _, _ => none

/-- Flags up to a colon or a closing parenthesis: which are set or cleared, and
whether a group body follows. The last flag seen comes first in `seen`; behind
a minus there has to be one. -/
def flagItems (seen : List Char) (f : Flags) : List Char → Read (Flags × Bool × List Char)
  | [] => none
  | ':' :: rest => if seen.head? = some '-' then none else some (f, true, rest)
  | ')' :: rest => if seen.isEmpty || seen.head? = some '-' then none else some (f, false, rest)
  | c :: rest =>
    if seen.contains c then none
    else
      let on := !seen.contains '-'
      let next (f : Flags) := flagItems (c :: seen) f rest
      match c with
      | '-' => next f
      | 'i' => next { f with anyCase := on }
      | 'm' => next { f with multiLine := on }
      | 's' => next { f with dotAll := on }
      | 'U' => next { f with swapGreed := on }
      | 'u' => next { f with unicode := on }
      | 'R' => next { f with crlf := on }
      | 'x' => next { f with spaced := on }
      | _ => none

/-- What an opening parenthesis begins. -/
inductive Opening where
  /-- Flags for the rest of the enclosing group. -/
  | flags (f : Flags)
  /-- A group, numbered or not, with the flags of its body. -/
  | group (index : Option Nat) (f : Flags)

/-- What stands behind an opening parenthesis. -/
def opening (f : Flags) (r : Reader) : Read (Opening × Reader) :=
  let rest := skip f r.rest
  let lookaround := ["?=", "?!", "?<=", "?<!"].any (fun p => (after? p.toList rest).isSome)
  let numbered : Opening := .group (some (r.groups + 1)) f
  if lookaround then none
  else
    match (after? "?P<".toList rest).or (after? "?<".toList rest) with
    | some tail => do
      let r ← groupName { r with rest := tail }
      return (numbered, { r with groups := r.groups + 1 })
    | none =>
      match rest with
      | '?' :: tail => do
        let (g, body, tail) ← flagItems [] f tail
        return (if body then .group none g else .flags g, { r with rest := tail })
      | _ => some (numbered, { r with rest := rest, groups := r.groups + 1 })

/-! ## Patterns -/

/-- The dot. -/
def dot (f : Flags) : Read Node :=
  if !f.unicode then none
  else if f.dotAll then some (.one .full)
  else if f.crlf then some (.one (CharSet.ofText "A D").compl)
  else some (.one (CharSet.ofText "A").compl)

/-- The circumflex. -/
def caret (f : Flags) : Look :=
  if !f.multiLine then .textStart else if f.crlf then .returnLineStart else .lineStart

/-- The dollar sign. -/
def dollar (f : Flags) : Look :=
  if !f.multiLine then .textEnd else if f.crlf then .returnLineEnd else .lineEnd

/-- An item of a sequence: a pattern, or flags, which cannot be repeated, with
the depth of its nesting. -/
structure Item where
  node : Option Node
  depth : Nat := 0

/-- Repeat the last item. -/
def repeatLast (f : Flags) (least : Nat) (most : Option Nat) (lazyMark : Bool) :
    List Item → Read (List Item)
  | ⟨some n, depth⟩ :: items =>
    some (⟨some (n.repeated least most (lazyMark == f.swapGreed)), depth + 1⟩ :: items)
  | _ => none

/-- The sequence of the items read, the last one first. Several items make one
more level. -/
def sequence (items : List Item) : Node × Nat :=
  let depth := (items.map Item.depth).foldl max 0
  (Node.ofList (items.reverse.filterMap Item.node),
    if items.length < 2 then depth else depth + 1)

/-- What stands between two parentheses: a pattern, the depth of its branches,
and whether there are several. -/
structure Body where
  node : Node
  depth : Nat
  several : Bool := false

/-- The depth of a body; several branches make one more level. -/
def Body.level (b : Body) : Nat := if b.several then b.depth + 1 else b.depth

mutual

/-- A choice up to a closing parenthesis or the end, which stays. -/
def choice : Nat → Flags → Reader → Read (Body × Flags × Reader)
  | 0, _, _ => none
  | fuel + 1, f, r => do
    let ((n, depth), f, r) ← branch fuel f r []
    match r.rest with
    | '|' :: rest => do
      let (b, f, r) ← choice fuel f { r with rest := rest }
      return (⟨.alt n b.node, max depth b.depth, true⟩, f, r)
    | _ => return (⟨n, depth, false⟩, f, r)

/-- A branch of a choice. -/
def branch : Nat → Flags → Reader → List Item → Read ((Node × Nat) × Flags × Reader)
  | 0, _, _, _ => none
  | fuel + 1, f, r, items =>
    let onward (rest : List Char) (items : List Item) := branch fuel f { r with rest := rest } items
    match skip f r.rest with
    | [] => some (sequence items, f, { r with rest := [] })
    | '|' :: rest => some (sequence items, f, { r with rest := '|' :: rest })
    | ')' :: rest => some (sequence items, f, { r with rest := ')' :: rest })
    | '(' :: rest => do
      let (o, r) ← opening f { r with rest := rest }
      match o with
      | .flags g => branch fuel g r (⟨none, 0⟩ :: items)
      | .group index g => do
        let (b, _, r) ← choice fuel g r
        match r.rest with
        | ')' :: rest =>
          let n := match index with
            | some i => .group i b.node
            | none => b.node
          branch fuel f { r with rest := rest } (⟨some n, b.level + 1⟩ :: items)
        | _ => none
    | '[' :: rest => do
      let (s, rest) ← bracketed f rest
      onward rest (⟨some (.one s), 1⟩ :: items)
    | '?' :: rest => simple fuel f r 0 (some 1) rest items
    | '*' :: rest => simple fuel f r 0 none rest items
    | '+' :: rest => simple fuel f r 1 none rest items
    | '\x7b' :: rest => do
      let (least, most, lazyMark, rest) ← counted f rest
      let items ← repeatLast f least most lazyMark items
      onward rest items
    | '.' :: rest => do
      let n ← dot f
      onward rest (⟨some n, 0⟩ :: items)
    | '^' :: rest => onward rest (⟨some (.look (caret f)), 0⟩ :: items)
    | '$' :: rest => onward rest (⟨some (.look (dollar f)), 0⟩ :: items)
    | '\\' :: rest => do
      let (p, rest) ← escape f rest
      let n ← match p with
        | .char c raw => literal f c raw
        | .cls s => some (.one s)
        | .test t => some (.look t)
      onward rest (⟨some n, 0⟩ :: items)
    | c :: rest => do
      let n ← literal f c false
      onward rest (⟨some n, 0⟩ :: items)

/-- A repetition by one character, which a question mark makes lazy. -/
def simple : Nat → Flags → Reader → Nat → Option Nat → List Char → List Item →
    Read ((Node × Nat) × Flags × Reader)
  | 0, _, _, _, _, _, _ => none
  | fuel + 1, f, r, least, most, rest, items => do
    let (lazyMark, rest) := match rest with
      | '?' :: t => (true, t)
      | t => (false, t)
    let items ← repeatLast f least most lazyMark items
    branch fuel f { r with rest := rest } items

end

end Parser

/-- How deep a pattern can be nested. -/
def depthLimit : Nat := 250

/-- How many bytes a pattern can take. -/
def weightLimit : Nat := 10 * 1024 * 1024

/-- **Read a pattern.** One that is nested too deep or grows too large is
refused. -/
def parse? (text : String) : Option Node := do
  let cs := text.toList
  let (b, _, r) ← Parser.choice (3 * cs.length + 3) {} { rest := cs }
  if r.rest.isEmpty && b.level ≤ depthLimit && b.node.weight ≤ weightLimit then some b.node
  else none

end PcdCatalog.Pattern

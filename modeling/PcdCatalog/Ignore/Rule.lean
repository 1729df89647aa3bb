import PcdCatalog.Ignore.Glob
import PcdCatalog.Unicode.Class

/-!
# Ignore rules

One line of an ignore file is one rule: a glob, whether it hides what it
matches or keeps it, and whether it is about directories only. Of the rules
of a file the last one that matches decides.

A glob without a slash matches at any depth; one with a slash is relative to
the directory of its file. A glob that ends in two stars is about what lies
inside, not about the directory itself.
-/

namespace PcdCatalog.Ignore

/-- What rules say about a path. -/
inductive Verdict where
  | hide
  | keep
deriving DecidableEq, Inhabited

/-- **An ignore rule.** -/
structure Rule where
  glob : List Piece
  verdict : Verdict
  directoriesOnly : Bool

namespace Rule

/-- A line without the blanks at its end, unless the last of them is escaped. -/
def trimmed (line : List Char) : List Char :=
  match line.reverse with
  | ' ' :: '\\' :: _ => line
  | cs => (cs.dropWhile Unicode.isSpace).reverse

/-- Whether a list of characters begins with another. -/
def begins (start cs : List Char) : Bool := start.isPrefixOf cs

/-- Whether a list of characters ends with another. -/
def ends (stop cs : List Char) : Bool := stop.isSuffixOf cs

/-- The glob of a rule from what is left of its line: a rule that is anchored or
has a slash is relative to its directory. -/
def globText (anchored : Bool) (cs : List Char) : List Char :=
  let star := ['*', '*']
  let free := !anchored && !cs.contains '/'
  let cs := if free && !begins (star ++ ['/']) cs && cs != star then star ++ ['/'] ++ cs else cs
  if ends ('/' :: star) cs then cs ++ ['/', '*'] else cs

/-- **Read a line.** A blank line, a comment and a malformed glob give no
rule. -/
def ofLine? (line : List Char) : Option Rule :=
  if begins ['#'] line then none
  else
    let line := trimmed line
    if line.isEmpty then none
    else
      let (verdict, anchored, rest) : Verdict × Bool × List Char :=
        if begins ['\\', '!'] line || begins ['\\', '#'] line then (.hide, false, line.drop 1)
        else
          let (verdict, rest) := match line with
            | '!' :: rest => (Verdict.keep, rest)
            | rest => (Verdict.hide, rest)
          match rest with
          | '/' :: rest => (verdict, true, rest)
          | rest => (verdict, false, rest)
      let directoriesOnly := rest.getLast? = some '/'
      let rest := if directoriesOnly then rest.dropLast else rest
      let rest := if directoriesOnly && rest.getLast? = some '\\' then rest.dropLast else rest
      (Glob.parse? (String.ofList (globText anchored rest))).map
        fun glob => ⟨glob, verdict, directoriesOnly⟩

/-- Whether a rule matches a relative path. -/
def applies (r : Rule) (path : List UInt8) (isDirectory : Bool) : Bool :=
  (!r.directoriesOnly || isDirectory) && Piece.matches r.glob path

end Rule

/-- What a list of rules says: the last one that matches decides. -/
def decide? (rules : List Rule) (path : List UInt8) (isDirectory : Bool) : Option Verdict :=
  (rules.reverse.find? fun r => r.applies path isDirectory).map Rule.verdict

/-! ## Ignore files -/

/-- The lines of a file, without their ends. A carriage return before a line feed
is part of the end. -/
def linesOf : List UInt8 → List (List UInt8)
  | [] => []
  | b :: bs =>
    if b = 0x0A then [] :: linesOf bs
    else match linesOf bs with
      | [] => [[b]]
      | l :: ls => if b = 0x0D && bs.head? = some 0x0A then l :: ls else (b :: l) :: ls

/-- The texts of lines, up to the first that is not a text. -/
def textLines : List (List UInt8) → List String
  | [] => []
  | l :: ls =>
    match String.fromUTF8? (ByteArray.mk l.toArray) with
    | some s => s :: textLines ls
    | none => []

/-- The first line of a file, if it is a text. -/
def firstLine? (content : ByteArray) : Option String :=
  (textLines (linesOf content.toList)).head?

/-- **The rules of an ignore file.** Byte order marks before the first line do
not count. -/
def rulesOf (content : ByteArray) : List Rule :=
  match (textLines (linesOf content.toList)).map String.toList with
  | [] => []
  | first :: rest => (first.dropWhile (· == '\ufeff') :: rest).filterMap Rule.ofLine?

/-- The rules of configured patterns, each of which is about what it matches and
about all that lies below. They are written as exceptions. -/
def configuredRules (patterns : List String) : List Rule :=
  patterns.flatMap fun p =>
    (Rule.ofLine? ("!" ++ p).toList).toList ++ (Rule.ofLine? ("!" ++ p ++ "/**").toList).toList

end PcdCatalog.Ignore

import PcdCatalog.Path
import PcdCatalog.Table
import PcdCatalog.Text.Position
import PcdCatalog.Pattern.Matching
import PcdCatalog.Pattern.Parser

/-!
# Declarations

A declaration file names a token space, a PCD and its value on one line, as in

    gPlatformTokenSpaceGuid.PcdConsoleWidth|80|UINT32|0x00000001

An `Extractor` finds such declarations by a pattern whose first group is the
declared name. `Extractor.declarations` lists them from left to right, and
`Extractor.extract` keeps the last one of every name.
-/

namespace PcdCatalog

/-- **Where a symbol is declared.** -/
structure Span where
  document : Path
  start : Position
  stop : Position
  /-- The byte offset of the first character. -/
  first : Nat
  /-- The byte offset behind the last one. -/
  past : Nat
deriving DecidableEq, Inhabited

/-- A span is shown by its document and where it begins. -/
def Span.display (s : Span) : String := s.document.text ++ ":" ++ s.start.display

/-- A symbol with its declaration. -/
structure Entry where
  symbol : String
  span : Span
deriving DecidableEq, Inhabited

/-- What one document declares. -/
abbrev Declarations := Table String Span

/-- Why a text cannot serve as a declaration pattern. -/
inductive PatternFault where
  /-- It is not a pattern. -/
  | invalid (pattern : String)
  /-- It has no group that could hold the name. -/
  | missingName (pattern : String)
deriving DecidableEq, Inhabited

/-- The fault in words. What is wrong with an invalid pattern is not told. -/
def PatternFault.message : PatternFault → String
  | invalid p => "Invalid declaration pattern '" ++ p ++ "'"
  | missingName p => "Declaration pattern '" ++ p ++ "' has no capture group for the symbol name"

/-- **A declaration pattern**, as written and as read. -/
structure Extractor where
  source : String
  pattern : Pattern.Node

namespace Extractor

/-- The pattern of ordinary declarations: a token space name, a dot, the PCD
name, a bar, and something that ends in a word. -/
def ordinaryPattern : String := "(?-u:\\b)[A-Za-z0-9_]+\\.(Pcd[A-Za-z0-9_]+) *\\|.+(?-u:\\b)"

/-- Read a pattern; its first group has to exist. -/
def ofPattern (source : String) : Except PatternFault Extractor :=
  match Pattern.parse? source with
  | none => .error (.invalid source)
  | some n => if n.groupCount < 2 then .error (.missingName source) else .ok ⟨source, n⟩

/-- The set of word characters of declarations. -/
def wordSet : CharSet := ⟨[(0x30, 0x39), (0x41, 0x5A), (0x5F, 0x5F), (0x61, 0x7A)]⟩

/-- The extractor of ordinary declarations. -/
def ordinary : Extractor where
  source := ordinaryPattern
  pattern := .ofList [
    .look (.wordBoundary wordSet),
    .rep 1 none true (.one wordSet),
    .one (.single '.'),
    .group 1 (.ofList [.one (.single 'P'), .one (.single 'c'), .one (.single 'd'),
      .rep 1 none true (.one wordSet)]),
    .rep 0 none true (.one (.single ' ')),
    .one (.single '|'),
    .rep 1 none true (.one (CharSet.single '\n').compl),
    .look (.wordBoundary wordSet)]

/-- The characters of a text between two byte offsets. -/
def slice (text : List Char) (first past : Nat) : List Char :=
  Text.takeBytes (past - first) (Text.dropBytes first text)

/-- The declaration of a match, unless its name is missing or empty. -/
def declaration? (doc : Path) (text : List Char) (m : Pattern.Match) : Option (String × Span) :=
  match m.name with
  | none => none
  | some (a, b) =>
    match slice text a b with
    | [] => none
    | name => some (String.ofList name, {
        document := doc
        start := Text.positionAt text m.start
        stop := Text.positionAt text m.stop
        first := m.start
        past := m.stop })

/-- The declarations that a pattern finds in a text, from left to right. -/
def declarationsOf (n : Pattern.Node) (doc : Path) (text : String) : List (String × Span) :=
  let cs := text.toList
  (n.matches cs).filterMap (declaration? doc cs)

/-- What a pattern finds in a text; of declarations of one name the last
counts. -/
def extractBy (n : Pattern.Node) (doc : Path) (text : String) : Declarations :=
  Table.ofList (declarationsOf n doc text)

/-- **What a document declares.** -/
def extract (x : Extractor) (doc : Path) (text : String) : Declarations :=
  extractBy x.pattern doc text

end Extractor

instance : Inhabited Extractor := ⟨Extractor.ordinary⟩

end PcdCatalog

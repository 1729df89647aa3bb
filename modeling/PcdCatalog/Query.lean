import PcdCatalog.Index
import PcdCatalog.Text.Case
import PcdCatalog.Text.Word

/-!
# Queries

Two questions are asked of an index: where the PCD named in a text is
declared, and which symbols complete a name that is being typed. Both look
for the first PCD name in the text.
-/

namespace PcdCatalog

/-- How a candidate has to contain what was typed. -/
inductive CompletionMode where
  /-- At its beginning. -/
  | leading
  /-- Anywhere. -/
  | anywhere
deriving DecidableEq, Inhabited

namespace CompletionMode

/-- The word for a mode. -/
def name : CompletionMode → String
  | leading => "prefix"
  | anywhere => "substring"

/-- The mode that a word names exactly. -/
def ofName? (s : String) : Option CompletionMode :=
  if s = "prefix" then some leading else if s = "substring" then some anywhere else none

/-- The mode that a word names in either case. -/
def parse (s : String) : Except String CompletionMode :=
  match ofName? (Text.lowered s) with
  | some m => .ok m
  | none => .error ("Unknown completion mode: " ++ s)

/-- Whether a list occurs in another. -/
def occurs (typed : List Char) : List Char → Bool
  | [] => typed.isEmpty
  | c :: rest => typed.isPrefixOf (c :: rest) || occurs typed rest

/-- Whether a candidate completes what was typed. -/
def accepts (m : CompletionMode) (typed candidate : List Char) : Bool :=
  match m with
  | leading => typed.isPrefixOf candidate
  | anywhere => occurs typed candidate

end CompletionMode

namespace Index

/-- **The declaration of the PCD named in a text.** -/
def definition (i : Index) (text : String) : Option Span :=
  (Text.definitionName text.toList).bind fun name => i.get? (String.ofList name)

/-- **The symbols that complete the PCD name in a text**, ascending. -/
def completions (i : Index) (text : String) (mode : CompletionMode) : List String :=
  match Text.completionName text.toList with
  | none => []
  | some typed => i.symbols.filter fun s => mode.accepts typed s.toList

/-- The declaration of the PCD under a cursor. -/
def definitionAt (i : Index) (text : String) (p : Position) : Option Span :=
  (Text.wordAt text.toList p).bind fun word => i.definition (String.ofList word)

end Index

end PcdCatalog

import PcdCatalog.Declaration

/-!
# The symbol index

The index holds one declaration per symbol. Documents are merged into it one
at a time and the last one to declare a symbol owns it. When a symbol passes
from one document to another the index notes a `Handover`, and remembers the
last few of them, up to a limit.

An entry belongs to the document named in its span, compared as a path
(`Path.same`).

What a document declares is a map, and a map is gone through in an order of its
own, which nobody promises and which is another one for every map. The entries
do not depend on it, but the handovers come in it, and past the limit it decides
which of them are remembered. So an index carries the orders of the merges to
come, each as a `Ranking` of the symbols: every merge uses up the first one.
-/

namespace PcdCatalog

/-- A symbol declared by one document was taken over by another. -/
structure Handover where
  symbol : String
  previous : Span
  replacement : Span
deriving DecidableEq, Inhabited

/-- **The order in which a merge goes through symbols**: by ascending rank, and
those of one rank by ascending symbol. -/
abbrev Ranking := String → Nat

/-- All symbols have one rank, so they come ascending. -/
def Ranking.ascending : Ranking := fun _ => 0

/-- Put a declaration before all that do not rank below it. -/
def Ranking.place (r : Ranking) (e : String × Span) : List (String × Span) → List (String × Span)
  | [] => [e]
  | e' :: rest => if r e.1 ≤ r e'.1 then e :: e' :: rest else e' :: r.place e rest

/-- **The declarations of a document in the order of a ranking.** -/
def Ranking.arrange (r : Ranking) (symbols : Declarations) : List (String × Span) :=
  symbols.toList.foldr r.place []

/-- **One declaration per symbol**, and the latest handovers, oldest first. -/
structure Index where
  table : Table String Span
  handovers : List Handover
  limit : Nat
  /-- The orders of the merges to come. -/
  rankings : Nat → Ranking

/-- What a merge did: symbols that were new, and symbols that were replaced. -/
structure MergeCounts where
  added : Nat
  replaced : Nat
deriving DecidableEq, Inhabited

namespace Index

/-- The number of handovers remembered unless a limit is given. -/
def ordinaryLimit : Nat := 256

/-- The index without symbols. -/
def empty (limit : Nat) (rankings : Nat → Ranking := fun _ => .ascending) : Index :=
  ⟨∅, [], limit, rankings⟩

instance : Inhabited Index := ⟨empty ordinaryLimit⟩

/-! ## Merging -/

/-- Note a handover. At the limit the oldest one is forgotten. -/
def note (limit : Nat) (log : List Handover) (h : Handover) : List Handover :=
  if limit = 0 then log
  else if log.length = limit then log.drop 1 ++ [h]
  else log ++ [h]

/-- The handover that placing a declaration from `doc` causes. -/
def handover? (i : Index) (doc : Path) (symbol : String) (span : Span) : Option Handover :=
  match i.table.get? symbol with
  | none => none
  | some previous =>
    if previous.document.same doc then none else some ⟨symbol, previous, span⟩

/-- Place one declaration from `doc`. -/
def put (i : Index) (doc : Path) (symbol : String) (span : Span) : Index :=
  { i with
    table := i.table.insert symbol span
    handovers := match i.handover? doc symbol span with
      | none => i.handovers
      | some h => note i.limit i.handovers h }

/-- Place one declaration and count it. -/
def placed (doc : Path) (s : Index × MergeCounts) (e : String × Span) : Index × MergeCounts :=
  (s.1.put doc e.1 e.2,
    if s.1.table.contains e.1 then { s.2 with replaced := s.2.replaced + 1 }
    else { s.2 with added := s.2.added + 1 })

/-- Place the declarations of a list in their order. -/
def mergeList (i : Index) (doc : Path) (symbols : List (String × Span)) : Index × MergeCounts :=
  symbols.foldl (placed doc) (i, ⟨0, 0⟩)

/-- What a document declares, in the order of the next merge. -/
def arranged (i : Index) (symbols : Declarations) : List (String × Span) :=
  (i.rankings 0).arrange symbols

/-- The order of the next merge is used up. -/
def advance (i : Index) : Index := { i with rankings := fun n => i.rankings (n + 1) }

/-- **Merge what a document declares**, in the order of the next merge. -/
def merge (i : Index) (doc : Path) (symbols : Declarations) : Index × MergeCounts :=
  i.advance.mergeList doc (i.arranged symbols)

/-- The handovers of a merge, whatever the limit. -/
def handoversOf (i : Index) (doc : Path) (symbols : Declarations) : List Handover :=
  (i.arranged symbols).filterMap fun e => i.handover? doc e.1 e.2

/-! ## Removal -/

/-- Whether a span belongs to a document. -/
def ownedBy (doc : Path) (span : Span) : Bool := span.document.same doc

/-- **Drop what `doc` owns and `keep` does not declare.** The number of dropped
symbols comes along. -/
def retain (i : Index) (doc : Path) (keep : Declarations) : Index × Nat :=
  let table := i.table.filter fun s span => !ownedBy doc span || keep.contains s
  ({ i with table := table }, i.table.size - table.size)

/-- **Drop all that `doc` owns.** The number of dropped symbols comes along. -/
def remove (i : Index) (doc : Path) : Index × Nat :=
  let table := i.table.filter fun _ span => !ownedBy doc span
  ({ i with table := table }, i.table.size - table.size)

/-- Forget all symbols and handovers. -/
def clear (i : Index) : Index := empty i.limit i.rankings

/-! ## Views -/

/-- The declaration of a symbol. -/
def get? (i : Index) (symbol : String) : Option Span := i.table.get? symbol

/-- Whether a symbol is declared. -/
def contains (i : Index) (symbol : String) : Bool := i.table.contains symbol

/-- The symbols, ascending. -/
def symbols (i : Index) : List String := i.table.keys

/-- The entries, by ascending symbol. -/
def entries (i : Index) : List Entry := i.table.toList.map fun e => ⟨e.1, e.2⟩

/-- The entries of a document, by where they begin. -/
def entriesIn (i : Index) (doc : Path) : List Entry :=
  (i.entries.filter fun e => ownedBy doc e.span).mergeSort
    fun a b => (compare a.span.start b.span.start).isLE

/-- Whether a document owns a symbol. -/
def owns (i : Index) (doc : Path) : Bool := i.table.values.any (ownedBy doc)

/-- The documents that own a symbol, ascending and each once. -/
def documents (i : Index) : List Path :=
  ((Table.ofList (i.table.values.map fun s => (s.document.key, s.document)) :
    Table Path.Key Path)).values

/-- How many symbols there are. -/
def size (i : Index) : Nat := i.table.size

/-- Whether there is no symbol. -/
def isEmpty (i : Index) : Bool := i.table.isEmpty

end Index

end PcdCatalog

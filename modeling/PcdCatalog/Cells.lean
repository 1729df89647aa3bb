import Mathlib.Data.List.Defs
import PcdCatalog.Index

/-!
# Entries in cells

An `Index` keeps its symbols in order and each declaration under its symbol, so its
views come in order by themselves. Here entries lie in cells. A cell has a key, no
two cells have the same, and there is no order that could be relied on. What lies in
a cell is a whole entry, which names its symbol once more, and every view goes
through all cells: it takes out what it is asked for, sorts it, and drops what is
there twice.
-/

namespace PcdCatalog

/-- **Entries in cells**, listed in the order in which they happen to be gone
through. -/
structure Cells where
  toList : List (String × Entry)
  /-- No two cells have the same key. -/
  distinct : (toList.map Prod.fst).Nodup

namespace Cells

/-- No cells. -/
def empty : Cells := ⟨[], List.nodup_nil⟩

/-! ## Filling and clearing cells -/

/-- Put an entry into the cell of a key, in place of what is there. -/
def store (c : Cells) (key : String) (e : Entry) : Cells where
  toList := (key, e) :: c.toList.filter fun cell => cell.1 != key
  distinct := by
    refine List.nodup_cons.2 ⟨fun hmem => ?_, c.distinct.sublist (List.filter_sublist.map _)⟩
    obtain ⟨cell, hcell, hkey⟩ := List.mem_map.1 hmem
    exact bne_iff_ne.1 (List.mem_filter.1 hcell).2 hkey

/-- Clear the cells that do not satisfy `p`. -/
def filter (p : String → Entry → Bool) (c : Cells) : Cells where
  toList := c.toList.filter fun cell => p cell.1 cell.2
  distinct := c.distinct.sublist (List.filter_sublist.map _)

/-- Store one declaration. -/
def place (c : Cells) (e : String × Span) : Cells := c.store e.1 ⟨e.1, e.2⟩

/-- Store the declarations of a list in their order. -/
def merge (c : Cells) (declared : List (String × Span)) : Cells := declared.foldl place c

/-- Drop what `doc` owns and `keep` does not declare. -/
def retain (c : Cells) (doc : Path) (keep : Declarations) : Cells :=
  c.filter fun key e => !Index.ownedBy doc e.span || keep.contains key

/-- Drop all that `doc` owns. -/
def remove (c : Cells) (doc : Path) : Cells := c.filter fun _ e => !Index.ownedBy doc e.span

/-! ## Views -/

/-- The entry in the cell of a symbol. -/
def get? (c : Cells) (symbol : String) : Option Entry :=
  (c.toList.find? fun cell => cell.1 == symbol).map Prod.snd

/-- What lies in the cells. -/
def values (c : Cells) : List Entry := c.toList.map Prod.snd

/-- All entries, sorted by the symbols that they name. -/
def entries (c : Cells) : List Entry :=
  c.values.mergeSort fun a b => (compare a.symbol b.symbol).isLE

/-- The entries of a document, sorted by where they begin. -/
def entriesIn (c : Cells) (doc : Path) : List Entry :=
  (c.values.filter fun e => Index.ownedBy doc e.span).mergeSort
    fun a b => (compare a.span.start b.span.start).isLE

/-- Whether a document owns an entry. -/
def owns (c : Cells) (doc : Path) : Bool := c.values.any fun e => Index.ownedBy doc e.span

/-- The documents that own an entry: all owners, sorted, and of neighbours that are
the same place the first. -/
def documents (c : Cells) : List Path :=
  ((c.values.map fun e => e.span.document).mergeSort fun p q => (compare p q).isLE).destutter
    fun p q => p.same q = false

/-- How many cells are filled. -/
def size (c : Cells) : Nat := c.toList.length

end Cells

end PcdCatalog

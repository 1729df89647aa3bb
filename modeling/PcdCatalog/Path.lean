/-!
# Paths

A document is known by its path. The text of a path is kept as it was given,
because that is how it is shown; everything else goes by its `Component`s.
Repeated slashes, a slash at the end and a dot anywhere but at the very
beginning leave no component, so one place has many spellings: two paths
name the same document when their components agree (`Path.same`), and paths
are ordered component by component.

`Path.key` is the list of components. Whatever is stored under a path is
stored under its key.
-/

namespace PcdCatalog

/-- One step of a path. -/
inductive Component where
  /-- The slash at the beginning of an absolute path. -/
  | root
  /-- A dot at the beginning of a relative path. -/
  | here
  /-- Two dots. -/
  | up
  | name (text : String)
deriving DecidableEq, Inhabited

namespace Component

/-- The kinds in their order. -/
def rank : Component → Nat
  | root => 0
  | here => 1
  | up => 2
  | name _ => 3

/-- How a component is written. -/
def text : Component → String
  | root => "/"
  | here => "."
  | up => ".."
  | name t => t

/-- By kind, and names by their code points. -/
instance : Ord Component where
  compare := compareLex (compareOn rank) (compareOn text)

instance : Std.TransOrd Component :=
  inferInstanceAs (Std.TransCmp (compareLex (compareOn rank) (compareOn text)))

instance : Std.LawfulEqOrd Component where
  eq_of_compare {a b} h := by
    have h : (compareOn rank a b).then (compareOn text a b) = .eq := h
    rw [Ordering.then_eq_eq] at h
    have hr : a.rank = b.rank := Std.LawfulEqCmp.eq_of_compare h.1
    have ht : a.text = b.text := Std.LawfulEqCmp.eq_of_compare h.2
    cases a <;> cases b <;> simp_all [rank, text]

end Component

/-- **A path**, spelled as it was given. -/
structure Path where
  text : String
deriving DecidableEq, Inhabited

namespace Path

/-- What the spellings of one place have in common. -/
abbrev Key := List Component

/-! ## Components -/

/-- The pieces of a text between its slashes; there is at least one. -/
def pieces : List Char → List (List Char)
  | [] => [[]]
  | c :: rest =>
    if c = '/' then [] :: pieces rest
    else match pieces rest with
      | [] => [[c]]
      | p :: ps => (c :: p) :: ps

/-- The component of a piece, if it leaves one. -/
def step? (piece : List Char) : Option Component :=
  if piece = [] ∨ piece = ['.'] then none
  else if piece = ['.', '.'] then some .up
  else some (.name (String.ofList piece))

/-- The components of the text of a path. -/
def componentsOf (text : List Char) : List Component :=
  match text with
  | '/' :: rest => .root :: (pieces rest).filterMap step?
  | _ =>
    let ps := pieces text
    if ps.head? = some ['.'] then .here :: ps.filterMap step? else ps.filterMap step?

/-- **The components of a path**, by which it is compared. -/
def key (p : Path) : Key := componentsOf p.text.toList

/-- Whether two paths name the same place. -/
def same (p q : Path) : Bool := p.key == q.key

/-- Paths are ordered by their components, so two spellings of one place are
not told apart. -/
instance : Ord Path where
  compare := compareOn key

theorem same_iff {p q : Path} : p.same q ↔ p.key = q.key := by
  simp [same]

@[simp] theorem same_self (p : Path) : p.same p = true := by simp [same]

/-! ## Names -/

/-- Whether a path starts at the root of the disk. -/
def isAbsolute (p : Path) : Bool := p.text.toList.head? == some '/'

/-- The name at the end of a path. -/
def fileName? (p : Path) : Option String :=
  match p.key.getLast? with
  | some (.name t) => some t
  | _ => none

/-- The part of a file name behind its last dot. A name whose only dot is its
first character has none. -/
def extensionOf? (name : List Char) : Option (List Char) :=
  let last := name.reverse.takeWhile (· != '.')
  match name.reverse.drop last.length with
  | _ :: _ :: _ => some last.reverse
  | _ => none

/-- The extension of the file name. -/
def extension? (p : Path) : Option String :=
  p.fileName?.bind fun n => (extensionOf? n.toList).map String.ofList

/-! ## Combination -/

/-- A path below a directory. An absolute path stays as it is. -/
def join (base : Path) (p : Path) : Path :=
  if p.isAbsolute then p
  else if base.text.isEmpty || base.text.toList.getLast? == some '/' then ⟨base.text ++ p.text⟩
  else ⟨base.text ++ "/" ++ p.text⟩

/-- Whether the components of `base` are a leading part of those of `p`. -/
def startsWith (p base : Path) : Bool := base.key.isPrefixOf p.key

/-- The components of `p` below `base`. -/
def below? (p base : Path) : Option Key :=
  if p.startsWith base then some (p.key.drop base.key.length) else none

/-- Drop pieces from the front until `n` of them with a component are gone, and
whatever then leaves none. -/
def dropPieces : Nat → List (List Char) → List (List Char)
  | _, [] => []
  | n, p :: ps =>
    if (step? p).isNone then dropPieces n ps
    else match n with
      | 0 => p :: ps
      | n + 1 => dropPieces n ps

/-- The text of a path below `base`, spelled as before between its first and
its last component. -/
def stripped? (p base : Path) : Option Path :=
  if !p.startsWith base then none
  else
    let n := (base.key.filter (fun c => c.rank ≥ 2)).length
    let front := if base.key.isEmpty then pieces p.text.toList
      else dropPieces n (pieces p.text.toList)
    let kept := (front.reverse.dropWhile (fun s => (step? s).isNone)).reverse
    some ⟨String.intercalate "/" (kept.map String.ofList)⟩

/-- The path of a key. -/
def ofKey : Key → Path
  | .root :: rest => ⟨"/" ++ String.intercalate "/" (rest.map Component.text)⟩
  | k => ⟨String.intercalate "/" (k.map Component.text)⟩

/-- The directory that holds a path. -/
def parentKey? (k : Key) : Option Key :=
  match k.getLast? with
  | none | some .root => none
  | some _ => some k.dropLast

end Path

end PcdCatalog

/-!
# Structured data

What a data format says once its text has been read: scalars, lists and
records. Configuration files and tool requests are both read into `Data` and
then decoded, field by field, so the decoding does not depend on the format.
-/

namespace PcdCatalog

/-- **A structured value.** -/
inductive Data where
  | null
  | bool (value : Bool)
  | integer (value : Int)
  /-- A number with a fraction or an exponent, as it was written. -/
  | real (literal : String)
  | text (value : String)
  /-- A date or a time, as it was written. -/
  | moment (literal : String)
  | list (items : List Data)
  | record (fields : List (String × Data))
deriving Inhabited

namespace Data

/-- The value of a field; of fields with one name the last counts. -/
def field? (name : String) (fields : List (String × Data)) : Option Data :=
  (fields.reverse.find? fun f => f.1 == name).map Prod.snd

/-- The field of a record. -/
def get? : Data → String → Option Data
  | record fields, name => field? name fields
  | _, _ => none

/-- A text. -/
def text? : Data → Option String
  | text s => some s
  | _ => none

/-- A truth value. -/
def bool? : Data → Option Bool
  | bool b => some b
  | _ => none

/-- A whole number below a bound. -/
def natBelow? (bound : Nat) : Data → Option Nat
  | integer (.ofNat n) => if n < bound then some n else none
  | _ => none

/-- A list whose items are all read by `f`. -/
def listOf? {α : Type} (f : Data → Option α) : Data → Option (List α)
  | list items => items.mapM f
  | _ => none

/-- A value that may be null. -/
def orNull? {α : Type} (f : Data → Option α) : Data → Option (Option α)
  | null => some none
  | d => (f d).map some

/-- A value that may be left out, in which case `absent` stands for it. -/
def orElse? {α : Type} (absent : α) (f : Data → Option α) : Option Data → Option α
  | none => some absent
  | some d => f d

/-- The values of named fields. A list gives them by position, and if it is
`exact` it gives no more than those. A moment is a record of a field that
nothing asks for. -/
def fields? (exact : Bool) (names : List String) : Data → Option (List (Option Data))
  | record fields => some (names.map fun n => field? n fields)
  | moment _ => some (names.map fun _ => none)
  | list items =>
    if exact && items.length > names.length then none
    else some (names.zipIdx.map fun n => items[n.2]?)
  | _ => none

end Data

end PcdCatalog

/-!
# Tables

A finite map kept as an association list whose keys strictly ascend. The
order is part of the type, so a table has one representation: two tables
that answer every look-up alike are equal (`Table.ext_get?`), and listing a
table needs no sorting.

Every other module that holds something under a name – symbols, documents,
locks, the entries of a disk – holds it in a table, and is read through
`get?`. The lemmas of this module say what each operation does to that view.
-/

namespace PcdCatalog

/-- **A finite map in key order.** -/
structure Table (κ : Type) (ν : Type) [Ord κ] where
  /-- The entries, by ascending key. -/
  toList : List (κ × ν)
  /-- No key is out of place, hence none occurs twice. -/
  ascending : toList.Pairwise (fun a b => compare a.1 b.1 = .lt) := by simp

namespace Table

variable {κ ν μ : Type} [Ord κ]

/-! ## Look-up -/

/-- The first value stored under a key of the list. -/
def lookup (k : κ) : List (κ × ν) → Option ν
  | [] => none
  | (k', v) :: rest => if compare k k' = .eq then some v else lookup k rest

/-- The value stored under `k`. -/
def get? (t : Table κ ν) (k : κ) : Option ν := lookup k t.toList

/-- Whether something is stored under `k`. -/
def contains (t : Table κ ν) (k : κ) : Bool := (t.get? k).isSome

/-- How many keys the table has. -/
def size (t : Table κ ν) : Nat := t.toList.length

/-- Whether the table has no key. -/
def isEmpty (t : Table κ ν) : Bool := t.toList.isEmpty

/-- The keys, ascending. -/
def keys (t : Table κ ν) : List κ := t.toList.map Prod.fst

/-- The values, by ascending key. -/
def values (t : Table κ ν) : List ν := t.toList.map Prod.snd

/-! ## Construction -/

/-- The table without keys. -/
def empty : Table κ ν := ⟨[], List.Pairwise.nil⟩

instance : EmptyCollection (Table κ ν) := ⟨empty⟩

instance : Inhabited (Table κ ν) := ⟨empty⟩

/-- Insertion into an ascending list: an equal key is replaced. -/
def insertList (k : κ) (v : ν) : List (κ × ν) → List (κ × ν)
  | [] => [(k, v)]
  | (k', v') :: rest =>
    match compare k k' with
    | .lt => (k, v) :: (k', v') :: rest
    | .eq => (k, v) :: rest
    | .gt => (k', v') :: insertList k v rest

theorem mem_insertList {k : κ} {v : ν} {e : κ × ν} {l : List (κ × ν)}
    (h : e ∈ insertList k v l) : e = (k, v) ∨ e ∈ l := by
  induction l with
  | nil => simpa [insertList] using h
  | cons hd tl ih =>
    unfold insertList at h
    split at h <;> simp only [List.mem_cons] at h ⊢
    · exact h
    · rcases h with h | h
      · exact .inl h
      · exact .inr (.inr h)
    · rcases h with h | h
      · exact .inr (.inl h)
      · exact (ih h).imp id .inr

theorem insertList_ascending [Std.TransOrd κ] (k : κ) (v : ν) {l : List (κ × ν)}
    (h : l.Pairwise (fun a b => compare a.1 b.1 = .lt)) :
    (insertList k v l).Pairwise (fun a b => compare a.1 b.1 = .lt) := by
  induction l with
  | nil => simp [insertList]
  | cons hd tl ih =>
    obtain ⟨hhd, htl⟩ := List.pairwise_cons.1 h
    unfold insertList
    split
    next hlt =>
      refine List.pairwise_cons.2 ⟨fun e he => ?_, h⟩
      rcases List.mem_cons.1 he with rfl | he
      · exact hlt
      · exact Std.TransCmp.lt_trans hlt (hhd e he)
    next heq =>
      refine List.pairwise_cons.2 ⟨fun e he => ?_, htl⟩
      exact Std.TransCmp.lt_of_eq_of_lt heq (hhd e he)
    next hgt =>
      refine List.pairwise_cons.2 ⟨fun e he => ?_, ih htl⟩
      rcases mem_insertList he with rfl | he
      · exact Std.OrientedCmp.lt_of_gt hgt
      · exact hhd e he

/-- The table with `v` stored under `k`, whatever was there before. -/
def insert [Std.TransOrd κ] (t : Table κ ν) (k : κ) (v : ν) : Table κ ν :=
  ⟨insertList k v t.toList, insertList_ascending k v t.ascending⟩

/-- The entries that satisfy `p`. -/
def filter (p : κ → ν → Bool) (t : Table κ ν) : Table κ ν :=
  ⟨t.toList.filter (fun e => p e.1 e.2), t.ascending.filter _⟩

/-- The table without `k`. -/
def erase (t : Table κ ν) (k : κ) : Table κ ν :=
  t.filter (fun k' _ => compare k k' != .eq)

/-- The same keys, each value read through `f`. -/
def map (f : κ → ν → μ) (t : Table κ ν) : Table κ μ :=
  ⟨t.toList.map (fun e => (e.1, f e.1 e.2)), by
    have h := t.ascending
    rw [List.pairwise_map]
    exact h⟩

/-- The table of a list of pairs; of pairs with equal keys the last counts. -/
def ofList [Std.TransOrd κ] (l : List (κ × ν)) : Table κ ν :=
  l.foldl (fun t e => t.insert e.1 e.2) empty

/-! ## What the operations do to the view -/

@[simp] theorem get?_empty (k : κ) : (empty : Table κ ν).get? k = none := rfl

section Lawful

variable [Std.LawfulEqOrd κ]

theorem lookup_insertList (k k' : κ) (v : ν) (l : List (κ × ν)) :
    lookup k' (insertList k v l) = if compare k' k = .eq then some v else lookup k' l := by
  induction l with
  | nil => simp [insertList, lookup]
  | cons hd tl ih =>
    obtain ⟨a, b⟩ := hd
    unfold insertList
    split
    next => simp [lookup]
    next heq =>
      obtain rfl := Std.LawfulEqCmp.eq_of_compare heq
      simp only [lookup]
      split <;> rfl
    next hgt =>
      simp only [lookup, ih]
      by_cases h : compare k' k = .eq
      · obtain rfl := Std.LawfulEqCmp.eq_of_compare h
        simp [hgt]
      · simp [h]

@[simp] theorem get?_insert [Std.TransOrd κ] (t : Table κ ν) (k k' : κ) (v : ν) :
    (t.insert k v).get? k' = if compare k' k = .eq then some v else t.get? k' :=
  lookup_insertList k k' v t.toList

theorem lookup_eq_some_iff {l : List (κ × ν)}
    (h : l.Pairwise (fun a b => compare a.1 b.1 = .lt)) {k : κ} {v : ν} :
    lookup k l = some v ↔ (k, v) ∈ l := by
  induction l with
  | nil => simp [lookup]
  | cons hd tl ih =>
    obtain ⟨a, b⟩ := hd
    obtain ⟨hhd, htl⟩ := List.pairwise_cons.1 h
    simp only [lookup, List.mem_cons, Prod.mk.injEq]
    by_cases hk : compare k a = .eq
    · obtain rfl := Std.LawfulEqCmp.eq_of_compare hk
      simp only [hk, if_true, Option.some.injEq, true_and]
      refine ⟨fun e => .inl e.symm, ?_⟩
      rintro (rfl | hm)
      · rfl
      · exact absurd (hhd _ hm) (by simp)
    · simp only [hk, if_false, ih htl]
      constructor
      · exact .inr
      · rintro (⟨rfl, -⟩ | hm)
        · exact absurd Std.ReflCmp.compare_self hk
        · exact hm

/-- A look-up answers exactly the entries of the list. -/
theorem get?_eq_some_iff (t : Table κ ν) {k : κ} {v : ν} :
    t.get? k = some v ↔ (k, v) ∈ t.toList :=
  lookup_eq_some_iff t.ascending

@[simp] theorem get?_filter (p : κ → ν → Bool) (t : Table κ ν) (k : κ) :
    (t.filter p).get? k = (t.get? k).filter (p k) := by
  refine Option.ext fun v => ?_
  rw [get?_eq_some_iff, Option.filter_eq_some_iff, get?_eq_some_iff]
  simp [filter]

@[simp] theorem get?_erase (t : Table κ ν) (k k' : κ) :
    (t.erase k).get? k' = if compare k k' = .eq then none else t.get? k' := by
  rw [erase, get?_filter]
  by_cases h : compare k k' = .eq <;> cases t.get? k' <;> simp [h, Option.filter]

@[simp] theorem get?_map (f : κ → ν → μ) (t : Table κ ν) (k : κ) :
    (t.map f).get? k = (t.get? k).map (f k) := by
  refine Option.ext fun v => ?_
  rw [get?_eq_some_iff, Option.map_eq_some_iff]
  simp only [map, List.mem_map, Prod.mk.injEq]
  constructor
  · rintro ⟨⟨a, b⟩, hm, rfl, rfl⟩
    exact ⟨b, (get?_eq_some_iff t).2 hm, rfl⟩
  · rintro ⟨b, hm, rfl⟩
    exact ⟨(k, b), (get?_eq_some_iff t).1 hm, rfl, rfl⟩

/-- **One table per view.** Tables that answer every look-up alike are equal. -/
theorem ext_get? [Std.TransOrd κ] {s t : Table κ ν} (h : ∀ k, s.get? k = t.get? k) : s = t := by
  have hmem : ∀ e, e ∈ s.toList ↔ e ∈ t.toList := fun e => by
    rw [← get?_eq_some_iff (k := e.1) (v := e.2), h, get?_eq_some_iff]
  obtain ⟨l, hl⟩ := s
  obtain ⟨m, hm⟩ := t
  have hlm : l = m := by
    clear h
    simp only at hmem
    induction l generalizing m with
    | nil =>
      cases m with
      | nil => rfl
      | cons b m => exact absurd ((hmem b).2 (List.mem_cons_self)) (by simp)
    | cons a l ih =>
      cases m with
      | nil => exact absurd ((hmem a).1 (List.mem_cons_self)) (by simp)
      | cons b m =>
        obtain ⟨ha, hl'⟩ := List.pairwise_cons.1 hl
        obtain ⟨hb, hm'⟩ := List.pairwise_cons.1 hm
        have hirr : ∀ e : κ × ν, compare e.1 e.1 ≠ .lt := fun e => by simp
        have hab : a = b := by
          rcases List.mem_cons.1 ((hmem a).1 List.mem_cons_self) with e | hma
          · exact e
          · rcases List.mem_cons.1 ((hmem b).2 List.mem_cons_self) with e | hbl
            · exact e.symm
            · exact absurd (Std.TransCmp.lt_trans (ha b hbl) (hb a hma)) (hirr a)
        subst hab
        refine congrArg (a :: ·) (ih hl' m hm' fun e => ?_)
        have := hmem e
        simp only [List.mem_cons] at this
        constructor
        · intro he
          rcases this.1 (.inr he) with rfl | he'
          · exact absurd (ha _ he) (hirr _)
          · exact he'
        · intro he
          rcases this.2 (.inr he) with rfl | he'
          · exact absurd (hb _ he) (hirr _)
          · exact he'
  subst hlm
  rfl

end Lawful

end Table

end PcdCatalog

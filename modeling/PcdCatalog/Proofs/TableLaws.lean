import Mathlib.Data.List.Nodup
import PcdCatalog.Table

/-!
# Laws of tables

What the construction of a table from a list and the counting of its keys
say through `Table.get?`. Inserting a list one entry after the other leaves,
under each key, the last entry of the list (`get?_foldl_insert`); read
backwards the list is therefore searched from its end, and for a list that
came out of a table the direction does not matter (`lookup_reverse`). Nor does
any other order in which entries under different keys are inserted
(`foldl_insert_perm`).

Counting is by keys: an insertion adds one exactly when the key is new
(`size_insert`), and a filter never adds any (`size_filter_le`).

A table is in order by itself. Whatever else has to be is sorted by something that
can be compared, and ascends by it (`pairwise_mergeSort_compare`).
-/

namespace PcdCatalog

/-! ## Order -/

/-- Sorting leaves a list in the order by which it is sorted. -/
theorem pairwise_mergeSort_compare {α β : Type} [Ord β] [Std.TransOrd β] (f : α → β)
    (l : List α) :
    (l.mergeSort fun a b => (compare (f a) (f b)).isLE).Pairwise
      fun a b => (compare (f a) (f b)).isLE = true := by
  refine List.pairwise_mergeSort (fun _ _ _ => Std.TransCmp.isLE_trans) (fun a b => ?_) l
  cases hab : compare (f a) (f b) with
  | lt => rfl
  | eq => rfl
  | gt => rw [Std.OrientedCmp.lt_of_gt hab]; rfl

/-- What is in order and differs ascends. -/
theorem compare_eq_lt_of_isLE {β : Type} [Ord β] [Std.LawfulEqOrd β] {a b : β}
    (hle : (compare a b).isLE = true) (hne : a ≠ b) : compare a b = .lt := by
  cases hab : compare a b with
  | lt => rfl
  | eq => exact absurd (Std.LawfulEqOrd.eq_of_compare hab) hne
  | gt =>
    rw [hab] at hle
    exact absurd hle Bool.noConfusion

namespace Table

variable {κ ν μ : Type} [Ord κ]

/-! ## Searching lists -/

/-- A search goes on behind a list that has no answer. -/
theorem lookup_append (k : κ) (l m : List (κ × ν)) :
    lookup k (l ++ m) = (lookup k l).or (lookup k m) := by
  induction l with
  | nil => rfl
  | cons e l ih =>
    obtain ⟨a, b⟩ := e
    rw [List.cons_append, lookup, lookup, ih]
    split <;> rfl

/-- A search in a list whose values are read through a function. -/
theorem lookup_map (f : ν → μ) (k : κ) (l : List (κ × ν)) :
    lookup k (l.map (fun e => (e.1, f e.2))) = (lookup k l).map f := by
  induction l with
  | nil => rfl
  | cons e l ih =>
    obtain ⟨a, b⟩ := e
    rw [List.map_cons, lookup, lookup, ih]
    split <;> rfl

/-- What a search finds is an entry of the list, under an equal key. -/
theorem mem_of_lookup {k : κ} {v : ν} {l : List (κ × ν)} (h : lookup k l = some v) :
    ∃ a, compare k a = .eq ∧ (a, v) ∈ l := by
  induction l with
  | nil => exact absurd h (by simp [lookup])
  | cons e l ih =>
    obtain ⟨a, b⟩ := e
    rw [lookup] at h
    split at h
    next heq =>
      obtain rfl := Option.some.inj h
      exact ⟨a, heq, List.mem_cons_self⟩
    next =>
      obtain ⟨a', ha, hm⟩ := ih h
      exact ⟨a', ha, List.mem_cons_of_mem _ hm⟩

/-- A search finds something under every key of the list. -/
theorem exists_lookup [Std.ReflOrd κ] {k : κ} {v : ν} {l : List (κ × ν)} (h : (k, v) ∈ l) :
    ∃ v', lookup k l = some v' := by
  induction l with
  | nil => exact absurd h List.not_mem_nil
  | cons e l ih =>
    obtain ⟨a, b⟩ := e
    rw [lookup]
    split
    next => exact ⟨b, rfl⟩
    next hne =>
      rcases List.mem_cons.1 h with heq | h
      · rw [(Prod.mk.inj heq).1] at hne
        exact absurd Std.ReflCmp.compare_self hne
      · exact ih h

/-- No search finds a key that lies before all keys of the list. -/
theorem lookup_eq_none_of_lt {k : κ} {l : List (κ × ν)}
    (h : ∀ e ∈ l, compare k e.1 = .lt) : lookup k l = none := by
  rw [Option.eq_none_iff_forall_ne_some]
  intro v hv
  obtain ⟨a, ha, hm⟩ := mem_of_lookup hv
  rw [h _ hm] at ha
  exact absurd ha (by simp)

section Lawful

variable [Std.TransOrd κ] [Std.LawfulEqOrd κ]

omit [Std.TransOrd κ] in
/-- **A list in key order may be searched from either end.** -/
theorem lookup_reverse (k : κ) {l : List (κ × ν)}
    (h : l.Pairwise (fun a b => compare a.1 b.1 = .lt)) :
    lookup k l.reverse = lookup k l := by
  induction l with
  | nil => rfl
  | cons e l ih =>
    obtain ⟨a, b⟩ := e
    obtain ⟨ha, hl⟩ := List.pairwise_cons.1 h
    rw [List.reverse_cons, lookup_append, ih hl, lookup, lookup, lookup]
    split
    next heq =>
      obtain rfl := Std.LawfulEqCmp.eq_of_compare heq
      rw [lookup_eq_none_of_lt ha]
      rfl
    next => rw [Option.or_none]

/-- **Of entries inserted one after the other the last one under a key
counts**, and what was there before counts where there is none. -/
theorem get?_foldl_insert (k : κ) (l : List (κ × ν)) (t : Table κ ν) :
    (l.foldl (fun t e => t.insert e.1 e.2) t).get? k
      = (lookup k l.reverse).or (t.get? k) := by
  induction l generalizing t with
  | nil => rfl
  | cons e l ih =>
    obtain ⟨a, b⟩ := e
    rw [List.foldl_cons, ih, List.reverse_cons, lookup_append, Option.or_assoc,
      get?_insert, lookup, lookup]
    split <;> rfl

/-- Under different keys it does not matter what is inserted first. -/
theorem insert_comm (t : Table κ ν) {k k' : κ} (h : k ≠ k') (v v' : ν) :
    (t.insert k v).insert k' v' = (t.insert k' v').insert k v := by
  refine ext_get? fun j => ?_
  rw [get?_insert, get?_insert, get?_insert, get?_insert]
  by_cases hj : compare j k' = .eq
  · have hk : compare j k ≠ .eq := fun hk =>
      h ((Std.LawfulEqCmp.eq_of_compare hk).symm.trans (Std.LawfulEqCmp.eq_of_compare hj))
    rw [if_pos hj, if_neg hk, if_pos hj]
  · rw [if_neg hj, if_neg hj]

/-- **Entries under different keys can be inserted in any order.** -/
theorem foldl_insert_perm {l l' : List (κ × ν)} (hperm : l.Perm l')
    (hkeys : (l.map Prod.fst).Nodup) (t : Table κ ν) :
    l.foldl (fun t e => t.insert e.1 e.2) t = l'.foldl (fun t e => t.insert e.1 e.2) t := by
  refine hperm.foldl_eq' (fun a ha b hb t => ?_) t
  by_cases hab : a.1 = b.1
  · rw [List.inj_on_of_nodup_map hkeys ha hb hab]
  · exact t.insert_comm hab a.2 b.2

/-- The table of a list answers the last entry under a key. -/
theorem get?_ofList (k : κ) (l : List (κ × ν)) :
    (ofList l).get? k = lookup k l.reverse := by
  rw [ofList, get?_foldl_insert, get?_empty, Option.or_none]

omit [Std.TransOrd κ] in
/-- A search finds the first entry under its key. -/
theorem lookup_eq_some_iff_first {k : κ} {v : ν} {l : List (κ × ν)} :
    lookup k l = some v ↔ ∃ front back, l = front ++ (k, v) :: back ∧ ∀ e ∈ front, e.1 ≠ k := by
  induction l with
  | nil => simp [lookup]
  | cons e l ih =>
    obtain ⟨a, b⟩ := e
    rw [lookup]
    split
    next heq =>
      obtain rfl := Std.LawfulEqCmp.eq_of_compare heq
      constructor
      · intro h
        obtain rfl := Option.some.inj h
        exact ⟨[], l, rfl, fun e he => absurd he List.not_mem_nil⟩
      · rintro ⟨front, back, hl, hfront⟩
        cases front with
        | nil =>
          obtain ⟨-, rfl⟩ := Prod.mk.inj (List.cons.inj hl).1
          rfl
        | cons e front =>
          obtain ⟨rfl, -⟩ := List.cons.inj hl
          exact absurd rfl (hfront _ List.mem_cons_self)
    next hne =>
      rw [ih]
      constructor
      · rintro ⟨front, back, rfl, hfront⟩
        refine ⟨(a, b) :: front, back, rfl, List.forall_mem_cons.2 ⟨?_, hfront⟩⟩
        rintro rfl
        exact hne Std.ReflCmp.compare_self
      · rintro ⟨front, back, hl, hfront⟩
        cases front with
        | nil =>
          obtain ⟨rfl, -⟩ := Prod.mk.inj (List.cons.inj hl).1
          exact absurd Std.ReflCmp.compare_self hne
        | cons e front =>
          exact ⟨front, back, (List.cons.inj hl).2, (List.forall_mem_cons.1 hfront).2⟩

/-- **The table of a list holds the last entry under each key.** -/
theorem get?_ofList_eq_some_iff {k : κ} {v : ν} {l : List (κ × ν)} :
    (ofList l).get? k = some v
      ↔ ∃ early late, l = early ++ (k, v) :: late ∧ ∀ e ∈ late, e.1 ≠ k := by
  rw [get?_ofList, lookup_eq_some_iff_first]
  constructor
  · rintro ⟨front, back, hl, hfront⟩
    refine ⟨back.reverse, front.reverse, ?_, fun e he => hfront e (List.mem_reverse.1 he)⟩
    rw [← List.reverse_inj, hl]
    simp only [List.reverse_append, List.reverse_cons, List.reverse_reverse, List.append_assoc,
      List.cons_append, List.nil_append]
  · rintro ⟨early, late, rfl, hlate⟩
    refine ⟨late.reverse, early.reverse, ?_, fun e he => hlate e (List.mem_reverse.1 he)⟩
    simp only [List.reverse_append, List.reverse_cons, List.append_assoc, List.cons_append,
      List.nil_append]

/-- What the table of a list holds is an entry of the list. -/
theorem mem_of_get?_ofList {k : κ} {v : ν} {l : List (κ × ν)}
    (h : (ofList l).get? k = some v) : (k, v) ∈ l := by
  rw [get?_ofList] at h
  obtain ⟨a, ha, hm⟩ := mem_of_lookup h
  obtain rfl := Std.LawfulEqCmp.eq_of_compare ha
  exact List.mem_reverse.1 hm

/-- The keys of a list are those of its table. -/
theorem exists_get?_ofList {k : κ} {v : ν} {l : List (κ × ν)} (h : (k, v) ∈ l) :
    ∃ v', (ofList l).get? k = some v' := by
  rw [get?_ofList]
  exact exists_lookup (List.mem_reverse.2 h)

end Lawful

/-- A missing table holds nothing. -/
theorem get?_getD_empty (t : Option (Table κ ν)) (k : κ) :
    (t.getD ∅).get? k = t.bind (·.get? k) := by
  cases t <;> rfl

/-! ## Keys -/

/-- The keys are those under which something is stored. -/
theorem mem_keys [Std.LawfulEqOrd κ] {t : Table κ ν} {k : κ} :
    k ∈ t.keys ↔ ∃ v, t.get? k = some v := by
  unfold keys
  rw [List.mem_map]
  constructor
  · rintro ⟨⟨a, v⟩, hm, rfl⟩
    exact ⟨v, t.get?_eq_some_iff.2 hm⟩
  · rintro ⟨v, hv⟩
    exact ⟨(k, v), t.get?_eq_some_iff.1 hv, rfl⟩

/-- No key occurs twice. -/
theorem nodup_keys [Std.ReflOrd κ] (t : Table κ ν) : t.keys.Nodup := by
  refine List.pairwise_map.2 (t.ascending.imp fun {a b} hlt heq => ?_)
  rw [heq] at hlt
  exact absurd (Std.ReflCmp.compare_self.symm.trans hlt) (by simp)

/-- The entries under one key of a list in key order are the one that a search
finds. -/
theorem filter_eq_lookup [Std.TransOrd κ] [Std.LawfulEqOrd κ] (k : κ) {l : List (κ × ν)}
    (h : l.Pairwise (fun a b => compare a.1 b.1 = .lt)) :
    l.filter (fun e => compare k e.1 == .eq) = ((lookup k l).map fun v => (k, v)).toList := by
  induction l with
  | nil => rfl
  | cons e l ih =>
    obtain ⟨a, b⟩ := e
    obtain ⟨ha, hl⟩ := List.pairwise_cons.1 h
    rw [lookup, List.filter_cons, ih hl]
    by_cases hk : compare k a = .eq
    · obtain rfl := Std.LawfulEqCmp.eq_of_compare hk
      rw [if_pos (beq_iff_eq.2 hk), if_pos hk, lookup_eq_none_of_lt ha]
      rfl
    · rw [if_neg (fun h => hk (beq_iff_eq.1 h)), if_neg hk]

/-! ## Values read through a function -/

theorem keys_map (f : κ → ν → μ) (t : Table κ ν) : (t.map f).keys = t.keys := by
  simp [keys, map]

theorem values_map (f : ν → μ) (t : Table κ ν) : (t.map fun _ => f).values = t.values.map f := by
  simp [values, map]

theorem size_map (f : κ → ν → μ) (t : Table κ ν) : (t.map f).size = t.size := by
  simp [size, map]

theorem contains_map [Std.LawfulEqOrd κ] (f : κ → ν → μ) (t : Table κ ν) (k : κ) :
    (t.map f).contains k = t.contains k := by
  unfold contains
  rw [get?_map, Option.isSome_map]

/-- What is inserted is read through the function too. -/
theorem map_insert [Std.TransOrd κ] [Std.LawfulEqOrd κ] (f : ν → μ) (t : Table κ ν) (k : κ)
    (v : ν) : (t.insert k v).map (fun _ => f) = (t.map fun _ => f).insert k (f v) := by
  refine ext_get? fun k' => ?_
  rw [get?_map, get?_insert, get?_insert, get?_map]
  split <;> rfl

/-- A filter that only looks at what the function gives may come before or
after. -/
theorem map_filter [Std.TransOrd κ] [Std.LawfulEqOrd κ] (f : ν → μ) (p : κ → μ → Bool)
    (t : Table κ ν) :
    (t.filter fun k v => p k (f v)).map (fun _ => f) = (t.map fun _ => f).filter p := by
  refine ext_get? fun k => ?_
  rw [get?_map, get?_filter, get?_filter, get?_map, Option.filter_map]
  rfl

theorem map_ofList [Std.TransOrd κ] [Std.LawfulEqOrd κ] (f : ν → μ) (l : List (κ × ν)) :
    (ofList l).map (fun _ => f) = ofList (l.map fun e => (e.1, f e.2)) := by
  refine ext_get? fun k => ?_
  rw [get?_map, get?_ofList, get?_ofList, ← List.map_reverse, lookup_map]

/-! ## Counting keys -/

/-- Inserting into a list in key order adds one entry, unless it replaces
one. -/
theorem length_insertList [Std.TransOrd κ] (k : κ) (v : ν) {l : List (κ × ν)}
    (h : l.Pairwise (fun a b => compare a.1 b.1 = .lt)) :
    (insertList k v l).length = if (lookup k l).isSome then l.length else l.length + 1 := by
  induction l with
  | nil => rfl
  | cons e l ih =>
    obtain ⟨a, b⟩ := e
    obtain ⟨ha, hl⟩ := List.pairwise_cons.1 h
    unfold insertList
    split
    next hlt =>
      have hnone : lookup k ((a, b) :: l) = none := by
        refine lookup_eq_none_of_lt (fun e he => ?_)
        rcases List.mem_cons.1 he with rfl | he
        · exact hlt
        · exact Std.TransCmp.lt_trans hlt (ha e he)
      rw [hnone]
      rfl
    next heq => simp [lookup, heq]
    next hgt =>
      have hskip : lookup k ((a, b) :: l) = lookup k l := by
        rw [lookup, if_neg (by rw [hgt]; simp)]
      rw [hskip, List.length_cons, ih hl, List.length_cons]
      split <;> rfl

/-- **An insertion adds a key exactly when it is new.** -/
theorem size_insert [Std.TransOrd κ] (t : Table κ ν) (k : κ) (v : ν) :
    (t.insert k v).size = if t.contains k then t.size else t.size + 1 :=
  length_insertList k v t.ascending

/-- A filter adds no key. -/
theorem size_filter_le (p : κ → ν → Bool) (t : Table κ ν) : (t.filter p).size ≤ t.size :=
  List.length_filter_le _ _

end Table

end PcdCatalog

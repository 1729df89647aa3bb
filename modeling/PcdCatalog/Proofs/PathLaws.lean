import Mathlib.Data.List.Basic
import Mathlib.Tactic.SplitIfs
import PcdCatalog.Path

/-!
# Laws of paths

Two things are said about the order of paths. Names are compared by their code
points, and that is the order of their bytes (`Path.compare_eq_bytewise`): the encoding
of characters keeps their order, and none begins the encoding of another. And a
path that is put together from a directory and the names below it has the
components of the directory and then those names (`Path.key_join_of_names`), however
the two are spelled, so what lies below one directory is ordered by the names
from there on (`Path.compare_join`).

Both need the names to be such that a directory can have them (`Path.IsName`): a
slash would be read as the end of a component, and a dot would leave none.
-/

namespace PcdCatalog

/-- What two lists begin with in common does not decide their order. -/
theorem compare_append_left {α : Type} [Ord α] [Std.ReflOrd α] (k a b : List α) :
    compare (k ++ a) (k ++ b) = compare a b := by
  induction k with
  | nil => rfl
  | cons x k ih =>
    rw [List.cons_append, List.cons_append, List.compare_cons_cons, Std.ReflOrd.compare_self, ih]
    rfl

/-! ## The order of bytes -/

namespace Text

/-- The bytes of a text. -/
def bytes (s : String) : List UInt8 := s.toUTF8.data.toList

theorem bytes_eq_flatMap (s : String) : bytes s = s.toList.flatMap String.utf8EncodeChar := by
  have h := String.toByteArray_ofList (l := s.toList)
  rw [String.ofList_toList] at h
  unfold bytes
  rw [String.toUTF8_eq_toByteArray, h, List.utf8Encode, List.toList_data_toByteArray]

/-- Of two lists of bytes the first byte decides, and then the rest. -/
theorem compare_byte_cons_lt {a b : Nat} {l m : List UInt8} (ha : a < 256) (hb : b < 256) :
    compare (UInt8.ofNat a :: l) (UInt8.ofNat b :: m) = .lt
      ↔ a < b ∨ a = b ∧ compare l m = .lt := by
  have hlt : compare (UInt8.ofNat a) (UInt8.ofNat b) = .lt ↔ a < b := by
    refine compareOfLessAndEq_eq_lt.trans (UInt8.lt_iff_toNat_lt.trans ?_)
    rw [UInt8.toNat_ofNat', UInt8.toNat_ofNat', Nat.mod_eq_of_lt ha, Nat.mod_eq_of_lt hb]
  have heq : compare (UInt8.ofNat a) (UInt8.ofNat b) = .eq ↔ a = b := by
    refine Std.LawfulEqOrd.compare_eq_iff_eq.trans (UInt8.toNat_inj.symm.trans ?_)
    rw [UInt8.toNat_ofNat', UInt8.toNat_ofNat', Nat.mod_eq_of_lt ha, Nat.mod_eq_of_lt hb]
  rw [List.compare_cons_cons, Ordering.then_eq_lt, hlt, heq]

/-- **The encoding keeps the order of characters**, whatever stands behind them. -/
theorem compare_utf8EncodeChar {c d : Char} (h : c < d) (u v : List UInt8) :
    compare (String.utf8EncodeChar c ++ u) (String.utf8EncodeChar d ++ v) = .lt := by
  have hlt : c.val.toNat < d.val.toNat := h
  have hd : d.val.toNat < 0x110000 := by
    have := d.valid
    simp only [UInt32.isValidChar, Nat.isValidChar] at this
    omega
  unfold String.utf8EncodeChar
  generalize c.val.toNat = m, d.val.toNat = n at *
  dsimp only
  -- The code points in digits to the base 64, one for each byte.
  have digits : ∀ k < 0x110000,
      k / 64 / 64 = k / 4096 ∧ k / 4096 / 64 = k / 262144 ∧ k / 262144 % 8 = k / 262144 := by
    intro k hk
    exact ⟨Nat.div_div_eq_div_mul k 64 64, Nat.div_div_eq_div_mul k 4096 64,
      Nat.mod_eq_of_lt (by omega)⟩
  have hm := digits m (by omega)
  have hn := digits n hd
  -- A longer encoding has the larger first byte; of equal length, the first
  -- digit that differs decides.
  split_ifs
  all_goals try omega
  all_goals
    simp (disch := omega) only [List.cons_append, List.nil_append, compare_byte_cons_lt]
    omega

theorem compare_encoding {l m : List Char} (h : l < m) :
    compare (l.flatMap String.utf8EncodeChar) (m.flatMap String.utf8EncodeChar) = .lt := by
  have hlex : List.Lex (· < ·) l m := h
  induction hlex with
  | nil =>
    rename_i c m
    cases hc : String.utf8EncodeChar c with
    | nil => exact absurd hc String.utf8EncodeChar_ne_nil
    | cons b bs => rw [List.flatMap_cons, hc]; rfl
  | rel hcd => exact compare_utf8EncodeChar hcd _ _
  | cons hlm ih =>
    rw [List.flatMap_cons, List.flatMap_cons, compare_append_left]
    exact ih hlm

/-- **Texts are ordered by their bytes.** -/
theorem compare_eq_bytes (s t : String) : compare s t = compare (bytes s) (bytes t) := by
  have hlt : ∀ {s t : String}, compare s t = .lt → compare (bytes s) (bytes t) = .lt := by
    intro s t h
    have hst : s < t := compareOfLessAndEq_eq_lt.1 h
    rw [bytes_eq_flatMap, bytes_eq_flatMap]
    exact compare_encoding (String.lt_iff.1 hst)
  cases hst : compare s t with
  | lt => exact (hlt hst).symm
  | eq =>
    rw [Std.LawfulEqOrd.eq_of_compare hst]
    exact Std.ReflOrd.compare_self.symm
  | gt => exact (Std.OrientedCmp.gt_of_lt (hlt (Std.OrientedCmp.lt_of_gt hst))).symm

end Text

/-- Components by kind, and names by their bytes. -/
def Component.bytewise : Component → Component → Ordering :=
  compareLex (compareOn rank) (compareOn fun c => Text.bytes c.text)

theorem Component.compare_eq_bytewise (a b : Component) : compare a b = a.bytewise b := by
  show (compareOn rank a b).then (compare a.text b.text) = _
  rw [Text.compare_eq_bytes]
  rfl

namespace Path

/-- **Paths component by component, and names by their bytes.** -/
def bytewise (p q : Path) : Ordering := List.compareLex Component.bytewise p.key q.key

/-- That is the order of paths. -/
theorem compare_eq_bytewise (p q : Path) : compare p q = p.bytewise q := by
  have hcmp : (compare : Component → Component → Ordering) = Component.bytewise :=
    funext fun a => funext fun b => Component.compare_eq_bytewise a b
  unfold bytewise
  rw [← hcmp]
  rfl

/-! ## Names and pieces -/

/-- **A name that an entry of a directory can have.** -/
def IsName (name : String) : Prop :=
  name ≠ "" ∧ name ≠ "." ∧ name ≠ ".." ∧ '/' ∉ name.toList

instance (name : String) : Decidable (IsName name) :=
  inferInstanceAs (Decidable (_ ∧ _ ∧ _ ∧ _))

/-- A name leaves itself as a component. -/
theorem IsName.step? {name : String} (h : IsName name) :
    Path.step? name.toList = some (.name name) := by
  have hne : ∀ cs : List Char, name ≠ String.ofList cs → name.toList ≠ cs := by
    intro cs hn heq
    exact hn (by rw [← heq, String.ofList_toList])
  unfold Path.step?
  rw [if_neg (not_or.2 ⟨hne [] h.1, hne ['.'] h.2.1⟩), if_neg (hne ['.', '.'] h.2.2.1),
    String.ofList_toList]

theorem pieces_ne_nil (cs : List Char) : pieces cs ≠ [] := by
  fun_cases pieces cs <;> simp

/-- A slash ends a piece. -/
theorem pieces_append_slash (a b : List Char) :
    pieces (a ++ '/' :: b) = pieces a ++ pieces b := by
  induction a with
  | nil => simp [pieces]
  | cons c a ih =>
    rw [List.cons_append, pieces, pieces, ih]
    by_cases hc : c = '/'
    · rw [if_pos hc, if_pos hc, List.cons_append]
    · rw [if_neg hc, if_neg hc]
      cases hp : pieces a with
      | nil => exact absurd hp (pieces_ne_nil a)
      | cons p ps => rfl

theorem pieces_of_slashless {cs : List Char} (h : '/' ∉ cs) : pieces cs = [cs] := by
  induction cs with
  | nil => rfl
  | cons c cs ih =>
    obtain ⟨hc, hcs⟩ := not_or.1 (mt List.mem_cons.2 h)
    rw [pieces, if_neg (Ne.symm hc), ih hcs]

/-- Names with slashes between them are found again. -/
theorem pieces_intercalate {names : List (List Char)} (hne : names ≠ [])
    (h : ∀ n ∈ names, '/' ∉ n) : pieces (['/'].intercalate names) = names := by
  induction names with
  | nil => exact absurd rfl hne
  | cons n names ih =>
    obtain ⟨hn, hnames⟩ := List.forall_mem_cons.1 h
    cases names with
    | nil => rw [List.intercalate_singleton, pieces_of_slashless hn]
    | cons m names =>
      rw [List.intercalate_cons_cons, List.append_assoc, List.singleton_append,
        pieces_append_slash, pieces_of_slashless hn, ih (List.cons_ne_nil m names) hnames]
      rfl

/-- The components of a relative path: a dot counts at the very beginning only. -/
theorem componentsOf_relative {cs : List Char} (h : cs.head? ≠ some '/') :
    componentsOf cs
      = (if (pieces cs).head? = some ['.'] then [.here] else [])
        ++ (pieces cs).filterMap step? := by
  unfold componentsOf
  split
  next rest => exact absurd rfl h
  next =>
    dsimp only
    split <;> rfl

/-- The components of a text and a slash and another text are those of the two,
the second read as what lies below. -/
theorem componentsOf_append_slash {a : List Char} (ha : a ≠ []) (b : List Char) :
    componentsOf (a ++ '/' :: b) = componentsOf a ++ (pieces b).filterMap step? := by
  have hhead : (a ++ '/' :: b).head? = a.head? := List.head?_append_of_ne_nil a ha
  by_cases hc : a.head? = some '/'
  · obtain ⟨rest, rfl⟩ := List.head?_eq_some_iff.1 hc
    show Component.root :: (pieces (rest ++ '/' :: b)).filterMap step? = _
    rw [pieces_append_slash, List.filterMap_append]
    rfl
  · rw [componentsOf_relative (hhead ▸ hc), componentsOf_relative hc, pieces_append_slash,
      List.head?_append_of_ne_nil _ (pieces_ne_nil a), List.filterMap_append, List.append_assoc]

/-- So are those of a text and another one below it, a slash between them unless
the first ends in one. -/
theorem componentsOf_below {a : List Char} (ha : a ≠ []) (b : List Char) :
    componentsOf (if a.getLast? = some '/' then a ++ b else a ++ '/' :: b)
      = componentsOf a ++ (pieces b).filterMap step? := by
  split
  next hlast =>
    obtain ⟨front, rfl⟩ := List.getLast?_eq_some_iff.1 hlast
    rw [List.append_assoc, List.singleton_append]
    cases front with
    | nil => rfl
    | cons c front =>
      rw [componentsOf_append_slash (List.cons_ne_nil c front),
        componentsOf_append_slash (List.cons_ne_nil c front)]
      simp [pieces, step?]
  next => exact componentsOf_append_slash ha b

/-! ## Paths below a directory -/

/-- The pieces of names with slashes between them are the names. -/
theorem pieces_names {names : List String} (hne : names ≠ []) (h : ∀ n ∈ names, IsName n) :
    pieces (String.intercalate "/" names).toList = names.map String.toList := by
  rw [String.toList_intercalate]
  refine pieces_intercalate (by simpa using hne) fun cs hcs => ?_
  obtain ⟨n, hn, rfl⟩ := List.mem_map.1 hcs
  exact (h n hn).2.2.2

/-- They are a relative path. -/
theorem head?_names {names : List String} (hne : names ≠ []) (h : ∀ n ∈ names, IsName n) :
    (String.intercalate "/" names).toList.head? ≠ some '/' := by
  intro hhead
  obtain ⟨rest, hrest⟩ := List.head?_eq_some_iff.1 hhead
  have hpieces := pieces_names hne h
  rw [hrest, pieces, if_pos rfl] at hpieces
  cases names with
  | nil => exact hne rfl
  | cons n names =>
    have hn : n.toList = [] := (List.cons.inj hpieces).1.symm
    exact (h n List.mem_cons_self).1 (String.toList_eq_nil_iff.1 hn)

theorem filterMap_step?_names {names : List String} (hne : names ≠ [])
    (h : ∀ n ∈ names, IsName n) :
    (pieces (String.intercalate "/" names).toList).filterMap step? = names.map .name := by
  rw [pieces_names hne h, List.filterMap_map]
  exact List.filterMap_eq_map_iff_forall_eq_some.2 fun n hn => (h n hn).step?

/-- A path all of whose components are names is relative, and each of its pieces
that leaves a component leaves a name. -/
theorem filterMap_step?_of_names {r : Path} {names : List String}
    (hr : r.key = names.map .name) :
    r.text.toList.head? ≠ some '/' ∧ (pieces r.text.toList).filterMap step? = names.map .name := by
  have hfirst : ∀ c ∈ r.key.head?, ∃ n, c = .name n := by
    intro c hc
    rw [hr] at hc
    obtain ⟨n, -, rfl⟩ := List.mem_map.1 (List.mem_of_mem_head? hc)
    exact ⟨n, rfl⟩
  have hrel : r.text.toList.head? ≠ some '/' := by
    intro hhead
    obtain ⟨rest, hrest⟩ := List.head?_eq_some_iff.1 hhead
    have hkey : r.key = .root :: (pieces rest).filterMap step? := by
      unfold key
      rw [hrest]
      rfl
    obtain ⟨n, hn⟩ := hfirst .root (by rw [hkey]; rfl)
    exact Component.noConfusion hn
  refine ⟨hrel, ?_⟩
  have hkey : r.key = _ := componentsOf_relative hrel
  split at hkey
  · obtain ⟨n, hn⟩ := hfirst .here (by rw [hkey]; rfl)
    exact Component.noConfusion hn
  · exact hkey.symm.trans hr

/-- **The components of a path below a directory** are those of the directory and
then its own, however the two are spelled. -/
theorem key_join_of_names (root : Path) {r : Path} {names : List String}
    (hr : r.key = names.map .name) : (root.join r).key = root.key ++ names.map .name := by
  obtain ⟨hrel, hpieces⟩ := filterMap_step?_of_names hr
  unfold join
  rw [show r.isAbsolute = false from beq_eq_false_iff_ne.2 hrel, if_neg Bool.false_ne_true]
  by_cases hempty : root.text = ""
  · rw [if_pos (by simp [hempty])]
    show componentsOf (root.text ++ r.text).toList = componentsOf root.text.toList ++ _
    rw [hempty, String.empty_append]
    exact hr
  · have hne' : root.text.toList ≠ [] := mt String.toList_eq_nil_iff.1 hempty
    have hbelow := componentsOf_below hne' r.text.toList
    rw [hpieces] at hbelow
    refine Eq.trans ?_ hbelow
    by_cases hlast : root.text.toList.getLast? = some '/'
    · simp [key, hlast]
    · simp [key, hempty, hlast]

/-- The components of names with slashes between them are the names. -/
theorem key_names {names : List String} (hne : names ≠ []) (h : ∀ n ∈ names, IsName n) :
    Path.key ⟨String.intercalate "/" names⟩ = names.map .name := by
  have hdot : (pieces (String.intercalate "/" names).toList).head? ≠ some ['.'] := by
    rw [pieces_names hne h]
    cases names with
    | nil => exact absurd rfl hne
    | cons n names =>
      intro hn
      have hn : n.toList = ['.'] := Option.some.inj hn
      exact (h n List.mem_cons_self).2.1 (by rw [← String.ofList_toList (s := n), hn])
  show componentsOf (String.intercalate "/" names).toList = _
  rw [componentsOf_relative (head?_names hne h), if_neg hdot, filterMap_step?_names hne h]
  rfl

theorem key_join (root : Path) {names : List String} (hne : names ≠ [])
    (h : ∀ n ∈ names, IsName n) :
    (root.join ⟨String.intercalate "/" names⟩).key = root.key ++ names.map .name :=
  key_join_of_names root (key_names hne h)

/-- Names are ordered as texts. -/
theorem compare_names (l m : List String) :
    compare (l.map Component.name) (m.map Component.name) = compare l m := by
  induction l generalizing m with
  | nil => cases m <;> rfl
  | cons a l ih =>
    cases m with
    | nil => rfl
    | cons b m =>
      rw [List.map_cons, List.map_cons, List.compare_cons_cons, List.compare_cons_cons, ih]
      rfl

/-- **Paths below one directory are ordered by the names from there on.** -/
theorem compare_join (root : Path) {l m : List String} (hl : l ≠ []) (hm : m ≠ [])
    (hln : ∀ n ∈ l, IsName n) (hmn : ∀ n ∈ m, IsName n) :
    compare (root.join ⟨String.intercalate "/" l⟩) (root.join ⟨String.intercalate "/" m⟩)
      = compare l m := by
  show compare (root.join _).key (root.join _).key = _
  rw [key_join root hl hln, key_join root hm hmn, compare_append_left, compare_names]

end Path

end PcdCatalog

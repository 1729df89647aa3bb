import Mathlib.Data.List.DropRight
import PcdCatalog.Proofs.PathLaws
import PcdCatalog.Selection

/-!
# What decides whether a file is selected

A `Selection` looks at a path below its root in two places: at the file name, for the
extension, and at the components below the root, for the names to be ignored. Neither
depends on the root. The file name is the last component, and the components of the
root are taken off again as they were put in front (`Selection.relative_join`), so a
root inside a directory of an ignored name makes no difference.

A pattern is read in one of two ways. A name without a slash has at most one component
and is looked for among those of the path (`Selection.ignores_of_slashless`). Several
components have to begin the path (`Selection.ignores_of_several`). The slashes at the
end of a pattern are dropped before it is read, and they leave no component anyway, so
its components may be taken from the pattern as it is written
(`Selection.key_trimSlashes`).
-/

namespace PcdCatalog

/-! ## Extensions -/

namespace Path

/-- **A name ends in an extension**: what stands behind its last dot, if something
stands in front of the dot. -/
def EndsIn (name ext : String) : Prop :=
  ∃ stem, stem ≠ "" ∧ name = stem ++ "." ++ ext ∧ '.' ∉ ext.toList

theorem extensionOf?_append {stem ext : List Char} (hstem : stem ≠ []) (hext : '.' ∉ ext) :
    extensionOf? (stem ++ '.' :: ext) = some ext := by
  have hback : (stem ++ '.' :: ext).reverse = ext.reverse ++ '.' :: stem.reverse := by simp
  have hdotless : ∀ c ∈ ext.reverse, (c != '.') = true := fun c hc =>
    bne_iff_ne.2 fun h => hext (h ▸ List.mem_reverse.1 hc)
  have hlast : (ext.reverse ++ '.' :: stem.reverse).takeWhile (· != '.') = ext.reverse := by
    rw [List.takeWhile_append_of_pos hdotless, List.takeWhile_cons_of_neg (by simp),
      List.append_nil]
  unfold extensionOf?
  dsimp only
  rw [hback, hlast, List.drop_left]
  cases hrest : stem.reverse with
  | nil => exact absurd (List.reverse_eq_nil_iff.1 hrest) hstem
  | cons c rest => rw [List.reverse_reverse]

theorem eq_append_of_extensionOf? {name ext : List Char} (h : extensionOf? name = some ext) :
    ∃ stem, stem ≠ [] ∧ name = stem ++ '.' :: ext ∧ '.' ∉ ext := by
  have hsplit := List.takeWhile_append_dropWhile (p := (· != '.')) (l := name.reverse)
  have hdotless : ∀ c ∈ name.reverse.takeWhile (· != '.'), (c != '.') = true := fun c hc =>
    List.mem_takeWhile_imp (p := (· != '.')) hc
  have hfirst := List.head?_dropWhile_not (· != '.') name.reverse
  unfold extensionOf? at h
  dsimp only at h
  generalize name.reverse.takeWhile (· != '.') = last,
    name.reverse.dropWhile (· != '.') = front at *
  rw [← hsplit, List.drop_left] at h
  match front, h with
  | dot :: c :: rest, h =>
    obtain rfl : last.reverse = ext := Option.some.inj h
    obtain rfl : dot = '.' := by simpa using hfirst
    refine ⟨(c :: rest).reverse, by simp, ?_, fun hdot => ?_⟩
    · rw [← List.reverse_reverse name, ← hsplit]
      simp
    · simpa using hdotless '.' (List.mem_reverse.1 hdot)

/-- The extension of a path is what its file name ends in. -/
theorem extension?_eq_some_iff {p : Path} {name ext : String} (hname : p.fileName? = some name) :
    p.extension? = some ext ↔ EndsIn name ext := by
  unfold extension? EndsIn
  rw [hname, Option.bind_some, Option.map_eq_some_iff]
  constructor
  · rintro ⟨cs, hcs, rfl⟩
    obtain ⟨stem, hstem, heq, hdot⟩ := eq_append_of_extensionOf? hcs
    refine ⟨String.ofList stem, by simpa using hstem, ?_, by simpa using hdot⟩
    rw [← String.toList_inj]
    simpa using heq
  · rintro ⟨stem, hstem, rfl, hdot⟩
    refine ⟨ext.toList, ?_, String.ofList_toList⟩
    have hne : stem.toList ≠ [] := mt String.toList_eq_nil_iff.1 hstem
    simpa using extensionOf?_append hne hdot

/-! ## Below a directory -/

section Join

variable (root : Path) {r : Path} {names : List String}

theorem fileName?_join (hne : names ≠ []) (hr : r.key = names.map .name) :
    (root.join r).fileName? = some (names.getLast hne) := by
  unfold fileName?
  rw [key_join_of_names root hr, List.getLast?_append_of_ne_nil _ (by simpa using hne),
    List.getLast?_map, List.getLast?_eq_some_getLast hne]
  rfl

/-- The components below a directory are those of the path that was joined to it. -/
theorem below?_join (hr : r.key = names.map .name) :
    (root.join r).below? root = some (names.map .name) := by
  have hkey := key_join_of_names root hr
  have hstarts : (root.join r).startsWith root = true :=
    List.isPrefixOf_iff_prefix.2 (hkey ▸ List.prefix_append _ _)
  rw [below?, if_pos hstarts, hkey, List.drop_left]

end Join

/-! ## Slashes -/

theorem filterMap_step?_slashes {slashes : List Char} (h : ∀ c ∈ slashes, c = '/') :
    (pieces slashes).filterMap step? = [] := by
  induction slashes with
  | nil => rfl
  | cons c slashes ih =>
    obtain ⟨rfl, hslashes⟩ := List.forall_mem_cons.1 h
    rw [pieces, if_pos rfl, List.filterMap_cons_none rfl, ih hslashes]

/-- Slashes at the end leave no component. -/
theorem componentsOf_append_slashes {a slashes : List Char} (ha : a ≠ [])
    (h : ∀ c ∈ slashes, c = '/') : componentsOf (a ++ slashes) = componentsOf a := by
  cases slashes with
  | nil => rw [List.append_nil]
  | cons c slashes =>
    obtain ⟨rfl, hslashes⟩ := List.forall_mem_cons.1 h
    rw [componentsOf_append_slash ha, filterMap_step?_slashes hslashes, List.append_nil]

/-- Slashes alone are the root at most. -/
theorem length_componentsOf_slashes {slashes : List Char} (h : ∀ c ∈ slashes, c = '/') :
    (componentsOf slashes).length ≤ 1 := by
  cases slashes with
  | nil => decide
  | cons c slashes =>
    obtain ⟨rfl, hslashes⟩ := List.forall_mem_cons.1 h
    show (Component.root :: (pieces slashes).filterMap step?).length ≤ 1
    rw [filterMap_step?_slashes hslashes, List.length_singleton]

/-- Without a slash there is one component at most. -/
theorem length_key_of_slashless {p : Path} (h : '/' ∉ p.text.toList) : p.key.length ≤ 1 := by
  have hhead : p.text.toList.head? ≠ some '/' := fun hc => h (List.mem_of_mem_head? hc)
  unfold key
  rw [componentsOf_relative hhead, pieces_of_slashless h]
  by_cases hdot : p.text.toList = ['.']
  · rw [hdot]
    decide
  · rw [if_neg (by simpa using hdot), List.nil_append]
    exact List.length_filterMap_le step? _

end Path

namespace Selection

/-! ## Patterns -/

theorem toList_trimSlashes (s : String) :
    (trimSlashes s).toList = s.toList.rdropWhile (· == '/') := String.toList_ofList

theorem trimSlashes_append {slashes : String} (h : ∀ c ∈ slashes.toList, c = '/') (s : String) :
    trimSlashes (s ++ slashes) = trimSlashes s := by
  unfold trimSlashes
  rw [String.toList_append, List.reverse_append, List.dropWhile_append_of_pos]
  intro c hc
  exact beq_iff_eq.2 (h c (List.mem_reverse.1 hc))

theorem trimSlashes_of_slashless {s : String} (h : '/' ∉ s.toList) : trimSlashes s = s := by
  rw [← String.toList_inj, toList_trimSlashes, List.rdropWhile_eq_self_iff]
  intro hne hlast
  exact h (beq_iff_eq.1 hlast ▸ List.getLast_mem hne)

/-- **The components of a pattern** are the same with and without the slashes at its
end, if there are several. -/
theorem key_trimSlashes {pattern : String} (h : 1 < (Path.mk pattern).key.length) :
    (Path.mk (trimSlashes pattern)).key = (Path.mk pattern).key := by
  have hsplit := List.rdropWhile_append_rtakeWhile (p := (· == '/')) (l := pattern.toList)
  have hslashes : ∀ c ∈ pattern.toList.rtakeWhile (· == '/'), c = '/' := fun c hc =>
    beq_iff_eq.1 (List.mem_rtakeWhile_imp (p := (· == '/')) hc)
  show Path.componentsOf (trimSlashes pattern).toList = Path.componentsOf pattern.toList
  have h : 1 < (Path.componentsOf pattern.toList).length := h
  rw [toList_trimSlashes]
  generalize pattern.toList.rdropWhile (· == '/') = front,
    pattern.toList.rtakeWhile (· == '/') = slashes at *
  rw [← hsplit] at h ⊢
  refine (Path.componentsOf_append_slashes ?_ hslashes).symm
  -- A pattern that is trimmed to nothing has too few components.
  rintro rfl
  exact absurd (Path.length_componentsOf_slashes hslashes) (Nat.not_le.2 h)

/-- Slashes at its end do not change what a pattern ignores. -/
theorem ignores_append_slashes {slashes : String} (h : ∀ c ∈ slashes.toList, c = '/')
    (pattern : String) : ignores (pattern ++ slashes) = ignores pattern := by
  unfold ignores
  rw [trimSlashes_append h]

/-- **A name without a slash** ignores the paths that have it as a component. -/
theorem ignores_of_slashless {pattern : String} (h : '/' ∉ pattern.toList)
    (names : List String) : ignores pattern (names.map .name) = true ↔ pattern ∈ names := by
  unfold ignores
  rw [trimSlashes_of_slashless h]
  dsimp only
  rw [if_neg (Nat.not_lt.2 (Path.length_key_of_slashless h)), List.any_map, List.any_eq_true]
  simp [Component.text]

/-- **Several components** ignore the paths that begin with them. -/
theorem ignores_of_several {pattern : String} (h : 1 < (Path.mk pattern).key.length)
    (k : Path.Key) : ignores pattern k = true ↔ (Path.mk pattern).key <+: k := by
  unfold ignores
  dsimp only
  rw [key_trimSlashes h, if_pos h, List.isPrefixOf_iff_prefix]

/-- What ignores a path ignores what lies below it. -/
theorem ignores_append {pattern : String} {k : Path.Key} (h : ignores pattern k = true)
    (k' : Path.Key) : ignores pattern (k ++ k') = true := by
  unfold ignores at h ⊢
  dsimp only at h ⊢
  split at h
  next hseveral =>
    rw [if_pos hseveral, List.isPrefixOf_iff_prefix]
    exact (List.isPrefixOf_iff_prefix.1 h).trans (List.prefix_append k k')
  next hsingle =>
    rw [if_neg hsingle, List.any_append, h, Bool.true_or]

/-! ## Selected paths -/

section Join

variable (s : Selection) {r : Path} {names : List String}

theorem relative_join (hr : r.key = names.map .name) :
    s.relative (s.root.join r) = r.key := by
  rw [relative, Path.below?_join s.root hr, hr]
  rfl

theorem hasExtension_join (hne : names ≠ []) (hr : r.key = names.map .name) :
    s.hasExtension (s.root.join r) = true
      ↔ ∃ ext ∈ s.extensions, Path.EndsIn (names.getLast hne) ext := by
  unfold hasExtension
  simp only [Option.any_eq_true, List.contains_iff_mem,
    Path.extension?_eq_some_iff (Path.fileName?_join s.root hne hr)]
  exact exists_congr fun ext => and_comm

/-- **What is asked of a path below the root** is asked of the names below it. -/
theorem selects_join (hne : names ≠ []) (hr : r.key = names.map .name) :
    s.selects (s.root.join r) = true
      ↔ (∃ ext ∈ s.extensions, Path.EndsIn (names.getLast hne) ext)
        ∧ ∀ pattern ∈ s.ignored, ¬ ignores pattern r.key = true := by
  unfold selects
  rw [Bool.and_eq_true, s.hasExtension_join hne hr, s.relative_join hr]
  simp

end Join

theorem selects_congr (s : Selection) {p q : Path} (h : p.same q = true) :
    s.selects p = s.selects q := by
  have hkey : p.key = q.key := Path.same_iff.1 h
  unfold selects hasExtension relative Path.extension? Path.fileName? Path.below? Path.startsWith
  rw [hkey]

/-- **Whether a file is selected depends on the names below the root only.** A path of
names that is put below two roots is selected below both or below neither, whatever the
roots are called: its last name has to end in one of the extensions, and no pattern may
ignore the names. A pattern without a slash ignores them if it is one of them, a pattern
of several components if they begin with it. Two spellings of one path are both selected
or neither is, and slashes at the end of a pattern make no difference. -/
theorem selects_by_names (s : Selection) :
    (∀ (r : Path) (names : List String) (hne : names ≠ []), r.key = names.map .name →
      (∀ root, selects { s with root := root } (root.join r) = s.selects (s.root.join r))
      ∧ (s.selects (s.root.join r) = true
        ↔ (∃ ext ∈ s.extensions, Path.EndsIn (names.getLast hne) ext)
          ∧ ∀ pattern ∈ s.ignored, ¬ ignores pattern r.key = true)
      ∧ (∀ pattern : String, '/' ∉ pattern.toList →
        (ignores pattern r.key = true ↔ pattern ∈ names))
      ∧ ∀ pattern : String, 1 < (Path.mk pattern).key.length →
        (ignores pattern r.key = true ↔ (Path.mk pattern).key <+: r.key))
    ∧ (∀ p q : Path, p.same q = true → s.selects p = s.selects q)
    ∧ ∀ pattern slashes : String, (∀ c ∈ slashes.toList, c = '/') →
        ignores (pattern ++ slashes) = ignores pattern := by
  refine ⟨fun r names hne hr => ⟨fun root => ?_, s.selects_join hne hr,
    fun pattern h => hr ▸ ignores_of_slashless h names,
    fun pattern h => ignores_of_several h r.key⟩,
    fun p q => s.selects_congr, fun pattern slashes h => ignores_append_slashes h pattern⟩
  rw [Bool.eq_iff_iff, s.selects_join hne hr]
  exact selects_join { s with root := root } hne hr

/-- A root in a directory of an ignored name. -/
def underBuild : Selection :=
  ⟨⟨"/home/u/Build/edk2-target-ws"⟩, ["dec"], [".git", "Build", "Out/Tmp/"]⟩

/-- A package with slashes and a dot to spare. -/
def loose : Path := ⟨"Out//Pkg/./Pkg.v2.dec/"⟩

/-- It is selected there, as it is below another root and in another spelling. -/
theorem selects_by_names_underBuild :
    loose.key = ["Out", "Pkg", "Pkg.v2.dec"].map .name
      ∧ underBuild.selects (underBuild.root.join loose) = true
      ∧ selects { underBuild with root := ⟨"/ws"⟩ } (Path.join ⟨"/ws"⟩ loose) = true
      ∧ underBuild.selects ⟨"/home//u/Build/edk2-target-ws/Out/Pkg/Pkg.v2.dec"⟩ = true
      ∧ (ignores "Build" loose.key = true ↔ "Build" ∈ ["Out", "Pkg", "Pkg.v2.dec"])
      ∧ (ignores "Out/Tmp/" loose.key = true ↔ [.name "Out", .name "Tmp"] <+: loose.key)
      ∧ ignores ("Out/Tmp" ++ "//") = ignores "Out/Tmp" := by
  have hr : loose.key = ["Out", "Pkg", "Pkg.v2.dec"].map .name := by decide +kernel
  obtain ⟨hbelow, hsame, hslashes⟩ := selects_by_names underBuild
  obtain ⟨hroot, hiff, hname, hseveral⟩ := hbelow loose _ (List.cons_ne_nil _ _) hr
  have hpattern : Path.key ⟨"Out/Tmp/"⟩ = [.name "Out", .name "Tmp"] := by decide +kernel
  have hends : Path.EndsIn "Pkg.v2.dec" "dec" := ⟨"Pkg.v2", by decide⟩
  have hselects : underBuild.selects (underBuild.root.join loose) = true := by
    refine hiff.2 ⟨⟨"dec", by decide, hends⟩, ?_⟩
    rw [hr]
    decide +kernel
  refine ⟨hr, hselects, (hroot _).trans hselects, (hsame _ _ ?_).trans hselects,
    hname "Build" (by decide), ?_, hslashes "Out/Tmp" "//" (by simp)⟩
  · decide +kernel
  · rw [← hpattern]
    exact hseveral "Out/Tmp/" (by rw [hpattern]; decide)

end Selection

end PcdCatalog

import PcdCatalog.Proofs.IgnoreRules
import PcdCatalog.Proofs.Listing
import PcdCatalog.Watch

/-!
# Which files are left out

A file is listed if it is selected *and* the walk gets to it, and the walk turns round at
whatever is hidden. What hides a place is found by going through lists of rules: those
of the configuration, then the `.ignore` files from the nearest directory upwards, then
those of the repository, then what the user has ignored. `Walk.Told` says the same
without going through anything. Each of these sources speaks through the nearest
directory that has a rule about the place, and of the sources the first that speaks is
heard (`Walk.verdict?_eq_some_iff`). Only inside a repository is any but the first of
them asked, and none of what lies above its top.

So of the files that are selected those are listed on the way to which nothing is
hidden (`Selection.mem_files_iff_selects`). A configuration of plain patterns has no part
in that: what its rules hide is not selected either. What is left are the ignore files
and the dots, and they are not asked when a file is watched. There can therefore be an
event about a file that is not listed (`Selection.selects_not_mem_files`).
-/

namespace PcdCatalog

namespace Walk

open Ignore

/-! ## The directories above a place -/

/-- **A place is above another.** -/
def Above (dir l : Location) : Prop := dir <+: l ∧ dir ≠ l

theorem Above.trans {a b c : Location} (hab : Above a b) (hbc : Above b c) : Above a c := by
  refine ⟨hab.1.trans hbc.1, ?_⟩
  rintro rfl
  exact hab.2 (hab.1.eq_of_length_le hbc.1.length_le)

theorem mem_above {dir l : Location} : dir ∈ above l ↔ Above dir l := by
  unfold above Above
  rw [List.mem_map]
  constructor
  · rintro ⟨n, hn, rfl⟩
    rw [List.mem_reverse, List.mem_range] at hn
    refine ⟨List.take_prefix n l, fun heq => ?_⟩
    have hlen := congrArg List.length heq
    rw [List.length_take_of_le hn.le] at hlen
    exact absurd hlen hn.ne
  · rintro ⟨⟨rest, rfl⟩, hne⟩
    refine ⟨dir.length, ?_, List.take_left⟩
    rw [List.mem_reverse, List.mem_range, List.length_append]
    refine Nat.lt_add_of_pos_right (List.length_pos_iff.2 ?_)
    rintro rfl
    exact hne (List.append_nil dir).symm

/-- The nearest comes first. -/
theorem pairwise_above (l : Location) : (above l).Pairwise fun a b => Above b a := by
  unfold above
  rw [List.pairwise_map, List.pairwise_reverse]
  refine List.pairwise_lt_range.imp_of_mem fun {m n} hm hn hlt => ?_
  refine ⟨List.take_prefix_take_left (Nat.le_of_lt hlt), fun heq => ?_⟩
  have hlen := congrArg List.length heq
  rw [List.mem_range] at hm hn
  rw [List.length_take_of_le hm.le, List.length_take_of_le hn.le] at hlen
  exact absurd hlen hlt.ne

/-- What comes before a directory is what lies between it and the place. -/
theorem mem_early_iff {dir l : Location} {early late : List Location}
    (h : above l = early ++ dir :: late) {e : Location} :
    e ∈ early ↔ Above e l ∧ Above dir e := by
  have hpairwise := pairwise_above l
  rw [h, List.pairwise_append, List.pairwise_cons] at hpairwise
  obtain ⟨-, ⟨hlate, -⟩, hearly⟩ := hpairwise
  constructor
  · intro he
    exact ⟨mem_above.1 (h ▸ List.mem_append_left _ he), hearly e he dir List.mem_cons_self⟩
  · rintro ⟨hel, hdir⟩
    have he := mem_above.2 hel
    rw [h, List.mem_append, List.mem_cons] at he
    refine he.resolve_right fun he => ?_
    cases he with
    | inl heq => exact hdir.2 heq.symm
    | inr he => exact hdir.2 (hdir.1.eq_of_length_le (hlate e he).1.length_le)

/-! ## Going through the directories -/

/-- What is found up to the first that stops the search is found before any that does. -/
theorem findSome?_throughFirst {α β : Type} {p : α → Bool} {f : α → Option β} {as : List α}
    {b : β} : (throughFirst p as).findSome? f = some b
      ↔ ∃ early a late, as = early ++ a :: late ∧ f a = some b
        ∧ ∀ e ∈ early, p e = false ∧ f e = none := by
  induction as with
  | nil => simp [throughFirst]
  | cons a as ih =>
    rw [throughFirst]
    constructor
    · intro h
      cases hfa : f a with
      | some c =>
        have hc : c = b := by
          split at h
          all_goals simpa [hfa] using h
        exact ⟨[], a, as, rfl, hc ▸ hfa, fun e he => absurd he List.not_mem_nil⟩
      | none =>
        split at h
        next => simp [hfa] at h
        next hp =>
          rw [List.findSome?_cons, hfa] at h
          obtain ⟨early, a', late, rfl, hb, hearly⟩ := ih.1 h
          refine ⟨a :: early, a', late, rfl, hb, List.forall_mem_cons.2 ⟨⟨?_, hfa⟩, hearly⟩⟩
          exact Bool.eq_false_iff.2 hp
    · rintro ⟨early, a', late, has, hb, hearly⟩
      cases early with
      | nil =>
        obtain ⟨rfl, rfl⟩ := List.cons.inj has
        split
        all_goals rw [List.findSome?_cons, hb]
      | cons e early =>
        obtain ⟨rfl, rfl⟩ := List.cons.inj has
        obtain ⟨⟨hp, hfa⟩, hearly⟩ := List.forall_mem_cons.1 hearly
        rw [if_neg (by simp [hp]), List.findSome?_cons, hfa]
        exact ih.2 ⟨early, a', late, rfl, hb, hearly⟩

section Telling

variable (d : Disk) (cwd : Location) (user : UserRules) (l : Location) (isDirectory : Bool)

/-- **The nearest directory with a rule about a place**, and what its rules say. Nothing in
between stops the search. -/
def Nearest (of : Local → List Rule) (stops : Local → Bool) (v : Verdict) : Prop :=
  ∃ dir, Above dir l ∧ Says (of (localRules d cwd dir)) (relativeBytes dir l) isDirectory v
    ∧ ∀ e, Above dir e → Above e l → stops (localRules d cwd e) = false
      ∧ ∀ r ∈ of (localRules d cwd e), r.applies (relativeBytes e l) isDirectory = false

/-- A directory above is the top of a repository. -/
def InRepository : Prop := ∃ dir, Above dir l ∧ d.present dir ⟨".git"⟩ = true

/-- **What is told about a place.** -/
inductive Told : Verdict → Prop
  /-- By an `.ignore` file. -/
  | always {v : Verdict} : Nearest d cwd l isDirectory Local.always (fun _ => false) v → Told v
  /-- By a `.gitignore` file of the repository. -/
  | versioned {v : Verdict} :
      (∀ u, ¬ Nearest d cwd l isDirectory Local.always (fun _ => false) u) → InRepository d l →
      Nearest d cwd l isDirectory Local.versioned Local.isTop v → Told v
  /-- By the list of files that the repository excludes. -/
  | excluded {v : Verdict} :
      (∀ u, ¬ Nearest d cwd l isDirectory Local.always (fun _ => false) u) → InRepository d l →
      (∀ u, ¬ Nearest d cwd l isDirectory Local.versioned Local.isTop u) →
      Nearest d cwd l isDirectory Local.excluded Local.isTop v → Told v
  /-- By the user, for all repositories. -/
  | user {v : Verdict} :
      (∀ u, ¬ Nearest d cwd l isDirectory Local.always (fun _ => false) u) → InRepository d l →
      (∀ u, ¬ Nearest d cwd l isDirectory Local.versioned Local.isTop u) →
      (∀ u, ¬ Nearest d cwd l isDirectory Local.excluded Local.isTop u) →
      user l isDirectory = some v → Told v

variable {d cwd user l isDirectory}

theorem firstVerdict?_throughFirst (of : Local → List Rule) (stops : Local → Bool)
    {v : Verdict} :
    firstVerdict? of (throughFirst (fun e => stops e.2)
        ((above l).map fun dir => (dir, localRules d cwd dir))) l isDirectory = some v
      ↔ Nearest d cwd l isDirectory of stops v := by
  unfold firstVerdict? Nearest
  rw [findSome?_throughFirst]
  constructor
  · rintro ⟨early, e, late, hsplit, hsays, hearly⟩
    obtain ⟨front, back, habove, hfront, hback⟩ := List.map_eq_append_iff.1 hsplit
    obtain ⟨dir, late', rfl, rfl, -⟩ := List.map_eq_cons_iff.1 hback
    refine ⟨dir, mem_above.1 (habove ▸ by simp), decide?_eq_some_iff.1 hsays, fun e hdir hl => ?_⟩
    have he := hearly (e, localRules d cwd e)
      (hfront ▸ List.mem_map_of_mem ((mem_early_iff habove).2 ⟨hl, hdir⟩))
    exact ⟨he.1, decide?_eq_none_iff.1 he.2⟩
  · rintro ⟨dir, hl, hsays, hbetween⟩
    obtain ⟨early, late, habove⟩ := List.append_of_mem (mem_above.2 hl)
    refine ⟨early.map fun e => (e, localRules d cwd e), (dir, localRules d cwd dir),
      late.map fun e => (e, localRules d cwd e), by rw [habove]; simp, decide?_eq_some_iff.2 hsays, ?_⟩
    rw [List.forall_mem_map]
    intro e he
    obtain ⟨hel, hdir⟩ := (mem_early_iff habove).1 he
    obtain ⟨hstop, hrules⟩ := hbetween e hdir hel
    exact ⟨hstop, decide?_eq_none_iff.2 hrules⟩

theorem firstVerdict?_throughFirst_eq_none (of : Local → List Rule) (stops : Local → Bool) :
    firstVerdict? of (throughFirst (fun e => stops e.2)
        ((above l).map fun dir => (dir, localRules d cwd dir))) l isDirectory = none
      ↔ ∀ v, ¬ Nearest d cwd l isDirectory of stops v := by
  rw [Option.eq_none_iff_forall_ne_some]
  exact forall_congr' fun v => not_congr (firstVerdict?_throughFirst of stops)

theorem throughFirst_of_never {α : Type} (as : List α) :
    throughFirst (fun _ => false) as = as := by
  induction as with
  | nil => rfl
  | cons a as ih => rw [throughFirst, if_neg (by simp), ih]

/-- **What is found by going through the rules is what is told.** -/
theorem verdict?_eq_some_iff {r : Rules}
    (hr : ∀ dir, Above dir l → r.directories.get? dir = some (localRules d cwd dir))
    {v : Verdict} : verdict? r l isDirectory = some v ↔ Told d cwd r.user l isDirectory v := by
  have hdirs : (above l).filterMap (fun dir => (r.directories.get? dir).map (dir, ·))
      = (above l).map fun dir => (dir, localRules d cwd dir) := by
    rw [← List.filterMap_eq_map]
    refine List.filterMap_congr fun dir hdir => ?_
    rw [hr dir (mem_above.1 hdir)]
    rfl
  have hin : ((above l).map fun dir => (dir, localRules d cwd dir)).any (fun e => e.2.isTop) = true
      ↔ InRepository d l := by
    rw [List.any_map, List.any_eq_true]
    exact exists_congr fun dir => and_congr_left fun _ => mem_above
  -- Nothing stops the search for `.ignore` files.
  have halways : ∀ u, firstVerdict? Local.always
        ((above l).map fun dir => (dir, localRules d cwd dir)) l isDirectory = some u
      ↔ Nearest d cwd l isDirectory Local.always (fun _ => false) u := by
    intro u
    rw [← throughFirst_of_never ((above l).map fun dir => (dir, localRules d cwd dir))]
    exact firstVerdict?_throughFirst Local.always fun _ => false
  have hsilent : firstVerdict? Local.always
        ((above l).map fun dir => (dir, localRules d cwd dir)) l isDirectory = none
      ↔ ∀ u, ¬ Nearest d cwd l isDirectory Local.always (fun _ => false) u := by
    rw [Option.eq_none_iff_forall_ne_some]
    exact forall_congr' fun u => not_congr (halways u)
  unfold verdict?
  dsimp only
  rw [hdirs]
  by_cases htop : InRepository d l
  · rw [hin.2 htop]
    simp only [if_true, Option.or_eq_some_iff, halways, hsilent, firstVerdict?_throughFirst,
      firstVerdict?_throughFirst_eq_none]
    constructor
    · rintro (h | ⟨h₁, h | ⟨h₂, h | ⟨h₃, h⟩⟩⟩)
      · exact .always h
      · exact .versioned h₁ htop h
      · exact .excluded h₁ htop h₂ h
      · exact .user h₁ htop h₂ h₃ h
    · rintro (h | ⟨h₁, -, h⟩ | ⟨h₁, -, h₂, h⟩ | ⟨h₁, -, h₂, h₃, h⟩)
      · exact .inl h
      · exact .inr ⟨h₁, .inl h⟩
      · exact .inr ⟨h₁, .inr ⟨h₂, .inl h⟩⟩
      · exact .inr ⟨h₁, .inr ⟨h₂, .inr ⟨h₃, h⟩⟩⟩
  · rw [Bool.eq_false_iff.2 (mt hin.1 htop)]
    have hnone : ∀ of, firstVerdict? of [] l isDirectory = none := fun _ => rfl
    simp only [Bool.false_eq_true, if_false, hnone, Option.or_eq_some_iff, halways]
    constructor
    · rintro (h | ⟨-, h | ⟨-, h | ⟨-, h⟩⟩⟩)
      · exact .always h
      all_goals exact absurd h (by simp)
    · rintro (h | ⟨-, hin, -⟩ | ⟨-, hin, -, -⟩ | ⟨-, hin, -, -, -⟩)
      · exact .inl h
      all_goals exact absurd hin htop

end Telling

/-! ## Hidden places -/

/-- What lies on the way to an entry of a tree is an entry. -/
theorem mem_keys_on_the_way {d : Disk} (hd : d.Tree) {base front back : Location}
    (h : base ++ (front ++ back) ∈ d.nodes.keys) (hfront : front ≠ []) :
    base ++ front ∈ d.nodes.keys := by
  by_cases hback : back = []
  · rwa [hback, List.append_nil] at h
  · have hdir : d.isDirectoryAt (base ++ front) = true :=
      hd.isDirectoryAt_above hback (by rwa [List.append_assoc])
    exact Disk.mem_keys_of_at? (by simp [hfront]) (Disk.isDirectoryAt_iff.1 hdir)

/-- What a directory says is known. -/
theorem get?_allRules {d : Disk} {dir : Location} (h : d.isDirectoryAt dir = true)
    (cwd : Location) : (allRules d cwd).get? dir = some (localRules d cwd dir) := by
  unfold allRules
  rw [Table.get?_insert]
  split
  next heq => rw [Std.LawfulEqOrd.eq_of_compare heq]
  next hne =>
    have hroot : dir ≠ [] := by
      rintro rfl
      exact hne Std.ReflOrd.compare_self
    have hat : d.nodes.get? dir = some .directory := by
      have hdir := Disk.isDirectoryAt_iff.1 h
      rwa [Disk.at?, if_neg (by simpa using hroot)] at hdir
    rw [Table.get?_map, Table.get?_filter, hat]
    simp [h]

theorem get?_allRules_of_above {d : Disk} (hd : d.Tree) {dir l : Location}
    (hl : l ∈ d.nodes.keys) (habove : Above dir l) (cwd : Location) :
    (allRules d cwd).get? dir = some (localRules d cwd dir) := by
  obtain ⟨⟨rest, rfl⟩, hne⟩ := habove
  have hrest : rest ≠ [] := by
    rintro rfl
    exact hne (List.append_nil dir).symm
  exact get?_allRules (hd.isDirectoryAt_above hrest hl) cwd

/-- The places on the way to a place are those that its names begin with. -/
theorem mem_along {root rest p : Location} : p ∈ along root (root ++ rest)
    ↔ ∃ front back, rest = front ++ back ∧ front ≠ [] ∧ p = root ++ front := by
  unfold along
  rw [List.length_append, Nat.add_sub_cancel_left, List.mem_map]
  constructor
  · rintro ⟨n, hn, rfl⟩
    refine ⟨rest.take (n + 1), rest.drop (n + 1), (List.take_append_drop _ _).symm, ?_, ?_⟩
    · rw [List.mem_range] at hn
      exact List.ne_nil_of_length_pos (by simp; omega)
    · rw [Nat.add_assoc, List.take_length_add_append]
  · rintro ⟨front, back, rfl, hfront, rfl⟩
    have hlen := List.length_pos_iff.2 hfront
    refine ⟨front.length - 1, ?_, ?_⟩
    · rw [List.mem_range, List.length_append]
      omega
    · rw [Nat.add_assoc, Nat.sub_add_cancel hlen, List.take_length_add_append, List.take_left]

end Walk

namespace Selection

open Ignore

variable (s : Selection) (d : Disk) (cwd : Location) (user : Walk.UserRules)

/-- **A place below the root is hidden**: by the configuration, by what is told about it,
or by a dot. -/
def Hides (base l : Location) : Prop :=
  (∃ r ∈ configuredRules s.ignored,
      r.applies (Walk.relativeBytes base l) (d.isDirectoryAt l) = true)
    ∨ Walk.Told d cwd user l (d.isDirectoryAt l) .hide
    ∨ (∀ v, ¬ Walk.Told d cwd user l (d.isDirectoryAt l) v) ∧ Walk.isDotName l = true

variable {d}

/-- **Nothing is told about an entry, or one thing only**, and that is found. -/
theorem told_cases (hd : d.Tree) {l : Location} (hl : l ∈ d.nodes.keys) (isDirectory : Bool) :
    (Walk.verdict? (s.rules d cwd user) l isDirectory = none
        ∧ ∀ u, ¬ Walk.Told d cwd user l isDirectory u)
      ∨ ∃ v, Walk.verdict? (s.rules d cwd user) l isDirectory = some v
        ∧ ∀ u, Walk.Told d cwd user l isDirectory u ↔ u = v := by
  have htold : ∀ u, Walk.verdict? (s.rules d cwd user) l isDirectory = some u
      ↔ Walk.Told d cwd user l isDirectory u := fun _ =>
    Walk.verdict?_eq_some_iff fun _ hdir => Walk.get?_allRules_of_above hd hl hdir cwd
  cases hverdict : Walk.verdict? (s.rules d cwd user) l isDirectory with
  | none =>
    refine .inl ⟨rfl, fun u hu => ?_⟩
    rw [← htold, hverdict] at hu
    exact absurd hu (by simp)
  | some v =>
    refine .inr ⟨v, rfl, fun u => ?_⟩
    rw [← htold, hverdict, Option.some_inj, eq_comm]

theorem skips_eq_true_iff (hd : d.Tree) {base l : Location} (hl : l ∈ d.nodes.keys) :
    Walk.skips d (s.rules d cwd user) base l = true ↔ s.Hides d cwd user base l := by
  unfold Walk.skips Walk.hidden Hides
  cases hconfigured : decide? (s.rules d cwd user).configured (Walk.relativeBytes base l)
      (d.isDirectoryAt l) with
  | some v =>
    obtain rfl := verdict_of_decide?_configuredRules hconfigured
    obtain ⟨early, r, late, hrules, -, happlies, -⟩ := decide?_eq_some_iff.1 hconfigured
    have hr : r ∈ configuredRules s.ignored := by
      show r ∈ (s.rules d cwd user).configured
      simp [hrules]
    exact iff_of_true (by simp) (.inl ⟨r, hr, happlies⟩)
  | none =>
    have hrules : ¬ ∃ r ∈ configuredRules s.ignored,
        r.applies (Walk.relativeBytes base l) (d.isDirectoryAt l) = true := by
      rintro ⟨r, hr, happlies⟩
      exact absurd happlies (by simp [decide?_eq_none_iff.1 hconfigured r hr])
    rw [or_iff_right hrules]
    dsimp only
    obtain ⟨hverdict, hnone⟩ | ⟨v, hverdict, honly⟩ :=
      s.told_cases cwd user hd hl (d.isDirectoryAt l)
    · rw [hverdict]
      simp [hnone]
    · rw [hverdict]
      simp only [honly]
      cases v <;> simp

/-! ## Listed files -/

variable {cwd}

/-- Below a directory those files are listed that a walk finds and that are selected. -/
theorem mem_files {base : Location} (hroot : d.resolve cwd s.root = .ok base)
    (hbase : d.isDirectoryAt base = true) {p : Path} :
    p ∈ s.files d cwd user
      ↔ (∃ l ∈ Walk.filesBelow d (s.rules d cwd user) base, Walk.spell s.root base l = p)
        ∧ s.selects p = true := by
  unfold files
  rw [hroot]
  simp only [hbase, if_true, List.mem_filter, List.mem_map]

section File

variable (hd : d.Tree) {base rest : Location} (hroot : d.resolve cwd s.root = .ok base)
  (hrest : rest ≠ []) (hfile : Walk.isFileAt d (base ++ rest) = true)

include hd hrest hfile

/-- What is selected, a plain configuration does not hide. -/
theorem hides_iff_of_plain (hplain : ∀ pattern ∈ s.ignored, ∃ names, Plain pattern names)
    (hselects : s.selects (Walk.spell s.root base (base ++ rest)) = true)
    {front back : Location} (hsplit : rest = front ++ back) (hfront : front ≠ []) :
    ¬ s.Hides d cwd user base (base ++ front)
      ↔ Walk.Told d cwd user (base ++ front) (d.isDirectoryAt (base ++ front)) .keep
        ∨ (∀ v, ¬ Walk.Told d cwd user (base ++ front) (d.isDirectoryAt (base ++ front)) v)
          ∧ Walk.isDotName (base ++ front) = false := by
  have hin := Walk.mem_keys_of_isFileAt hfile
  have hnames := hd.names_below hin
  subst hsplit
  have hrules : ¬ ∃ r ∈ configuredRules s.ignored,
      r.applies (Walk.relativeBytes base (base ++ front)) (d.isDirectoryAt (base ++ front))
        = true := by
    rintro ⟨r, hr, happlies⟩
    unfold Walk.relativeBytes at happlies
    rw [List.drop_left] at happlies
    obtain ⟨pattern, hpattern, hignores⟩ := exists_ignores_of_applies hplain hr hfront
      (fun n hn => hnames n (List.mem_append_left back hn)) happlies
    rw [Walk.spell_append, s.selects_join hrest (Path.key_names hrest hnames),
      Path.key_names hrest hnames, List.map_append] at hselects
    exact hselects.2 pattern hpattern (Selection.ignores_append hignores _)
  unfold Hides
  rw [or_iff_right hrules]
  obtain ⟨-, hnone⟩ | ⟨v, -, honly⟩ := s.told_cases cwd user hd
    (Walk.mem_keys_on_the_way hd hin hfront) (d.isDirectoryAt (base ++ front))
  · simp [hnone]
  · simp only [honly]
    cases v <;> simp

include hroot

/-- A file is listed if it is selected and nothing on the way to it is hidden. -/
theorem mem_files_iff : Walk.spell s.root base (base ++ rest) ∈ s.files d cwd user
    ↔ s.selects (Walk.spell s.root base (base ++ rest)) = true
      ∧ ∀ front back, rest = front ++ back → front ≠ [] →
        ¬ s.Hides d cwd user base (base ++ front) := by
  have hin := Walk.mem_keys_of_isFileAt hfile
  have hway : Walk.reached d (s.rules d cwd user) base (base ++ rest) = true
      ↔ ∀ front back, rest = front ++ back → front ≠ [] →
        ¬ s.Hides d cwd user base (base ++ front) := by
    rw [Walk.reached_iff]
    constructor
    · intro hskips front back hsplit hfront
      have hkeys := Walk.mem_keys_on_the_way hd (hsplit ▸ hin) hfront
      rw [← s.skips_eq_true_iff cwd user hd hkeys,
        hskips _ (Walk.mem_along.2 ⟨front, back, hsplit, hfront, rfl⟩)]
      exact Bool.false_ne_true
    · intro hhides p hp
      obtain ⟨front, back, hsplit, hfront, rfl⟩ := Walk.mem_along.1 hp
      have hkeys := Walk.mem_keys_on_the_way hd (hsplit ▸ hin) hfront
      exact Bool.eq_false_iff.2
        (mt (s.skips_eq_true_iff cwd user hd hkeys).1 (hhides front back hsplit hfront))
  rw [s.mem_files user hroot (hd.isDirectoryAt_above hrest hin), and_comm, ← hway]
  refine and_congr_right fun _ => ?_
  constructor
  · rintro ⟨l, hl, hspell⟩
    obtain ⟨⟨rest', hne, rfl⟩, hfile', hreached⟩ := Walk.mem_filesBelow.1 hl
    rwa [Walk.spell_inj hd s.root hne hrest (Walk.mem_keys_of_isFileAt hfile') hin hspell]
      at hreached
  · intro hreached
    exact ⟨_, Walk.mem_filesBelow.2 ⟨⟨rest, hrest, rfl⟩, hfile, hreached⟩, rfl⟩

end File

/-- A disk with one file, and a dot at the beginning of its name. -/
def dotted : Disk where
  nodes := { toList := [([".a.dec"], .file "  g.PcdA|1\n".toUTF8)], ascending := by simp }

/-- Every file with the extension of declarations that is not below a name to be ignored. -/
def outsideBuild : Selection := ⟨⟨"/"⟩, ["dec"], ["Build", "Pkg/Out"]⟩

/-- Its place can be told by its path. -/
theorem resolve_dotted : dotted.resolve [] ⟨"/.a.dec"⟩ = .ok [".a.dec"] := by
  have hpieces : Disk.pieces "/.a.dec" = [".a.dec"] := by decide +kernel
  have hpath : ¬ "/.a.dec".utf8ByteSize ≥ Disk.pathLimit := by decide +kernel
  have hname : ¬ ".a.dec".utf8ByteSize > Disk.nameLimit := by decide +kernel
  have hroot : dotted.isDirectoryAt [] = true := rfl
  have hat : dotted.at? [".a.dec"] = some (.file "  g.PcdA|1\n".toUTF8) := rfl
  unfold Disk.resolve Disk.locate
  rw [if_neg (by decide), if_neg (by decide +kernel), if_neg hpath, if_pos (by decide), hpieces,
    Disk.pursue]
  simp [hroot, hname, hat, Disk.pursue]

end Selection

end PcdCatalog

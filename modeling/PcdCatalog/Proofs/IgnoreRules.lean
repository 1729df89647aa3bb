import PcdCatalog.Ignore.Rule
import PcdCatalog.Proofs.FileMatching
import PcdCatalog.Proofs.LineTableLaws

/-!
# What ignore rules are about

Of several rules the last that matches decides (`Ignore.decide?_eq_some_iff`).
Whether one matches is found by following all places that its glob can reach in the
bytes of a path. Each of them is reached in a single run (`Ignore.Run`), piece after
piece, so what a match says about the path can be read off one run.

A configured pattern makes two rules, and both are exceptions: they keep what is to be
hidden (`Ignore.verdict_of_mem_configuredRules`). A pattern of names in which no
character has a meaning of its own (`Ignore.Plain`) is read as it stands. A single name
may be anywhere, several are counted from the root, and the second rule is about what
lies below. A slash is a byte of its own in the bytes of a path, so the names of a
pattern are whole names of the path, and a rule like this is about no place that the
pattern, looked for among the components, does not ignore as well
(`Ignore.ignores_of_applies`).
-/

namespace PcdCatalog.Ignore

/-! ## The rule that decides -/

/-- **What rules say about a path**: the last that matches decides. -/
def Says (rules : List Rule) (path : List UInt8) (isDirectory : Bool) (v : Verdict) : Prop :=
  ∃ early r late, rules = early ++ r :: late ∧ r.verdict = v
    ∧ r.applies path isDirectory = true ∧ ∀ l ∈ late, l.applies path isDirectory = false

section Deciding

variable {rules : List Rule} {path : List UInt8} {isDirectory : Bool}

theorem decide?_eq_some_iff {v : Verdict} :
    decide? rules path isDirectory = some v ↔ Says rules path isDirectory v := by
  unfold decide? Says
  simp only [Option.map_eq_some_iff, List.find?_eq_some_iff_append]
  constructor
  · rintro ⟨r, ⟨happlies, late, early, hrules, hlate⟩, hv⟩
    refine ⟨early.reverse, r, late.reverse, ?_, hv, happlies, fun l hl => ?_⟩
    · rw [← List.reverse_reverse rules, hrules]
      simp
    · simpa using hlate l (List.mem_reverse.1 hl)
  · rintro ⟨early, r, late, rfl, hv, happlies, hlate⟩
    refine ⟨r, ⟨happlies, late.reverse, early.reverse, by simp, fun l hl => ?_⟩, hv⟩
    simpa using hlate l (List.mem_reverse.1 hl)

theorem decide?_eq_none_iff :
    decide? rules path isDirectory = none ↔ ∀ r ∈ rules, r.applies path isDirectory = false := by
  simp [decide?]

end Deciding

/-! ## Runs of a glob -/

/-- **A run of pieces** takes a path from a rest to a rest of that. -/
inductive Run : List Piece → List UInt8 → List UInt8 → Prop
  | nil (bs : List UInt8) : Run [] bs bs
  | cons {p : Piece} {ps : List Piece} {a b c : List UInt8} :
      b ∈ p.after a → Run ps b c → Run (p :: ps) a c

theorem mem_of_mem_distinct {r : List UInt8} {rs : List (List UInt8)} (h : r ∈ distinct rs) :
    r ∈ rs := by
  have hfold : ∀ acc, r ∈ rs.foldl (fun acc r =>
      if acc.any (fun a => a.length == r.length) then acc else acc ++ [r]) acc
        → r ∈ acc ∨ r ∈ rs := by
    clear h
    induction rs with
    | nil => exact fun acc h => .inl h
    | cons s rs ih =>
      intro acc h
      rw [List.foldl_cons] at h
      have hnext := ih _ h
      split at hnext
      · exact hnext.imp_right (List.mem_cons_of_mem s)
      · rw [List.mem_append, List.mem_singleton] at hnext
        rw [List.mem_cons, ← or_assoc]
        exact hnext
  exact (hfold [] h).resolve_left List.not_mem_nil

/-- What is left in the end is left by one run. -/
theorem exists_run {ps : List Piece} {r : List UInt8} {rs : List (List UInt8)}
    (h : r ∈ afterAll ps rs) : ∃ a ∈ rs, Run ps a r := by
  induction ps generalizing rs with
  | nil =>
    rw [afterAll] at h
    exact ⟨r, h, .nil r⟩
  | cons p ps ih =>
    rw [afterAll] at h
    obtain ⟨b, hb, hrun⟩ := ih h
    obtain ⟨a, ha, hafter⟩ := List.mem_flatMap.1 (mem_of_mem_distinct hb)
    exact ⟨a, ha, .cons hafter hrun⟩

/-- A glob that matches has a run that leaves nothing. -/
theorem run_of_matches {glob : List Piece} {path : List UInt8} (hglob : glob ≠ [.leading])
    (h : Piece.matches glob path = true) : Run glob path [] := by
  unfold Piece.matches at h
  split at h
  · exact absurd rfl hglob
  · obtain ⟨r, hr, hempty⟩ := List.any_eq_true.1 h
    obtain rfl := List.isEmpty_iff.1 hempty
    obtain ⟨a, ha, hrun⟩ := exists_run hr
    rwa [List.mem_singleton.1 ha] at hrun

/-! ## Literal characters -/

/-- Characters that stand for themselves. -/
def literals (cs : List Char) : List Piece := cs.map fun c => .bytes (Glob.bytesOf c)

theorem bytesOf_eq (c : Char) : Glob.bytesOf c = String.utf8EncodeChar c := by
  show Text.bytes (String.singleton c) = _
  rw [Text.bytes_eq_flatMap, String.toList_singleton, List.flatMap_singleton]

theorem eq_append_of_behind? {text bs r : List UInt8} (h : behind? text bs = some r) :
    bs = text ++ r := by
  induction text, bs using behind?.induct with
  | case1 bs => exact Option.some.inj h
  | case2 a as bs ih =>
    rw [behind?, if_pos rfl] at h
    rw [ih h, List.cons_append]
  | case3 a as b bs hne =>
    rw [behind?, if_neg hne] at h
    exact absurd h (by simp)
  | case4 a as => exact absurd h (by simp [behind?])

/-- **Literal characters take their bytes.** -/
theorem Run.of_literals {cs : List Char} {ps : List Piece} {a c : List UInt8}
    (h : Run (literals cs ++ ps) a c) : ∃ b, a = Text.utf8 cs ++ b ∧ Run ps b c := by
  induction cs generalizing a with
  | nil => exact ⟨a, rfl, h⟩
  | cons char cs ih =>
    cases h with
    | cons hafter hrest =>
      obtain ⟨b, rfl, hrun⟩ := ih hrest
      rw [Piece.after, Option.mem_toList] at hafter
      refine ⟨b, ?_, hrun⟩
      rw [eq_append_of_behind? hafter, bytesOf_eq, Text.utf8_cons, List.append_assoc]

/-! ## Reading a plain pattern -/

/-- Whether a character can have a meaning of its own in a glob, other than a slash. -/
def isSpecial (c : Char) : Bool := ['*', '?', '[', '\\', '\x7b', '\x7d'].contains c

namespace Glob

/-- Outside of a choice a character without a meaning of its own is a piece. -/
theorem read?_literal {c : Char} (hc : isSpecial c = false) (fuel : Nat) (current : List Piece)
    (before : Option Char) (rest : List Char) :
    read? (fuel + 1) ⟨current, []⟩ before (c :: rest)
      = read? fuel ⟨.bytes (bytesOf c) :: current, []⟩ (some c) rest := by
  by_cases hcomma : c = ','
  · subst hcomma
    rfl
  · have hne : ∀ s, isSpecial s = true → c ≠ s := by
      rintro s hs rfl
      rw [hc] at hs
      exact Bool.false_ne_true hs
    rw [read?]
    · rfl
    all_goals first | exact hcomma | exact hne _ (by decide)

theorem read?_literals {cs : List Char} (hcs : ∀ c ∈ cs, isSpecial c = false) (fuel : Nat)
    (current : List Piece) (before : Option Char) (rest : List Char) :
    read? (fuel + cs.length) ⟨current, []⟩ before (cs ++ rest)
      = read? fuel ⟨(literals cs).reverse ++ current, []⟩ (cs.getLast?.or before) rest := by
  induction cs generalizing current before with
  | nil => rfl
  | cons c cs ih =>
    rw [List.forall_mem_cons] at hcs
    rw [List.length_cons, ← Nat.add_assoc, List.cons_append, read?_literal hcs.1, ih hcs.2]
    congr 1
    · simp [literals]
    · cases cs with
      | nil => rfl
      | cons d cs => simp only [List.getLast?_cons, Option.getD_some, Option.some_or]

/-- Nothing but characters that stand for themselves. -/
theorem parse?_literals {cs : List Char} (hcs : ∀ c ∈ cs, isSpecial c = false) :
    parse? (String.ofList cs) = some (literals cs) := by
  have hread := read?_literals hcs 1 [] none []
  rw [List.append_nil, Nat.add_comm] at hread
  unfold parse?
  dsimp only
  rw [String.toList_ofList, hread]
  simp [read?]

/-- Two stars in front of a name. -/
theorem parse?_anywhere {cs : List Char} (hcs : ∀ c ∈ cs, isSpecial c = false) :
    parse? (String.ofList (['*', '*', '/'] ++ cs)) = some (.leading :: literals cs) := by
  have hread : read? (cs.length + 4) ⟨[], []⟩ none (['*', '*', '/'] ++ cs)
      = read? (3 + cs.length) ⟨[.leading], []⟩ (some '/') (cs ++ []) := by
    rw [Nat.add_comm 3, List.append_nil]
    show read? _ _ (if cs.length < cs.length + 1 then some '/' else some '*') cs = _
    rw [if_pos (Nat.lt_succ_self _)]
    rfl
  unfold parse?
  dsimp only
  rw [String.toList_ofList, show (['*', '*', '/'] ++ cs).length + 1 = cs.length + 4 by simp,
    hread, read?_literals hcs]
  simp [read?]

/-- Two stars between a name and a star. -/
theorem parse?_inside {cs : List Char} (hcs : ∀ c ∈ cs, isSpecial c = false) :
    parse? (String.ofList (cs ++ ['/', '*', '*', '/', '*']))
      = some (literals cs ++ [.between, .many]) := by
  unfold parse?
  dsimp only
  have hread : ∀ before, read? 6 ⟨(literals cs).reverse ++ [], []⟩ before ['/', '*', '*', '/', '*']
      = some ⟨.many :: .between :: ((literals cs).reverse ++ []), []⟩ := fun _ => rfl
  rw [String.toList_ofList,
    show (cs ++ ['/', '*', '*', '/', '*']).length + 1 = 6 + cs.length by simp; omega,
    read?_literals hcs, hread]
  simp

end Glob

namespace Rule

/-- A line that does not end in a blank is left as it is. -/
theorem trimmed_eq_self {line : List Char} (h : line.getLast?.any Unicode.isSpace = false) :
    trimmed line = line := by
  unfold trimmed
  split
  · rfl
  · have hdrop : line.reverse.dropWhile Unicode.isSpace = line.reverse := by
      cases hline : line.reverse with
      | nil => rfl
      | cons c cs =>
        rw [List.getLast?_eq_head?_reverse, hline] at h
        exact List.dropWhile_cons_of_neg (Bool.not_eq_true _ ▸ h)
    rw [hdrop, List.reverse_reverse]

/-- An exception stays one. -/
theorem exists_trimmed (cs : List Char) : ∃ rest, trimmed ('!' :: cs) = '!' :: rest := by
  unfold trimmed
  split
  · exact ⟨cs, rfl⟩
  · rw [List.reverse_cons, List.dropWhile_append]
    split
    · exact ⟨[], rfl⟩
    · exact ⟨_, by rw [List.reverse_append]; rfl⟩

/-- **A line with an exclamation mark in front keeps** what it is about. -/
theorem verdict_of_exception {cs : List Char} {r : Rule} (h : ofLine? ('!' :: cs) = some r) :
    r.verdict = .keep := by
  obtain ⟨rest, htrim⟩ := exists_trimmed cs
  unfold ofLine? at h
  rw [if_neg (by simp [begins])] at h
  dsimp only at h
  rw [htrim, if_neg (by simp), if_neg (by simp [begins])] at h
  obtain ⟨glob, -, rfl⟩ := Option.map_eq_some_iff.1 h
  dsimp only
  split <;> rfl

/-- A name may be anywhere. -/
theorem globText_name {cs : List Char} (hslash : '/' ∉ cs) (hstar : '*' ∉ cs) :
    globText false cs = ['*', '*', '/'] ++ cs := by
  have hbegins : begins ['*', '*', '/'] cs = false := by
    refine Bool.eq_false_iff.2 fun h => hstar ?_
    exact (List.isPrefixOf_iff_prefix.1 h).subset (by simp)
  have hends : ends ['/', '*', '*'] (['*', '*', '/'] ++ cs) = false := by
    refine Bool.eq_false_iff.2 fun h => ?_
    obtain ⟨front, hfront⟩ := List.isSuffixOf_iff_suffix.1 h
    have hlast := congrArg List.getLast? hfront
    rw [List.getLast?_append_of_ne_nil _ (by simp), List.getLast?_append] at hlast
    cases hcs : cs.getLast? with
    | none => simp [hcs] at hlast
    | some c =>
      have hc : c = '*' := by simpa [hcs] using hlast.symm
      exact hstar (hc ▸ List.mem_of_getLast? hcs)
  have hne : cs ≠ ['*', '*'] := fun h => hstar (by simp [h])
  unfold globText
  simpa [hslash, hbegins, hne] using hends

/-- What has a slash, and no star, stays where it is. -/
theorem globText_several {cs : List Char} (hslash : '/' ∈ cs) (hstar : '*' ∉ cs) :
    globText false cs = cs := by
  have hends : ends ['/', '*', '*'] cs = false := by
    refine Bool.eq_false_iff.2 fun h => hstar ?_
    exact (List.isSuffixOf_iff_suffix.1 h).subset (by simp)
  unfold globText
  simp [hslash, hends]

/-- What is about all that lies below stays where it is. -/
theorem globText_inside (cs : List Char) :
    globText false (cs ++ ['/', '*', '*']) = cs ++ ['/', '*', '*', '/', '*'] := by
  have hends : ends ['/', '*', '*'] (cs ++ ['/', '*', '*']) = true :=
    List.isSuffixOf_iff_suffix.2 (List.suffix_append _ _)
  unfold globText
  simp [hends]

theorem ofLine?_exception {cs : List Char} (hcs : cs ≠ [])
    (hblank : cs.getLast?.any Unicode.isSpace = false) (hfirst : cs.head? ≠ some '/')
    (hlast : cs.getLast? ≠ some '/') :
    ofLine? ('!' :: cs) = (Glob.parse? (String.ofList (globText false cs))).map
      fun glob => ⟨glob, .keep, false⟩ := by
  have htrim : trimmed ('!' :: cs) = '!' :: cs := by
    refine trimmed_eq_self ?_
    rwa [List.getLast?_cons_of_ne_nil hcs]
  unfold ofLine?
  rw [if_neg (by simp [begins])]
  dsimp only
  rw [htrim, if_neg (by simp), if_neg (by simp [begins])]
  split
  next verdict rest heq =>
    have hslash : cs = '/' :: rest := heq
    exact absurd (by rw [hslash]; rfl) hfirst
  next =>
    simp [hlast]

end Rule

/-- **A plain pattern**: names with slashes between them, in which no character has a
meaning of its own and the last is no blank. -/
structure Plain (pattern : String) (names : List String) : Prop where
  eq_join : pattern = String.intercalate "/" names
  ne_nil : names ≠ []
  isName : ∀ n ∈ names, Path.IsName n
  literal : ∀ c ∈ pattern.toList, isSpecial c = false
  closed : pattern.toList.getLast?.any Unicode.isSpace = false

/-- Names with slashes between them end in the last name. -/
theorem exists_getLast?_names {names : List String} (hne : names ≠ [])
    (h : ∀ n ∈ names, Path.IsName n) :
    ∃ c ≠ '/', (String.intercalate "/" names).toList.getLast? = some c := by
  induction names with
  | nil => exact absurd rfl hne
  | cons n rest ih =>
    obtain ⟨hn, hrest⟩ := List.forall_mem_cons.1 h
    cases rest with
    | nil =>
      obtain ⟨c, hc⟩ := Option.isSome_iff_exists.1
        (List.getLast?_isSome.2 (mt String.toList_eq_nil_iff.1 hn.1))
      rw [String.intercalate_singleton]
      exact ⟨c, fun hslash => hn.2.2.2 (hslash ▸ List.mem_of_getLast? hc), hc⟩
    | cons m rest =>
      obtain ⟨c, hslash, hc⟩ := ih (by simp) hrest
      refine ⟨c, hslash, ?_⟩
      rw [String.intercalate_cons_cons, String.toList_append, List.getLast?_append, hc]
      rfl

namespace Plain

variable {pattern : String} {names : List String} (h : Plain pattern names)

include h

theorem toList_ne_nil : pattern.toList ≠ [] := by
  obtain ⟨c, -, hc⟩ := exists_getLast?_names h.ne_nil h.isName
  rw [← h.eq_join] at hc
  exact List.ne_nil_of_mem (List.mem_of_getLast? hc)

theorem head?_ne : pattern.toList.head? ≠ some '/' := by
  rw [h.eq_join]
  exact Path.head?_names h.ne_nil h.isName

theorem getLast?_ne : pattern.toList.getLast? ≠ some '/' := by
  obtain ⟨c, hslash, hc⟩ := exists_getLast?_names h.ne_nil h.isName
  rw [h.eq_join, hc]
  exact fun heq => hslash (Option.some.inj heq)

/-- **The rule for a plain pattern itself.** -/
theorem ofLine?_eq : Rule.ofLine? ("!" ++ pattern).toList
    = some ⟨if '/' ∈ pattern.toList then literals pattern.toList
        else .leading :: literals pattern.toList, .keep, false⟩ := by
  have hstar : '*' ∉ pattern.toList := fun hc => absurd (h.literal _ hc) (by decide)
  rw [String.toList_append]
  show Rule.ofLine? ('!' :: pattern.toList) = _
  rw [Rule.ofLine?_exception h.toList_ne_nil h.closed h.head?_ne h.getLast?_ne]
  split
  next hslash =>
    rw [Rule.globText_several hslash hstar, Glob.parse?_literals h.literal]
    rfl
  next hslash =>
    rw [Rule.globText_name hslash hstar, Glob.parse?_anywhere h.literal]
    rfl

/-- **The rule for what lies below.** -/
theorem ofLine?_below_eq : Rule.ofLine? ("!" ++ pattern ++ "/**").toList
    = some ⟨literals pattern.toList ++ [.between, .many], .keep, false⟩ := by
  have hlast : (pattern.toList ++ ['/', '*', '*']).getLast? = some '*' := by simp
  have hhead : (pattern.toList ++ ['/', '*', '*']).head? = pattern.toList.head? :=
    List.head?_append_of_ne_nil _ h.toList_ne_nil
  have hfirst := h.head?_ne
  rw [String.toList_append, String.toList_append]
  show Rule.ofLine? ('!' :: (pattern.toList ++ ['/', '*', '*'])) = _
  rw [Rule.ofLine?_exception (by simp) (by rw [hlast]; decide) (by rwa [hhead])
    (by rw [hlast]; decide), Rule.globText_inside, Glob.parse?_inside h.literal]
  rfl

end Plain

/-! ## The bytes of a path -/

theorem slash_mem_bytes {s : String} : slash ∈ Text.bytes s ↔ '/' ∈ s.toList := by
  rw [Text.bytes_eq_flatMap, List.mem_flatMap]
  constructor
  · rintro ⟨c, hc, hslash⟩
    rwa [← (Text.ascii_mem_utf8EncodeChar (a := '/') (by decide)).1 hslash]
  · exact fun h => ⟨'/', h, by decide⟩

theorem bytes_injective : Function.Injective Text.bytes := by
  intro s t h
  refine Std.LawfulEqOrd.eq_of_compare ?_
  rw [Text.compare_eq_bytes, h]
  exact Std.ReflOrd.compare_self

theorem bytes_join_cons (n m : String) (rest : List String) :
    Text.bytes (String.intercalate "/" (n :: m :: rest))
      = Text.bytes n ++ slash :: Text.bytes (String.intercalate "/" (m :: rest)) := by
  rw [String.intercalate_cons_cons]
  simp only [Text.bytes_eq_flatMap, String.toList_append, List.flatMap_append, List.append_assoc]
  rfl

theorem behindSlashes_of_slashless {bs : List UInt8} (h : slash ∉ bs) : behindSlashes bs = [] := by
  induction bs with
  | nil => rfl
  | cons b bs ih =>
    rw [List.mem_cons, not_or] at h
    rw [behindSlashes, if_neg (Ne.symm h.1), ih h.2]

theorem behindSlashes_append {a : List UInt8} (h : slash ∉ a) (b : List UInt8) :
    behindSlashes (a ++ slash :: b) = b :: behindSlashes b := by
  induction a with
  | nil => rw [List.nil_append, behindSlashes, if_pos rfl]
  | cons c a ih =>
    rw [List.mem_cons, not_or] at h
    rw [List.cons_append, behindSlashes, if_neg (Ne.symm h.1), ih h.2]

/-- What stands before the first slash can be told, and so can what stands behind it. -/
theorem append_slash_inj {a a' b b' : List UInt8} (ha : slash ∉ a) (ha' : slash ∉ a')
    (h : a ++ slash :: b = a' ++ slash :: b') : a = a' ∧ b = b' := by
  have hfront : ∀ {a : List UInt8}, slash ∉ a → ∀ b,
      (a ++ slash :: b).takeWhile (· != slash) = a := by
    intro a ha b
    have hne : ∀ c ∈ a, (c != slash) = true := by
      intro c hc
      exact bne_iff_ne.2 fun heq => ha (heq ▸ hc)
    rw [List.takeWhile_append_of_pos hne, List.takeWhile_cons_of_neg (by simp), List.append_nil]
  have heq : a = a' := by rw [← hfront ha b, h, hfront ha' b']
  subst heq
  exact ⟨rfl, List.cons_inj_right _ |>.1 (List.append_cancel_left h)⟩

/-! ## What a plain pattern is about -/

/-- What stands behind a slash, or is all of a path, and has no slash is the last name. -/
theorem mem_of_bytes_mem_behindSlashes {pattern : String} (hpattern : '/' ∉ pattern.toList)
    {names : List String} (hne : names ≠ []) (hnames : ∀ n ∈ names, Path.IsName n)
    (h : Text.bytes pattern ∈ Text.bytes (String.intercalate "/" names)
      :: behindSlashes (Text.bytes (String.intercalate "/" names))) : pattern ∈ names := by
  induction names with
  | nil => exact absurd rfl hne
  | cons n rest ih =>
    obtain ⟨hn, hrest⟩ := List.forall_mem_cons.1 hnames
    have hbytes := mt slash_mem_bytes.1 hn.2.2.2
    cases rest with
    | nil =>
      rw [String.intercalate_singleton, behindSlashes_of_slashless hbytes,
        List.mem_singleton] at h
      rw [bytes_injective h]
      exact List.mem_cons_self
    | cons m rest =>
      rw [bytes_join_cons, behindSlashes_append hbytes, List.mem_cons] at h
      refine List.mem_cons_of_mem n (ih (by simp) hrest (h.resolve_left fun hwhole => ?_))
      exact mt slash_mem_bytes.1 hpattern (by simp [hwhole])

/-- **What stands before a slash are names of the path**, its first. -/
theorem prefix_of_bytes_join_eq {first names : List String} (hne : first ≠ [])
    (hfirst : ∀ n ∈ first, Path.IsName n) (hnames : ∀ n ∈ names, Path.IsName n) {r : List UInt8}
    (h : Text.bytes (String.intercalate "/" names)
      = Text.bytes (String.intercalate "/" first) ++ slash :: r) : first <+: names := by
  induction first generalizing names with
  | nil => exact absurd rfl hne
  | cons p ps ih =>
    obtain ⟨hp, hps⟩ := List.forall_mem_cons.1 hfirst
    have hslash : slash ∈ Text.bytes (String.intercalate "/" names) := by simp [h]
    match names, hnames with
    | [], _ => exact absurd (slash_mem_bytes.1 hslash) (by decide)
    | [n], hnames =>
      rw [String.intercalate_singleton] at hslash
      exact absurd (slash_mem_bytes.1 hslash) (hnames n (by simp)).2.2.2
    | n :: m :: rest, hnames =>
      obtain ⟨hn, hrest⟩ := List.forall_mem_cons.1 hnames
      have hnbytes := mt slash_mem_bytes.1 hn.2.2.2
      have hpbytes := mt slash_mem_bytes.1 hp.2.2.2
      rw [bytes_join_cons] at h
      cases ps with
      | nil =>
        rw [String.intercalate_singleton] at h
        rw [bytes_injective (append_slash_inj hnbytes hpbytes h).1]
        exact List.prefix_append [p] _
      | cons q qs =>
        rw [bytes_join_cons, List.append_assoc, List.cons_append] at h
        obtain ⟨heq, hbehind⟩ := append_slash_inj hnbytes hpbytes h
        rw [bytes_injective heq]
        exact List.cons_prefix_cons.2 ⟨rfl, ih (by simp) hps hrest hbehind⟩

theorem bytes_eq_utf8 (s : String) : Text.bytes s = Text.utf8 s.toList := Text.bytes_eq_flatMap s

/-- Names that a path begins with ignore it, as names anywhere do. -/
theorem Plain.ignores_of_prefix {pattern : String} {pnames names : List String}
    (h : Plain pattern pnames) (hbegins : pnames <+: names) :
    Selection.ignores pattern (names.map .name) = true := by
  have hkey : (Path.mk pattern).key = pnames.map .name := by
    rw [h.eq_join]
    exact Path.key_names h.ne_nil h.isName
  match pnames, h with
  | [], h => exact absurd rfl h.ne_nil
  | [n], h =>
    have hn : pattern = n := by rw [h.eq_join, String.intercalate_singleton]
    subst hn
    exact (Selection.ignores_of_slashless (h.isName _ (by simp)).2.2.2 names).2
      (hbegins.subset (by simp))
  | n :: m :: rest, h =>
    refine (Selection.ignores_of_several (by simp [hkey]) _).2 ?_
    rw [hkey]
    exact hbegins.map _

/-- A name that may be anywhere is looked for among the names. -/
theorem ignores_of_anywhere {pattern : String} (hslash : '/' ∉ pattern.toList)
    {names : List String} (hne : names ≠ []) (hnames : ∀ n ∈ names, Path.IsName n)
    (h : Run (.leading :: literals pattern.toList)
      (Text.bytes (String.intercalate "/" names)) []) :
    Selection.ignores pattern (names.map .name) = true := by
  cases h with
  | cons hafter hrest =>
    rw [← List.append_nil (literals _)] at hrest
    obtain ⟨b, rfl, hrun⟩ := hrest.of_literals
    cases hrun
    rw [List.append_nil, ← bytes_eq_utf8] at hafter
    exact (Selection.ignores_of_slashless hslash names).2
      (mem_of_bytes_mem_behindSlashes hslash hne hnames (mem_of_mem_distinct hafter))

section About

variable {pattern : String} {pnames : List String} (hplain : Plain pattern pnames)
  {names : List String} (hne : names ≠ []) (hnames : ∀ n ∈ names, Path.IsName n)

include hplain hnames

theorem Plain.ignores_of_below
    (h : Run (literals pattern.toList ++ [.between, .many])
      (Text.bytes (String.intercalate "/" names)) []) :
    Selection.ignores pattern (names.map .name) = true := by
  obtain ⟨b, hpath, hrun⟩ := h.of_literals
  cases hrun with
  | @cons _ _ _ c _ hafter hrest =>
    cases b with
    | nil => exact absurd hafter List.not_mem_nil
    | cons first rest =>
      rw [Piece.after] at hafter
      split at hafter
      next hfirst =>
        rw [hfirst, ← bytes_eq_utf8, hplain.eq_join] at hpath
        exact hplain.ignores_of_prefix
          (prefix_of_bytes_join_eq hplain.ne_nil hplain.isName hnames hpath)
      next => exact absurd hafter List.not_mem_nil

include hne

theorem Plain.ignores_of_itself
    (h : Run (literals pattern.toList) (Text.bytes (String.intercalate "/" names)) []) :
    Selection.ignores pattern (names.map .name) = true := by
  rw [← List.append_nil (literals _)] at h
  obtain ⟨b, hpath, hrun⟩ := h.of_literals
  cases hrun
  rw [List.append_nil, ← bytes_eq_utf8] at hpath
  have hkeys := Path.key_names hne hnames
  rw [bytes_injective hpath, hplain.eq_join, Path.key_names hplain.ne_nil hplain.isName] at hkeys
  have heq : pnames = names := List.map_injective_iff.2 (fun _ _ => Component.name.inj) hkeys
  exact hplain.ignores_of_prefix (heq ▸ List.prefix_rfl)

/-- **What the rules of a plain pattern apply to, the pattern ignores.** -/
theorem Plain.ignores_of_applies {r : Rule} (hr : r ∈ configuredRules [pattern])
    {isDirectory : Bool}
    (h : r.applies (Text.bytes (String.intercalate "/" names)) isDirectory = true) :
    Selection.ignores pattern (names.map .name) = true := by
  have hliterals : ∀ p, literals pattern.toList ≠ [] ∧ literals pattern.toList ≠ [.leading]
      ∧ literals pattern.toList ++ [.between, p] ≠ [.leading] := by
    intro p
    refine ⟨by simpa [literals] using hplain.toList_ne_nil, ?_, fun heq => ?_⟩
    · simp [literals, List.map_eq_singleton_iff]
    · simpa using congrArg List.length heq
  have hmatches := (Bool.and_eq_true _ _ ▸ h : _ ∧ _).2
  rw [configuredRules, List.flatMap_singleton, hplain.ofLine?_eq, hplain.ofLine?_below_eq] at hr
  cases List.mem_pair.1 hr with
  | inl hitself =>
    subst hitself
    dsimp only at hmatches
    split at hmatches
    next =>
      exact hplain.ignores_of_itself hne hnames (run_of_matches (hliterals .many).2.1 hmatches)
    next hslash =>
      exact ignores_of_anywhere hslash hne hnames
        (run_of_matches (by simpa using (hliterals .many).1) hmatches)
  | inr hbelow =>
    subst hbelow
    exact hplain.ignores_of_below hnames (run_of_matches (hliterals .many).2.2 hmatches)

end About

/-! ## The rules of a configuration -/

/-- **What the rules of plain patterns apply to, one of the patterns ignores.** -/
theorem exists_ignores_of_applies {patterns : List String}
    (hplain : ∀ pattern ∈ patterns, ∃ names, Plain pattern names) {r : Rule}
    (hr : r ∈ configuredRules patterns) {names : List String} (hne : names ≠ [])
    (hnames : ∀ n ∈ names, Path.IsName n) {isDirectory : Bool}
    (h : r.applies (Text.bytes (String.intercalate "/" names)) isDirectory = true) :
    ∃ pattern ∈ patterns, Selection.ignores pattern (names.map .name) = true := by
  obtain ⟨pattern, hpattern, hrule⟩ := List.mem_flatMap.1 hr
  obtain ⟨pnames, hpnames⟩ := hplain pattern hpattern
  refine ⟨pattern, hpattern, hpnames.ignores_of_applies hne hnames ?_ h⟩
  rwa [configuredRules, List.flatMap_singleton]

/-- **The rules of a configuration are all exceptions.** -/
theorem verdict_of_mem_configuredRules {patterns : List String} {r : Rule}
    (hr : r ∈ configuredRules patterns) : r.verdict = .keep := by
  obtain ⟨p, -, hrule⟩ := List.mem_flatMap.1 hr
  rw [List.mem_append, Option.mem_toList, Option.mem_toList] at hrule
  cases hrule with
  | inl hitself =>
    rw [String.toList_append] at hitself
    exact Rule.verdict_of_exception hitself
  | inr hbelow =>
    rw [String.toList_append, String.toList_append, List.append_assoc] at hbelow
    exact Rule.verdict_of_exception hbelow

theorem verdict_of_decide?_configuredRules {patterns : List String} {path : List UInt8}
    {isDirectory : Bool} {v : Verdict}
    (h : decide? (configuredRules patterns) path isDirectory = some v) : v = .keep := by
  obtain ⟨early, r, late, hrules, rfl, -, -⟩ := decide?_eq_some_iff.1 h
  have hr : r ∈ configuredRules patterns := by simp [hrules]
  exact verdict_of_mem_configuredRules hr

end PcdCatalog.Ignore

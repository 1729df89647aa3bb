import PcdCatalog.Config

/-!
# Reading the pattern of ordinary declarations

`Extractor.ordinary` carries its pattern both as written and as a tree. The
tree is no second definition: it is what the reader of patterns makes of the
text (`Extractor.ofPattern_ordinaryPattern`), so a configuration that names the
ordinary pattern has the settings of one that names none
(`IndexConfig.settings_ordinaryPattern`).

The reader takes one item of a sequence after another, so each lemma below says
what one kind of item leaves behind: the text that remains and the items read
so far. All of them are about the flags a pattern starts with.
-/

namespace PcdCatalog

namespace Pattern

namespace Parser

/-! ## Bracketed classes -/

section Classes

variable (fuel : Nat) (items : CharSet) (rest : List Char)

theorem setItem_of_ne {c : Char} (hc : c ≠ '\\') :
    setItem {} (c :: rest) = some (.char c false, rest) := by
  rw [setItem]
  exact hc

theorem setRange_range {a b : Char} (ha : a ≠ '\\') (hb : b ∉ ['\\', '-', ']']) (hab : ¬ b < a) :
    setRange {} (a :: '-' :: b :: rest) = some (⟨[(a.toNat, b.toNat)]⟩, rest) := by
  simp only [List.mem_cons, List.not_mem_nil, or_false, not_or] at hb
  obtain ⟨hescape, hhyphen, hclose⟩ := hb
  have hskip : skip {} ('-' :: b :: rest) = '-' :: b :: rest := rfl
  have hskip' : skip {} (b :: rest) = b :: rest := rfl
  simp [setRange, setItem_of_ne _ ha, hskip, hskip', setItem_of_ne _ hescape, hhyphen, hclose,
    setChar, charOf, hab]

theorem setRange_single {a b : Char} (ha : a ≠ '\\') (hb : b ≠ '-') :
    setRange {} (a :: b :: rest) = some (.single a, b :: rest) := by
  have hskip : skip {} (b :: rest) = b :: rest := rfl
  simp [setRange, setItem_of_ne _ ha, hskip, hb, setChar, charOf]

/-- Where no operator, class or closing bracket stands, a class goes on with a
character or a range. -/
theorem setBody_of_setRange {c : Char} {set : CharSet} {past : List Char}
    (hc : c ∉ ['[', ']', '&', '-', '~']) (hset : setRange {} (c :: rest) = some (set, past)) :
    setBody {} (fuel + 1) none items (c :: rest)
      = setBody {} fuel none (items.union set) past := by
  have hskip : skip {} (c :: rest) = c :: rest := rfl
  rw [setBody]
  simp only [hskip]
  split
  case h_7 => simp [hset]
  all_goals simp_all

theorem setBody_close : setBody {} (fuel + 1) none items (']' :: rest) = some (items, rest) := rfl

theorem setOpening_of_notMem {c : Char} (hc : c ∉ ['^', '-', ']']) :
    setOpening {} (c :: rest) = (false, .empty, c :: rest) := by
  have hskip : skip {} (c :: rest) = c :: rest := rfl
  simp_all [setOpening, leadingHyphens]

theorem union_word :
    (((CharSet.empty.union ⟨[('A'.toNat, 'Z'.toNat)]⟩).union ⟨[('a'.toNat, 'z'.toNat)]⟩).union
      ⟨[('0'.toNat, '9'.toNat)]⟩).union (.single '_') = Extractor.wordSet := by
  simp [CharSet.union, CharSet.ofRanges, CharSet.fuse, CharSet.empty, CharSet.single,
    List.mergeSort, List.MergeSort.Internal.splitInTwo, Extractor.wordSet]

theorem bracketed_word :
    bracketed {} ("A-Za-z0-9_]".toList ++ rest) = some (Extractor.wordSet, rest) := by
  have hranges : ∀ fuel, setBody {} (fuel + 5) none .empty ("A-Za-z0-9_]".toList ++ rest)
      = some (Extractor.wordSet, rest) := by
    intro fuel
    show setBody {} (fuel + 5) none .empty
      ('A' :: '-' :: 'Z' :: 'a' :: '-' :: 'z' :: '0' :: '-' :: '9' :: '_' :: ']' :: rest) = _
    rw [setBody_of_setRange _ _ _ (by decide)
        (setRange_range _ (by decide) (by decide) (by decide)),
      setBody_of_setRange _ _ _ (by decide)
        (setRange_range _ (by decide) (by decide) (by decide)),
      setBody_of_setRange _ _ _ (by decide)
        (setRange_range _ (by decide) (by decide) (by decide)),
      setBody_of_setRange _ _ _ (by decide) (setRange_single _ (by decide) (by decide)),
      setBody_close, union_word]
  have hopening : setOpening {} ("A-Za-z0-9_]".toList ++ rest)
      = (false, .empty, "A-Za-z0-9_]".toList ++ rest) := setOpening_of_notMem _ (by decide)
  rw [bracketed, hopening]
  have hlength : ("A-Za-z0-9_]".toList ++ rest).length + 1 = rest.length + 7 + 5 := by
    simp
  simp only [hlength, hranges]
  rfl

end Classes

/-! ## Items of a sequence -/

/-- Characters that stand for themselves outside a class. -/
def isLiteral (c : Char) : Bool :=
  c ∉ ['\\', '.', '+', '*', '?', '(', ')', '|', '[', '\x7b', '^', '$']

section Items

variable (fuel : Nat) (rest : List Char) (groups : Nat) (names : List (List Char))
  (items : List Item)

theorem branch_literal {c : Char} (hc : isLiteral c = true) :
    branch (fuel + 1) {} ⟨c :: rest, groups, names⟩ items
      = branch fuel {} ⟨rest, groups, names⟩ (⟨some (.one (.single c)), 0⟩ :: items) := by
  have hne : ∀ d, isLiteral d = false → c ≠ d := by
    rintro d hd rfl
    rw [hc] at hd
    exact Bool.false_ne_true hd.symm
  have hskip : skip {} (c :: rest) = c :: rest := rfl
  rw [branch]
  simp only [hskip]
  split
  case h_14 heq =>
    obtain ⟨rfl, rfl⟩ := List.cons.inj heq
    rfl
  case h_1 heq => exact absurd heq (List.cons_ne_nil _ _)
  all_goals
    rename_i heq
    exact absurd (List.cons.inj heq).1 (hne _ (by decide))

theorem branch_escaped {c : Char} (hc : escape {} (c :: rest) = some (.char c false, rest)) :
    branch (fuel + 1) {} ⟨'\\' :: c :: rest, groups, names⟩ items
      = branch fuel {} ⟨rest, groups, names⟩ (⟨some (.one (.single c)), 0⟩ :: items) := by
  have hskip : skip {} ('\\' :: c :: rest) = '\\' :: c :: rest := rfl
  rw [branch]
  simp only [hskip, hc]
  rfl

theorem branch_dot :
    branch (fuel + 1) {} ⟨'.' :: rest, groups, names⟩ items
      = branch fuel {} ⟨rest, groups, names⟩
          (⟨some (.one (CharSet.single '\n').compl), 0⟩ :: items) := rfl

theorem branch_word :
    branch (fuel + 1) {} ⟨"[A-Za-z0-9_]".toList ++ rest, groups, names⟩ items
      = branch fuel {} ⟨rest, groups, names⟩ (⟨some (.one Extractor.wordSet), 1⟩ :: items) := by
  have hskip : skip {} ("[A-Za-z0-9_]".toList ++ rest)
      = '[' :: ("A-Za-z0-9_]".toList ++ rest) := rfl
  rw [branch]
  simp only [hskip, bracketed_word]
  rfl

theorem simple_greedy (r : Reader) (least : Nat) (most : Option Nat)
    (hrest : rest.head? ≠ some '?') (n : Node) (depth : Nat) :
    simple (fuel + 1) {} r least most rest (⟨some n, depth⟩ :: items)
      = branch fuel {} { r with rest := rest }
          (⟨some (n.repeated least most true), depth + 1⟩ :: items) := by
  rw [simple]
  · rfl
  · rintro tail rfl
    exact hrest rfl

theorem branch_star (hrest : rest.head? ≠ some '?') (n : Node) (depth : Nat) :
    branch (fuel + 2) {} ⟨'*' :: rest, groups, names⟩ (⟨some n, depth⟩ :: items)
      = branch fuel {} ⟨rest, groups, names⟩
          (⟨some (n.repeated 0 none true), depth + 1⟩ :: items) :=
  simple_greedy fuel rest items ⟨'*' :: rest, groups, names⟩ 0 none hrest n depth

theorem branch_plus (hrest : rest.head? ≠ some '?') (n : Node) (depth : Nat) :
    branch (fuel + 2) {} ⟨'+' :: rest, groups, names⟩ (⟨some n, depth⟩ :: items)
      = branch fuel {} ⟨rest, groups, names⟩
          (⟨some (n.repeated 1 none true), depth + 1⟩ :: items) :=
  simple_greedy fuel rest items ⟨'+' :: rest, groups, names⟩ 1 none hrest n depth

/-! ## Groups and ends -/

theorem branch_end :
    branch (fuel + 1) {} ⟨[], groups, names⟩ items = some (sequence items, {}, ⟨[], groups, names⟩) :=
  rfl

theorem branch_close (unicode : Bool) :
    branch (fuel + 1) { unicode := unicode } ⟨')' :: rest, groups, names⟩ items
      = some (sequence items, { unicode := unicode }, ⟨')' :: rest, groups, names⟩) := rfl

/-- A choice with one branch. -/
theorem choice_of_branch {f g : Flags} {r past : Reader} {n : Node} {depth : Nat}
    (hbranch : branch fuel f r [] = some ((n, depth), g, past)) (hbar : past.rest.head? ≠ some '|') :
    choice (fuel + 1) f r = some (⟨n, depth, false⟩, g, past) := by
  rw [choice, hbranch]
  simp only [Option.bind_eq_bind, Option.bind_some]
  split
  case h_1 heq => exact absurd (by rw [heq]; rfl) hbar
  case h_2 => rfl

/-- A group is read by the readers of its opening and of its body. -/
theorem branch_group {g g' : Flags} {r : Reader} {index : Option Nat} {b : Body} {past : List Char}
    {groups' : Nat} {names' : List (List Char)}
    (hopening : opening {} ⟨rest, groups, names⟩ = some (.group index g, r))
    (hbody : choice fuel g r = some (b, g', ⟨')' :: past, groups', names'⟩)) :
    branch (fuel + 1) {} ⟨'(' :: rest, groups, names⟩ items
      = branch fuel {} ⟨past, groups', names'⟩
          (⟨some (index.elim b.node (fun i => .group i b.node)), b.level + 1⟩ :: items) := by
  have hskip : skip {} ('(' :: rest) = '(' :: rest := rfl
  rw [branch]
  simp only [hskip, hopening, Option.bind_eq_bind, Option.bind_some, hbody]
  cases index <;> rfl

/-- A test for the end of a word, with the word characters of ASCII. -/
theorem branch_wordTest :
    branch (fuel + 4) {} ⟨"(?-u:\\b)".toList ++ rest, groups, names⟩ items
      = branch (fuel + 3) {} ⟨rest, groups, names⟩
          (⟨some (.look (.wordBoundary Extractor.wordSet)), 1⟩ :: items) := by
  have hword : wordSet { unicode := false } = Extractor.wordSet := by decide +kernel
  have htest : branch (fuel + 2) { unicode := false } ⟨'\\' :: 'b' :: ')' :: rest, groups, names⟩ []
      = some ((.look (.wordBoundary Extractor.wordSet), 0), { unicode := false },
          ⟨')' :: rest, groups, names⟩) := by
    rw [← hword]
    rfl
  have hopening : opening {} ⟨"?-u:\\b)".toList ++ rest, groups, names⟩
      = some (.group none { unicode := false }, ⟨"\\b)".toList ++ rest, groups, names⟩) := rfl
  exact branch_group (fuel + 3) _ groups names items hopening
    (choice_of_branch (fuel + 2) htest (by simp))

/-- The group that holds the name, up to its closing parenthesis. -/
theorem branch_name :
    branch (fuel + 9) {} ⟨"(Pcd[A-Za-z0-9_]+)".toList ++ rest, groups, names⟩ items
      = branch (fuel + 8) {} ⟨rest, groups + 1, names⟩
          (⟨some (.group (groups + 1) (.ofList [.one (.single 'P'), .one (.single 'c'),
            .one (.single 'd'), .rep 1 none true (.one Extractor.wordSet)])), 4⟩ :: items) := by
  have hbody : branch (fuel + 7) {}
      ⟨"Pcd[A-Za-z0-9_]+)".toList ++ rest, groups + 1, names⟩ []
      = some ((.ofList [.one (.single 'P'), .one (.single 'c'), .one (.single 'd'),
          .rep 1 none true (.one Extractor.wordSet)], 3), {},
          ⟨')' :: rest, groups + 1, names⟩) := by
    show branch (fuel + 7) {} ⟨'P' :: 'c' :: 'd' :: ("[A-Za-z0-9_]".toList ++ ('+' :: ')' :: rest)),
      groups + 1, names⟩ [] = _
    rw [branch_literal _ _ _ _ _ (by decide), branch_literal _ _ _ _ _ (by decide),
      branch_literal _ _ _ _ _ (by decide), branch_word, branch_plus _ _ _ _ _ (by simp),
      branch_close]
    rfl
  have hopening : opening {} ⟨"Pcd[A-Za-z0-9_]+)".toList ++ rest, groups, names⟩
      = some (.group (some (groups + 1)) {},
          ⟨"Pcd[A-Za-z0-9_]+)".toList ++ rest, groups + 1, names⟩) := rfl
  exact branch_group (fuel + 8) _ groups names items hopening
    (choice_of_branch (fuel + 7) hbody (by simp))

end Items

/-! ## The ordinary pattern -/

/-- The ordinary pattern, cut into its items. -/
theorem ordinaryPattern_toList :
    Extractor.ordinaryPattern.toList
      = "(?-u:\\b)".toList ++ ("[A-Za-z0-9_]".toList ++ '+' :: '\\' :: '.' ::
        ("(Pcd[A-Za-z0-9_]+)".toList ++ ' ' :: '*' :: '\\' :: '|' :: '.' :: '+' ::
        ("(?-u:\\b)".toList ++ []))) := rfl

theorem branch_ordinaryPattern (fuel : Nat) :
    branch (fuel + 20) {} ⟨Extractor.ordinaryPattern.toList, 0, []⟩ []
      = some ((Extractor.ordinary.pattern, 5), {}, ⟨[], 1, []⟩) := by
  rw [ordinaryPattern_toList, branch_wordTest, branch_word,
    branch_plus _ _ _ _ _ (by decide), branch_escaped _ _ _ _ _ rfl, branch_name,
    branch_literal _ _ _ _ _ (by decide), branch_star _ _ _ _ _ (by decide),
    branch_escaped _ _ _ _ _ rfl, branch_dot, branch_plus _ _ _ _ _ (by decide),
    branch_wordTest, branch_end]
  rfl

end Parser

theorem parse?_ordinaryPattern :
    parse? Extractor.ordinaryPattern = some Extractor.ordinary.pattern := by
  have hlength : Extractor.ordinaryPattern.toList.length = 55 := rfl
  have hchoice : Parser.choice (3 * Extractor.ordinaryPattern.toList.length + 3) {}
      { rest := Extractor.ordinaryPattern.toList }
      = some (⟨Extractor.ordinary.pattern, 5, false⟩, {}, ⟨[], 1, []⟩) := by
    rw [hlength]
    exact Parser.choice_of_branch 167 (Parser.branch_ordinaryPattern 147) (by simp)
  have hweight : Extractor.ordinary.pattern.weight ≤ weightLimit := by decide
  rw [parse?]
  simp only [hchoice, Option.bind_eq_bind, Option.bind_some]
  simp [Parser.Body.level, depthLimit, hweight]

end Pattern

theorem Extractor.ofPattern_ordinaryPattern : ofPattern ordinaryPattern = .ok ordinary := by
  rw [ofPattern, Pattern.parse?_ordinaryPattern]
  rfl

/-- **To name the ordinary pattern is to name none**: the settings are the same. -/
theorem IndexConfig.settings_ordinaryPattern (c : IndexConfig) :
    { c with declarationPattern := some Extractor.ordinaryPattern }.settings
      = { c with declarationPattern := none }.settings := by
  unfold settings
  simp only [Extractor.ofPattern_ordinaryPattern]

end PcdCatalog

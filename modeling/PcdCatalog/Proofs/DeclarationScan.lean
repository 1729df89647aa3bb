import PcdCatalog.Proofs.DeclarationGrammar

/-!
# Declarations line by line

The ordinary extractor finds in a text what the line scanner of the grammar
finds (`extract_ordinary_eq_scan`). What the pattern does at a single place is
known from the grammar; here the places of a text are walked through.

A line feed continues no run of the pattern, so at every place of a line the
rest of the text does not matter (`headAt_append`), and a search goes along a
line to its leftmost declaration or on behind it (`searchFrom_line`). The
search passes over heads that no word follows, while the scanner gives up at
the first of them; `leftmostFull_eq` is why that is the same. Behind a
declaration no word is left on the line, so the next match is on a later one,
and the matches of a text are those of its lines (`matches_ordinary`).
-/

namespace PcdCatalog.Grammar

open Text (isWordChar byteLength unitLength)
open Pattern (Node Hit Cursor Look Match)

/-! ## Heads -/

/-- **What a head at the start of a text consists of.** -/
structure Head.Heads (h : Head) (cs : List Char) : Prop where
  text : cs = h.lead ++ h.value
  first : h.before = []
  space_ne : h.space ≠ []
  space_word : ∀ c ∈ h.space, isWordChar c = true
  name_word : ∀ c ∈ h.name, isWordChar c = true
  name_pcd : isPcdName h.name = true
  gap_blank : ∀ c ∈ h.gap, c = ' '

theorem barAt_eq_some {cs gap value : List Char} (h : barAt cs = some (gap, value)) :
    cs = gap ++ '|' :: value ∧ ∀ c ∈ gap, c = ' ' := by
  have hsplit := List.takeWhile_append_dropWhile (p := (· == ' ')) (l := cs)
  unfold barAt at h
  split at h
  next value' hv =>
    obtain ⟨rfl, rfl⟩ := Prod.mk.inj (Option.some.inj h)
    rw [hv] at hsplit
    exact ⟨hsplit.symm, fun c hc => by simpa using List.mem_takeWhile_imp hc⟩
  next => exact absurd h (by simp)

theorem heads_of_headAt {cs : List Char} {h : Head} (hh : headAt cs = some h) : h.Heads cs := by
  unfold headAt at hh
  split at hh
  next => exact absurd hh (by simp)
  next hno =>
    obtain ⟨hne, hdot⟩ := not_or.1 hno
    obtain ⟨rest, hrest⟩ := List.head?_eq_some_iff.1 (Decidable.not_not.1 hdot)
    have hsplit := List.takeWhile_append_dropWhile (p := isWordChar) (l := cs)
    rw [hrest] at hsplit hh
    unfold nameAt at hh
    split at hh
    next hname =>
      obtain ⟨⟨gap, value⟩, hbar, rfl⟩ := Option.map_eq_some_iff.1 hh
      obtain ⟨hgap, hblank⟩ := barAt_eq_some hbar
      have hrun : rest = rest.takeWhile isWordChar ++ (gap ++ '|' :: value) := by
        rw [← hgap]
        exact List.takeWhile_append_dropWhile.symm
      refine ⟨?_, rfl, hne, fun c hc => List.mem_takeWhile_imp hc,
        fun c hc => List.mem_takeWhile_imp hc, hname, hblank⟩
      unfold Head.lead
      simp only [List.append_assoc, List.cons_append, List.nil_append, List.drop_succ_cons,
        List.drop_zero]
      rw [← hrun, hsplit]
    next => exact absurd hh (by simp)

/-! ## The end of a line -/

/-- What can follow a line: nothing, or a line feed. -/
def Closes (tl : List Char) : Prop := ∀ c ∈ tl.head?, c = '\n'

theorem closes_nil : Closes [] := fun c hc => absurd hc (by simp)

theorem closes_newline (rest : List Char) : Closes ('\n' :: rest) :=
  fun c hc => by simpa using hc.symm

/-- A run that a line feed cannot continue ends with the line. -/
theorem takeWhile_append_closes {p : Char → Bool} (hp : p '\n' = false) {tl : List Char}
    (ht : Closes tl) (line : List Char) : (line ++ tl).takeWhile p = line.takeWhile p := by
  induction line with
  | nil =>
    cases tl with
    | nil => rfl
    | cons c tl =>
      obtain rfl := ht c rfl
      exact List.takeWhile_cons_of_neg (by rw [hp]; simp)
  | cons c line ih => rw [List.cons_append, List.takeWhile_cons, List.takeWhile_cons, ih]

/-- What the run leaves then is followed by the same. -/
theorem dropWhile_append_closes {p : Char → Bool} (hp : p '\n' = false) {tl : List Char}
    (ht : Closes tl) (line : List Char) : (line ++ tl).dropWhile p = line.dropWhile p ++ tl := by
  induction line with
  | nil =>
    cases tl with
    | nil => rfl
    | cons c tl =>
      obtain rfl := ht c rfl
      exact List.dropWhile_cons_of_neg (by rw [hp]; simp)
  | cons c line ih =>
    rw [List.cons_append, List.dropWhile_cons, List.dropWhile_cons, ih]
    split <;> rfl

/-- The first character of a line, unless it is a line feed, is that of the text
that starts with the line. -/
theorem head?_append_closes {a : Char} (ha : a ≠ '\n') {tl : List Char} (ht : Closes tl)
    (line : List Char) : (line ++ tl).head? = some a ↔ line.head? = some a := by
  cases line with
  | nil =>
    constructor
    · intro h
      exact absurd (ht a h) ha
    · intro h
      exact absurd h (by simp)
  | cons c line => rfl

theorem barAt_append {tl : List Char} (ht : Closes tl) (line : List Char) :
    barAt (line ++ tl) = (barAt line).map fun b => (b.1, b.2 ++ tl) := by
  unfold barAt
  rw [takeWhile_append_closes rfl ht, dropWhile_append_closes rfl ht]
  cases hd : line.dropWhile (· == ' ') with
  | nil =>
    cases tl with
    | nil => rfl
    | cons c tl =>
      obtain rfl := ht c rfl
      rfl
  | cons x value =>
    by_cases hx : x = '|'
    · subst hx
      rfl
    · rw [List.cons_append]
      split
      next heq => exact absurd (List.cons.inj heq).1 hx
      next =>
        split
        next heq => exact absurd (List.cons.inj heq).1 hx
        next => rfl

/-- **A head is found on its line**, whatever the text goes on with. -/
theorem headAt_append {tl : List Char} (ht : Closes tl) (line : List Char) :
    headAt (line ++ tl) = (headAt line).map fun h => { h with value := h.value ++ tl } := by
  unfold headAt
  rw [takeWhile_append_closes rfl ht, dropWhile_append_closes rfl ht]
  by_cases hno : line.takeWhile isWordChar = [] ∨ (line.dropWhile isWordChar).head? ≠ some '.'
  · rw [if_pos hno, if_pos]
    · rfl
    · rwa [Ne, head?_append_closes (by decide) ht]
  · rw [if_neg hno, if_neg (by rwa [Ne, head?_append_closes (by decide) ht])]
    obtain ⟨rest, hrest⟩ :=
      List.head?_eq_some_iff.1 (Decidable.not_not.1 (not_or.1 hno).2)
    rw [hrest]
    show nameAt _ (rest ++ tl) = (nameAt _ rest).map _
    unfold nameAt
    rw [takeWhile_append_closes rfl ht, dropWhile_append_closes rfl ht, barAt_append ht]
    split
    · rw [Option.map_map, Option.map_map]
      rfl
    · rfl

/-! ## The leftmost head decides

A search tries the places of a line from left to right and passes over a head
without a word behind its bar. That the leftmost head of the line decides
anyway is what has to be shown here. -/

/-- The head at the start of a line, if a word follows its bar. -/
def fullAt (line : List Char) : Option Head :=
  (headAt line).filter fun h => h.value.any isWordChar

/-- The leftmost head with a word behind its bar. -/
def leftmostFull (inWord : Bool) : List Char → Option Head
  | [] => none
  | c :: rest =>
    match if inWord then none else fullAt (c :: rest) with
    | some h => some h
    | none => (leftmostFull (isWordChar c) rest).map fun h => { h with before := c :: h.before }

theorem headAt_cons_of_not_word {c : Char} (h : isWordChar c = false) (rest : List Char) :
    headAt (c :: rest) = none := by
  unfold headAt
  rw [List.takeWhile_cons_of_neg (by rw [h]; simp), if_pos (Or.inl rfl)]

theorem fullAt_cons_of_not_word {c : Char} (h : isWordChar c = false) (rest : List Char) :
    fullAt (c :: rest) = none := by
  unfold fullAt
  rw [headAt_cons_of_not_word h]
  rfl

/-- Where no head starts at the next character the search goes on behind it. -/
theorem leftmostFull_cons_eq_none {inWord : Bool} {c : Char} {rest : List Char}
    (hc : inWord = false → fullAt (c :: rest) = none)
    (hrest : leftmostFull (isWordChar c) rest = none) : leftmostFull inWord (c :: rest) = none := by
  rw [leftmostFull, hrest]
  cases inWord with
  | true => rfl
  | false => rw [hc rfl]; rfl

/-- There is no head without words. -/
theorem leftmostFull_eq_none_of_no_word {line : List Char} (h : line.any isWordChar = false)
    (inWord : Bool) : leftmostFull inWord line = none := by
  induction line generalizing inWord with
  | nil => rfl
  | cons c rest ih =>
    rw [List.any_cons, Bool.or_eq_false_iff] at h
    exact leftmostFull_cons_eq_none (fun _ => fullAt_cons_of_not_word h.1 rest) (ih h.2 _)

/-- There is none inside a word. -/
theorem leftmostFull_word_append {w rest : List Char} (hw : ∀ c ∈ w, isWordChar c = true)
    (hrest : leftmostFull true rest = none) : leftmostFull true (w ++ rest) = none := by
  induction w with
  | nil => exact hrest
  | cons c w ih =>
    refine leftmostFull_cons_eq_none (fun h => absurd h (by simp)) ?_
    rw [hw c List.mem_cons_self]
    exact ih fun d hd => hw d (List.mem_cons_of_mem c hd)

/-- A word that is followed by anything but a dot starts no head. -/
theorem headAt_word_append {w : List Char} (hw : ∀ c ∈ w, isWordChar c = true) {x : Char}
    (hx : isWordChar x = false) (hdot : x ≠ '.') (rest : List Char) :
    headAt (w ++ x :: rest) = none := by
  unfold headAt
  rw [List.dropWhile_append_of_pos hw, List.dropWhile_cons_of_neg (by rw [hx]; simp),
    if_pos (Or.inr (by simpa using hdot))]

/-- **Behind a head whose value has no word there is no head that has one**: the
name is followed by a blank or the bar, and then come no more words. -/
theorem leftmostFull_tail_of_heads {c : Char} {rest : List Char} {h : Head}
    (hh : h.Heads (c :: rest)) (hv : h.value.any isWordChar = false) :
    leftmostFull (isWordChar c) rest = none := by
  obtain ⟨d, space, hspace⟩ := List.exists_cons_of_ne_nil hh.space_ne
  obtain ⟨e, name, hname⟩ : ∃ e name, h.name = e :: name := by
    refine List.exists_cons_of_ne_nil (fun hnil => ?_)
    have hpcd := hh.name_pcd
    rw [hnil] at hpcd
    exact absurd hpcd (by simp [isPcdName])
  have htext := hh.text
  unfold Head.lead at htext
  rw [hspace, hname] at htext
  simp only [List.cons_append, List.append_assoc, List.nil_append, List.cons.injEq] at htext
  obtain ⟨rfl, rfl⟩ := htext
  have hsword := hh.space_word
  have hnword := hh.name_word
  rw [hspace] at hsword
  rw [hname] at hnword
  -- what stands behind the name: blanks, the bar and a value without words
  have hend : (h.gap ++ '|' :: h.value).any isWordChar = false := by
    have hgap : h.gap.any isWordChar = false := by
      rw [List.any_eq_false]
      intro x hx
      rw [hh.gap_blank x hx]
      decide
    rw [List.any_append, hgap, List.any_cons, hv]
    rfl
  have hfull : fullAt (e :: (name ++ (h.gap ++ '|' :: h.value))) = none := by
    unfold fullAt
    have hnone : headAt ((e :: name) ++ (h.gap ++ '|' :: h.value)) = none := by
      cases hg : h.gap with
      | nil => exact headAt_word_append hnword rfl (by decide) h.value
      | cons x gap =>
        have hx : x = ' ' := hh.gap_blank x (by rw [hg]; exact List.mem_cons_self)
        subst hx
        exact headAt_word_append hnword rfl (by decide) _
    rw [List.cons_append] at hnone
    rw [hnone]
    rfl
  rw [hsword c List.mem_cons_self]
  refine leftmostFull_word_append (fun x hx => hsword x (List.mem_cons_of_mem _ hx)) ?_
  refine leftmostFull_cons_eq_none (fun h => absurd h (by simp)) ?_
  refine leftmostFull_cons_eq_none (fun _ => hfull) ?_
  rw [hnword e List.mem_cons_self]
  refine leftmostFull_word_append (fun x hx => hnword x (List.mem_cons_of_mem _ hx)) ?_
  exact leftmostFull_eq_none_of_no_word hend true

/-- **The leftmost head decides.** -/
theorem leftmostFull_eq (inWord : Bool) (line : List Char) :
    leftmostFull inWord line
      = (leftmost inWord line).filter fun h => h.value.any isWordChar := by
  induction line generalizing inWord with
  | nil => rfl
  | cons c rest ih =>
    rw [leftmostFull, leftmost]
    have hskip : (leftmostFull (isWordChar c) rest).map
          (fun h => { h with before := c :: h.before })
        = ((leftmost (isWordChar c) rest).map fun h => { h with before := c :: h.before }).filter
          fun h => h.value.any isWordChar := by
      rw [ih, Option.filter_map]
      rfl
    cases inWord with
    | true => exact hskip
    | false =>
      unfold fullAt
      cases hh : headAt (c :: rest) with
      | none => exact hskip
      | some h =>
        cases hv : h.value.any isWordChar with
        | true =>
          have hkeep : Option.filter (fun h : Head => h.value.any isWordChar) (some h) = some h :=
            Option.filter_some_pos hv
          simp only [hkeep, Bool.false_eq_true, if_false]
        | false =>
          have hpass : Option.filter (fun h : Head => h.value.any isWordChar) (some h) = none :=
            Option.filter_some_neg (by simp [hv])
          -- the search goes on where the scanner gives up, and finds nothing
          rw [leftmostFull_tail_of_heads (heads_of_headAt hh) hv]
          simp only [hpass, Bool.false_eq_true, if_false, Option.map_none]

/-! ## A search reads one line -/

/-- The line through the end of a declaration. -/
def Head.reach (h : Head) : List Char := h.before ++ (h.lead ++ through h.value)

/-- The match of a head on a line that starts at `start`. -/
def matchOf (start : Nat) (h : Head) : Match where
  start := start + byteLength h.before
  stop := start + byteLength h.reach
  name := some (start + byteLength h.before + byteLength h.space + 1,
    start + byteLength h.before + byteLength h.space + 1 + byteLength h.name)

/-- A character in front of a line moves the matches on it. -/
theorem matchOf_add (off : Nat) (c : Char) (h : Head) :
    matchOf (off + c.utf8Size) h = matchOf off { h with before := c :: h.before } := by
  unfold matchOf Head.reach
  simp only [List.cons_append, byteLength, Nat.add_assoc]
  rfl

/-- A line is its own first line. -/
theorem firstLine_append {line tl : List Char} (hline : '\n' ∉ line) (ht : Closes tl) :
    firstLine (line ++ tl) = line := by
  unfold firstLine
  rw [takeWhile_append_closes rfl ht, List.takeWhile_eq_self_iff]
  intro c hc
  have hne : c ≠ '\n' := fun e => hline (e ▸ hc)
  simpa using hne

/-- **The preferred match at a place of a line.** -/
theorem matchAt_line {line tl : List Char} (hline : '\n' ∉ line) (ht : Closes tl)
    (b : Option Char) (off : Nat) :
    Extractor.ordinary.pattern.matchAt ⟨b, line ++ tl, off⟩
      = (if b.any isWordChar then none else fullAt line).map fun h =>
          (matchOf off h, (⟨b, line ++ tl, off⟩ : Cursor).skip h.reach) := by
  rw [matchAt_ordinary]
  unfold Cursor.behindIn fullAt
  rw [contains_wordSet, headAt_append ht]
  split
  · rfl
  cases hh : headAt line with
  | none => rfl
  | some h =>
    have hheads := heads_of_headAt hh
    have hvalue : firstLine (h.value ++ tl) = h.value := by
      refine firstLine_append (fun hmem => hline ?_) ht
      rw [hheads.text]
      exact List.mem_append_right _ hmem
    have hreach : h.reach = h.lead ++ through h.value := by
      unfold Head.reach
      rw [hheads.first]
      rfl
    rw [Option.map_some, Option.filter_some, Option.filter_some, hvalue]
    split
    · rw [Option.map_some, Option.map_some]
      refine congrArg some (Prod.ext ?_ ?_)
      · unfold matchOf endOf
        rw [hreach, hheads.first, hvalue, Cursor.skip_offset]
        rfl
      · unfold endOf
        rw [hreach, hvalue]
        rfl
    · rfl

/-- **A search goes along a line** to its leftmost declaration, and on behind
the line if there is none. -/
theorem searchFrom_line {line tl : List Char} (hline : '\n' ∉ line) (ht : Closes tl)
    (b : Option Char) (off : Nat) :
    Extractor.ordinary.pattern.searchFrom b off (line ++ tl)
      = match leftmostFull (b.any isWordChar) line with
        | some h => some (matchOf off h, (⟨b, line ++ tl, off⟩ : Cursor).skip h.reach)
        | none => Extractor.ordinary.pattern.searchFrom (line.getLast?.or b)
            (off + byteLength line) tl := by
  induction line generalizing b off with
  | nil => rfl
  | cons c rest ih =>
    have hrest : '\n' ∉ rest := fun hmem => hline (List.mem_cons_of_mem c hmem)
    have hmatch := matchAt_line hline ht b off
    rw [List.cons_append] at hmatch ⊢
    rw [Node.searchFrom, hmatch, ih hrest, leftmostFull]
    cases (if b.any isWordChar then none else fullAt (c :: rest)) with
    | some h => rfl
    | none =>
      show (match leftmostFull (isWordChar c) rest with
        | some h => _
        | none => _) = _
      cases leftmostFull (isWordChar c) rest with
      | some h =>
        refine congrArg some (Prod.ext ?_ rfl)
        exact matchOf_add off c h
      | none =>
        have hlast : rest.getLast?.or (some c) = (c :: rest).getLast?.or b := by
          rw [List.getLast?_cons]
          cases rest.getLast? <;> rfl
        show Extractor.ordinary.pattern.searchFrom _ _ tl
          = Extractor.ordinary.pattern.searchFrom _ (off + (c.utf8Size + byteLength rest)) tl
        rw [hlast, Nat.add_assoc]

/-- Behind the last line nothing is found. -/
theorem searchFrom_nil (b : Option Char) (off : Nat) :
    Extractor.ordinary.pattern.searchFrom b off [] = none := by
  refine (matchAt_line List.not_mem_nil closes_nil b off).trans ?_
  split <;> rfl

/-- At a line feed the search goes on with the next line. -/
theorem searchFrom_newline (b : Option Char) (off : Nat) (rest : List Char) :
    Extractor.ordinary.pattern.searchFrom b off ('\n' :: rest)
      = Extractor.ordinary.pattern.searchFrom (some '\n') (off + 1) rest := by
  have hmatch := matchAt_line List.not_mem_nil (closes_newline rest) b off
  rw [List.nil_append] at hmatch
  rw [Node.searchFrom, hmatch]
  split <;> rfl

/-- A match takes at least one character. -/
theorem start_lt_stop_of_searchFrom {b : Option Char} {off : Nat} {cs : List Char}
    {m : Match} {e : Cursor} (h : Extractor.ordinary.pattern.searchFrom b off cs = some (m, e)) :
    m.start < m.stop := by
  have hat : ∀ {c : Cursor}, Extractor.ordinary.pattern.matchAt c = some (m, e) →
      m.start < m.stop := by
    intro c hc
    rw [matchAt_ordinary] at hc
    split at hc
    · exact absurd hc (by simp)
    · obtain ⟨hd, -, heq⟩ := Option.map_eq_some_iff.1 hc
      obtain ⟨rfl, -⟩ := Prod.mk.inj heq
      show c.offset < (c.skip (hd.lead ++ _)).offset
      have hdot : 0 < byteLength hd.lead := by
        unfold Head.lead
        rw [Text.byteLength_append]
        exact Nat.lt_of_lt_of_le (Char.utf8Size_pos '.')
          (Nat.le_trans (Nat.le_add_right _ _) (Nat.le_add_left _ _))
      rw [Cursor.skip_offset, Text.byteLength_append]
      omega
  induction cs generalizing b off with
  | nil => exact hat h
  | cons x rest ih =>
    rw [Node.searchFrom, Option.or_eq_some_iff] at h
    rcases h with h | ⟨-, h⟩
    · exact hat h
    · exact ih h

/-- No match is empty, so none is passed over. -/
theorem searchAfter_ordinary (last : Option Nat) (c : Cursor) :
    Extractor.ordinary.pattern.searchAfter last c = Extractor.ordinary.pattern.search c := by
  unfold Node.searchAfter
  cases hs : Extractor.ordinary.pattern.search c with
  | none => rfl
  | some r =>
    have hlt := start_lt_stop_of_searchFrom hs
    exact if_neg fun hempty => absurd hempty.1 (Nat.ne_of_lt hlt)

/-- **Matches from places with the same next match are the same.** -/
theorem matchesFrom_congr {c c' : Cursor}
    (h : Extractor.ordinary.pattern.search c = Extractor.ordinary.pattern.search c')
    (fuel : Nat) (last last' : Option Nat) :
    Extractor.ordinary.pattern.matchesFrom fuel last c
      = Extractor.ordinary.pattern.matchesFrom fuel last' c' := by
  cases fuel with
  | zero => rfl
  | succ fuel =>
    rw [Node.matchesFrom, Node.matchesFrom, searchAfter_ordinary, searchAfter_ordinary, h]

/-! ## Line by line -/

/-- The matches on lines from the one that starts at `start` on. -/
def lineMatches : Nat → List (List Char) → List Match
  | _, [] => []
  | start, line :: rest =>
    ((scanLine line).map (matchOf start)).toList ++ lineMatches (start + byteLength line + 1) rest

theorem closes_following (rest : List (List Char)) : Closes (Text.following rest) := by
  cases rest with
  | nil => exact closes_nil
  | cons line rest => exact closes_newline _

/-- The leftmost head is a head where it stands. -/
theorem heads_of_leftmost {inWord : Bool} {line : List Char} {h : Head}
    (hh : leftmost inWord line = some h) :
    ∃ cs, line = h.before ++ cs ∧ ({ h with before := [] } : Head).Heads cs := by
  induction line generalizing inWord h with
  | nil => exact absurd hh (by simp [leftmost])
  | cons c rest ih =>
    rw [leftmost] at hh
    split at hh
    next h' hat =>
      obtain rfl := Option.some.inj hh
      cases inWord with
      | true => exact absurd hat (by simp)
      | false =>
        have hheads := heads_of_headAt hat
        have hfirst : ({ h' with before := [] } : Head) = h' := by
          rw [← hheads.first]
        refine ⟨c :: rest, ?_, hfirst ▸ hheads⟩
        rw [hheads.first]
        rfl
    next =>
      obtain ⟨h', hrest, rfl⟩ := Option.map_eq_some_iff.1 hh
      obtain ⟨cs, htext, hheads⟩ := ih hrest
      exact ⟨cs, congrArg (c :: ·) htext, hheads⟩

/-- **A line with a declaration**: what stands in front, the head, and a value
with a word in it. -/
structure Head.Declares (h : Head) (line : List Char) : Prop where
  text : line = h.before ++ (h.lead ++ h.value)
  word : h.value.any isWordChar = true
  name_ne : h.name ≠ []

theorem declares_of_scanLine {line : List Char} {h : Head} (hh : scanLine line = some h) :
    h.Declares line := by
  obtain ⟨hleft, hword⟩ := Option.filter_eq_some_iff.1 hh
  obtain ⟨cs, htext, hheads⟩ := heads_of_leftmost hleft
  refine ⟨?_, hword, fun hnil => ?_⟩
  · rw [htext, hheads.text]
    rfl
  · have hpcd : isPcdName h.name = true := hheads.name_pcd
    rw [hnil] at hpcd
    exact absurd hpcd (by simp [isPcdName])

/-- The declaration reaches through the last word of the line. -/
theorem Head.Declares.reach_eq {h : Head} {line : List Char} (hd : h.Declares line) :
    h.reach = through line := by
  unfold Head.reach
  rw [hd.text, through_append, through_append _ hd.word]
  rw [List.any_append, hd.word, Bool.or_true]

/-- Behind the declaration of a line the search goes on behind the line. -/
theorem search_skip_reach {line tl : List Char} (hline : '\n' ∉ line) (ht : Closes tl) {h : Head}
    (hd : h.Declares line) (b : Option Char) (off : Nat) :
    ∃ b', Extractor.ordinary.pattern.search ((⟨b, line ++ tl, off⟩ : Cursor).skip h.reach)
      = Extractor.ordinary.pattern.searchFrom b' (off + byteLength line) tl := by
  obtain ⟨trail, htrail, hnone⟩ := exists_through_append line
  rw [← hd.reach_eq] at htrail
  have hahead : ((⟨b, line ++ tl, off⟩ : Cursor).skip h.reach).ahead = trail ++ tl := by
    rw [Cursor.skip_ahead, ← htrail, List.append_assoc]
    exact List.drop_left
  unfold Node.search
  rw [hahead, searchFrom_line (fun hmem => hline ?_) ht, leftmostFull_eq_none_of_no_word hnone,
    Cursor.skip_offset]
  · have hoff : off + byteLength h.reach + byteLength trail = off + byteLength line := by
      rw [← htrail, Text.byteLength_append, Nat.add_assoc]
    exact ⟨_, congrArg (fun o => Node.searchFrom _ _ o tl) hoff⟩
  · rw [← htrail]
    exact List.mem_append_right _ hmem

/-- **The match on a line and those behind it.** Where the matches behind a line
are those of the other lines, the matches from its start on are its own and
those. -/
theorem matchesFrom_line {line : List Char} {rest : List (List Char)} (hline : '\n' ∉ line)
    {b : Option Char} (hb : b.any isWordChar = false) {off fuel : Nat}
    (hfuel : rest.length < fuel)
    (hrest : ∀ (b : Option Char) (fuel : Nat) (last : Option Nat), rest.length ≤ fuel →
      Extractor.ordinary.pattern.matchesFrom fuel last
          ⟨b, Text.following rest, off + byteLength line⟩
        = lineMatches (off + byteLength line + 1) rest)
    (last : Option Nat) :
    Extractor.ordinary.pattern.matchesFrom fuel last ⟨b, line ++ Text.following rest, off⟩
      = lineMatches off (line :: rest) := by
  have hsearch := searchFrom_line hline (closes_following rest) b off
  rw [hb, leftmostFull_eq] at hsearch
  rw [lineMatches]
  unfold scanLine
  cases hh : (leftmost false line).filter (fun h => h.value.any isWordChar) with
  | none =>
    rw [hh] at hsearch
    rw [← hrest (line.getLast?.or b) fuel last (Nat.le_of_lt hfuel)]
    refine matchesFrom_congr ?_ fuel last last
    exact hsearch
  | some h =>
    -- one match is taken, and from its end the search goes on behind the line
    rw [hh] at hsearch
    obtain ⟨b', hnext⟩ :=
      search_skip_reach hline (closes_following rest) (declares_of_scanLine hh) b off
    obtain ⟨fuel, rfl⟩ : ∃ f, fuel = f + 1 := ⟨fuel - 1, by omega⟩
    rw [Node.matchesFrom, searchAfter_ordinary]
    unfold Node.search
    rw [hsearch, ← hrest b' fuel none (Nat.le_of_lt_succ hfuel)]
    refine congrArg (matchOf off h :: ·) (matchesFrom_congr ?_ fuel _ none)
    exact hnext

/-- The matches behind a line are those of the lines that follow. -/
theorem matchesFrom_following {rest : List (List Char)} (hlines : ∀ line ∈ rest, '\n' ∉ line)
    (b : Option Char) (off fuel : Nat) (last : Option Nat) (hfuel : rest.length ≤ fuel) :
    Extractor.ordinary.pattern.matchesFrom fuel last ⟨b, Text.following rest, off⟩
      = lineMatches (off + 1) rest := by
  induction rest generalizing b off fuel last with
  | nil =>
    cases fuel with
    | zero => rfl
    | succ fuel =>
      rw [Node.matchesFrom, searchAfter_ordinary]
      unfold Node.search
      rw [Text.following_nil, searchFrom_nil]
      rfl
  | cons line rest ih =>
    obtain ⟨hline, hrest⟩ := List.forall_mem_cons.1 hlines
    have hnext : Extractor.ordinary.pattern.search ⟨b, Text.following (line :: rest), off⟩
        = Extractor.ordinary.pattern.search ⟨some '\n', line ++ Text.following rest, off + 1⟩ :=
      searchFrom_newline b off _
    rw [matchesFrom_congr hnext fuel last last]
    exact matchesFrom_line hline rfl hfuel (fun b fuel last hf => ih hrest b _ fuel last hf) last

/-- **The pattern finds a text's declarations line by line.** -/
theorem matches_ordinary (text : List Char) :
    Extractor.ordinary.pattern.matches text = lineMatches 0 (Text.lines text) := by
  have hlines : ∀ line ∈ Text.lines text, '\n' ∉ line :=
    fun line hmem => Text.newline_notMem_of_mem_lines hmem
  -- every line has at most one match, so the bound on their number is not reached
  have hcount : (Text.lines text).length ≤ text.length + 1 := by
    have hfeeds : text.count '\n' ≤ text.length := List.count_le_length
    have := Text.lineCount_eq_count text
    unfold Text.lineCount at this
    omega
  obtain ⟨line, rest, hl, ht⟩ := Text.exists_lines text
  rw [hl] at hlines hcount ⊢
  obtain ⟨hline, hrest⟩ := List.forall_mem_cons.1 hlines
  rw [List.length_cons] at hcount
  have hfuel : rest.length < 2 * text.length + 2 := by omega
  unfold Node.matches Cursor.start
  generalize 2 * text.length + 2 = fuel at hfuel ⊢
  rw [ht]
  exact matchesFrom_line hline rfl hfuel
    (fun b fuel last hf => matchesFrom_following hrest b _ fuel last hf) none

/-! ## Where the declarations are -/

/-- A part of a text between its two offsets. -/
theorem slice_append (pre part post : List Char) :
    Extractor.slice (pre ++ (part ++ post)) (byteLength pre) (byteLength pre + byteLength part)
      = part := by
  unfold Extractor.slice
  rw [Nat.add_sub_cancel_left, Text.dropBytes_append, Text.takeBytes_append]

/-- The name of a declaration stands between the offsets of its group. -/
theorem slice_name {pre line : List Char} {h : Head} (hd : h.Declares line) (post : List Char) :
    Extractor.slice (pre ++ (line ++ post))
        (byteLength pre + byteLength h.before + byteLength h.space + 1)
        (byteLength pre + byteLength h.before + byteLength h.space + 1 + byteLength h.name)
      = h.name := by
  have hslice := slice_append (pre ++ (h.before ++ (h.space ++ ['.']))) h.name
    (h.gap ++ '|' :: (h.value ++ post))
  have hlen : byteLength (pre ++ (h.before ++ (h.space ++ ['.'])))
      = byteLength pre + byteLength h.before + byteLength h.space + 1 := by
    simp only [Text.byteLength_append, Nat.add_assoc]
    rfl
  have htext : pre ++ (line ++ post)
      = pre ++ (h.before ++ (h.space ++ ['.']))
        ++ (h.name ++ (h.gap ++ '|' :: (h.value ++ post))) := by
    rw [hd.text]
    unfold Head.lead
    simp only [List.append_assoc, List.cons_append, List.nil_append]
  rw [hlen, ← htext] at hslice
  exact hslice

/-- A match whose name is not empty declares it. -/
theorem declaration?_of_slice (doc : Path) {text name : List Char} {m : Match} {a b : Nat}
    (hm : m.name = some (a, b)) (hname : Extractor.slice text a b = name) (hne : name ≠ []) :
    Extractor.declaration? doc text m
      = some (String.ofList name, {
          document := doc
          start := Text.positionAt text m.start
          stop := Text.positionAt text m.stop
          first := m.start
          past := m.stop }) := by
  obtain ⟨c, rest, rfl⟩ := List.exists_cons_of_ne_nil hne
  unfold Extractor.declaration?
  rw [hm]
  dsimp only
  rw [hname]

/-- **A match on a line declares its name, at its place on the line.** -/
theorem declaration?_matchOf (doc : Path) {pre line : List Char} {h : Head} (hline : '\n' ∉ line)
    (hpre : Text.lastLine pre = []) (hh : scanLine line = some h) (post : List Char) :
    Extractor.declaration? doc (pre ++ (line ++ post)) (matchOf (byteLength pre) h)
      = declarationOn doc (pre.count '\n') (byteLength pre) line := by
  have hd := declares_of_scanLine hh
  have hstart := Text.positionAt_line hpre hline hd.text.symm post
  obtain ⟨trail, htrail, -⟩ := exists_through_append line
  have hstop := Text.positionAt_line hpre hline htrail post
  rw [declaration?_of_slice doc rfl (slice_name hd post) hd.name_ne]
  unfold declarationOn matchOf
  rw [hh, hd.reach_eq, hstart, hstop]
  rfl

/-- The declarations of the matches on the last lines of a text, which start
behind `pre`. -/
theorem filterMap_lineMatches (doc : Path) (pre : List Char) {text : List Char}
    {ls : List (List Char)} (hlines : ∀ line ∈ ls, '\n' ∉ line) (hpre : Text.lastLine pre = [])
    (htext : ∀ line rest, ls = line :: rest → text = pre ++ (line ++ Text.following rest)) :
    (lineMatches (byteLength pre) ls).filterMap (Extractor.declaration? doc text)
      = scanLines doc (pre.count '\n') (byteLength pre) ls := by
  induction ls generalizing pre with
  | nil => rfl
  | cons line rest ih =>
    obtain ⟨hline, hrest⟩ := List.forall_mem_cons.1 hlines
    have hthis := htext line rest rfl
    have hown : ((scanLine line).map (matchOf (byteLength pre))).toList.filterMap
        (Extractor.declaration? doc text)
        = (declarationOn doc (pre.count '\n') (byteLength pre) line).toList := by
      cases hh : scanLine line with
      | none =>
        unfold declarationOn
        rw [hh]
        rfl
      | some h =>
        rw [← declaration?_matchOf doc hline hpre hh (Text.following rest), ← hthis]
        show [matchOf (byteLength pre) h].filterMap _ = _
        rw [List.filterMap_cons, List.filterMap_nil]
        cases Extractor.declaration? doc text (matchOf (byteLength pre) h) <;> rfl
    have hcount : (pre ++ (line ++ ['\n'])).count '\n' = pre.count '\n' + 1 := by
      rw [List.count_append, List.count_append, List.count_eq_zero_of_not_mem hline]
      rfl
    have hlength : byteLength (pre ++ (line ++ ['\n'])) = byteLength pre + byteLength line + 1 := by
      rw [Text.byteLength_append, Text.byteLength_append, ← Nat.add_assoc]
      rfl
    have hnext := ih (pre ++ (line ++ ['\n'])) hrest
      (by rw [← List.append_assoc]; exact Text.lastLine_append_newline _)
      (fun next rest' he => by
        rw [hthis, he, Text.following_cons]
        simp only [List.append_assoc, List.cons_append, List.nil_append])
    rw [hcount, hlength] at hnext
    rw [lineMatches, scanLines, List.filterMap_append, hown, hnext]

/-- The declarations that the ordinary extractor finds are those of the
scanner. -/
theorem declarationsOf_ordinary (doc : Path) (text : String) :
    Extractor.declarationsOf Extractor.ordinary.pattern doc text = scan doc text.toList := by
  obtain ⟨line, rest, hl, ht⟩ := Text.exists_lines text.toList
  show (Extractor.ordinary.pattern.matches text.toList).filterMap _ = _
  rw [matches_ordinary]
  refine filterMap_lineMatches doc [] (fun line hmem => Text.newline_notMem_of_mem_lines hmem) rfl
    (fun line' rest' he => ?_)
  obtain ⟨rfl, rfl⟩ := List.cons.inj (hl.symm.trans he)
  exact ht

/-- Every scanned declaration is the one on some line. -/
theorem mem_scanLines {doc : Path} {number start : Nat} {ls : List (List Char)}
    {e : String × Span} (h : e ∈ scanLines doc number start ls) :
    ∃ k line, ls[k]? = some line
      ∧ declarationOn doc (number + k) (start + Text.lineStart ls k) line = some e := by
  induction ls generalizing number start with
  | nil => exact absurd h List.not_mem_nil
  | cons line rest ih =>
    rcases List.mem_append.1 h with h | h
    · exact ⟨0, line, rfl, Option.mem_toList.1 h⟩
    · obtain ⟨k, line', hk, hdecl⟩ := ih h
      refine ⟨k + 1, line', by simpa using hk, ?_⟩
      rw [Text.lineStart_cons_succ, ← hdecl]
      congr 1 <;> omega

/-- A scanned declaration says on which line it is. -/
theorem line_of_declarationOn {doc : Path} {number start : Nat} {line : List Char}
    {e : String × Span} (h : declarationOn doc number start line = some e) :
    e.2.start.line = UInt32.ofNat number := by
  obtain ⟨head, -, rfl⟩ := Option.map_eq_some_iff.1 h
  rfl

/-- The declarations of a text come from different lines, in their order. -/
theorem pairwise_scanLines (doc : Path) {number : Nat} {ls : List (List Char)}
    (hbound : number + ls.length ≤ UInt32.size) (start : Nat) :
    (scanLines doc number start ls).Pairwise (fun a b => a.2.start.line < b.2.start.line) := by
  induction ls generalizing number start with
  | nil => exact List.Pairwise.nil
  | cons line rest ih =>
    rw [List.length_cons] at hbound
    refine List.pairwise_append.2 ⟨?_, ih (by omega) _, fun a ha b hb => ?_⟩
    · cases declarationOn doc number start line with
      | none => exact List.Pairwise.nil
      | some e => exact List.pairwise_singleton _ e
    · obtain ⟨k, line', hk, hb⟩ := mem_scanLines hb
      obtain ⟨hlt, -⟩ := List.getElem?_eq_some_iff.1 hk
      rw [line_of_declarationOn (Option.mem_toList.1 ha), line_of_declarationOn hb,
        UInt32.lt_iff_toNat_lt, UInt32.toNat_ofNat_of_lt' (by omega),
        UInt32.toNat_ofNat_of_lt' (by omega)]
      omega

/-- **Where a declaration is**, on line `number` of a document, which starts at
byte `start`: its bytes run from the head to behind the last word character of
the line, and its columns count the code units in front of them. -/
structure Head.Located (h : Head) (doc : Path) (number start : Nat) (line : List Char)
    (e : String × Span) : Prop where
  name : e.1 = String.ofList h.name
  document : e.2.document = doc
  first : e.2.first = start + byteLength h.before
  past : e.2.past = start + byteLength (through line)
  startLine : e.2.start.line.toNat = number
  startColumn : e.2.start.character.toNat = unitLength h.before
  stopLine : e.2.stop.line.toNat = number
  stopColumn : e.2.stop.character.toNat = unitLength (through line)

/-- Below 2³² lines and columns are what they count. -/
theorem located_of_declarationOn {doc : Path} {number start : Nat} {line : List Char}
    {e : String × Span} (h : declarationOn doc number start line = some e)
    (hnumber : number < UInt32.size) (hline : byteLength line < UInt32.size) :
    ∃ head, scanLine line = some head ∧ head.Located doc number start line e := by
  obtain ⟨head, hh, rfl⟩ := Option.map_eq_some_iff.1 h
  have hd := declares_of_scanLine hh
  have hpart : ∀ {a b : List Char}, line = a ++ b → unitLength a < UInt32.size := by
    rintro a b rfl
    have := Text.unitLength_le_byteLength a
    rw [Text.byteLength_append] at hline
    omega
  obtain ⟨trail, htrail, -⟩ := exists_through_append line
  exact ⟨head, hh, rfl, rfl, rfl, rfl, UInt32.toNat_ofNat_of_lt' hnumber,
    UInt32.toNat_ofNat_of_lt' (hpart hd.text), UInt32.toNat_ofNat_of_lt' hnumber,
    UInt32.toNat_ofNat_of_lt' (hpart htrail.symm)⟩

/-- **The ordinary extractor reads a text line by line.** It finds what the
scanner finds, and of declarations of one name the last. In texts of less
than 2³² bytes the scanned declarations are on different lines, in order, and
each is located on its own line. -/
theorem extract_ordinary_eq_scan (doc : Path) (text : String) :
    Extractor.ordinary.extract doc text = Table.ofList (scan doc text.toList)
    ∧ (∀ name span, (Extractor.ordinary.extract doc text).get? name = some span
        ↔ ∃ early late, scan doc text.toList = early ++ (name, span) :: late
            ∧ ∀ e ∈ late, e.1 ≠ name)
    ∧ (byteLength text.toList < UInt32.size →
        (scan doc text.toList).Pairwise (fun a b => a.2.start.line < b.2.start.line)
        ∧ ∀ e ∈ scan doc text.toList, ∃ number line head,
            (Text.lines text.toList)[number]? = some line ∧ scanLine line = some head
              ∧ head.Located doc number (Text.lineStart (Text.lines text.toList) number)
                  line e) := by
  have hextract : Extractor.ordinary.extract doc text = Table.ofList (scan doc text.toList) :=
    congrArg Table.ofList (declarationsOf_ordinary doc text)
  refine ⟨hextract, fun name span => ?_, fun hlength => ⟨?_, fun e he => ?_⟩⟩
  · rw [hextract]
    exact Table.get?_ofList_eq_some_iff
  · have hfeeds : text.toList.count '\n' ≤ text.toList.length := List.count_le_length
    have hbytes := Text.length_le_byteLength text.toList
    have hcount := Text.lineCount_eq_count text.toList
    unfold Text.lineCount at hcount
    exact pairwise_scanLines doc (by omega) 0
  · obtain ⟨number, line, hn, hdecl⟩ := mem_scanLines he
    rw [Nat.zero_add, Nat.zero_add] at hdecl
    obtain ⟨hlt, -⟩ := List.getElem?_eq_some_iff.1 hn
    have hstart := Text.le_lineStart (Nat.le_of_lt hlt)
    have hwithin := Text.lineStart_add_le hn
    obtain ⟨head, hh, hloc⟩ := located_of_declarationOn hdecl (by omega) (by omega)
    exact ⟨number, line, head, hn, hh, hloc⟩

/-- A name that is declared twice, between characters that are no words. -/
theorem extract_ordinary_eq_scan_repeated :
    byteLength "µ.A.PcdB |1;\nA.PcdB|µ2 µ;".toList < UInt32.size
      ∧ (Extractor.ordinary.extract ⟨"a.dec"⟩ "µ.A.PcdB |1;\nA.PcdB|µ2 µ;").get? "PcdB"
        = some ⟨⟨"a.dec"⟩, ⟨1, 0⟩, ⟨1, 9⟩, 14, 24⟩
      ∧ (scan ⟨"a.dec"⟩ "µ.A.PcdB |1;\nA.PcdB|µ2 µ;".toList).Pairwise
          (fun a b => a.2.start.line < b.2.start.line) := by
  have h := extract_ordinary_eq_scan ⟨"a.dec"⟩ "µ.A.PcdB |1;\nA.PcdB|µ2 µ;"
  have hlength : byteLength "µ.A.PcdB |1;\nA.PcdB|µ2 µ;".toList < UInt32.size := by decide
  refine ⟨hlength, (h.2.1 _ _).2 ⟨[("PcdB", ⟨⟨"a.dec"⟩, ⟨0, 2⟩, ⟨0, 11⟩, 3, 12⟩)], [], ?_, ?_⟩,
    (h.2.2 hlength).1⟩
  · decide +kernel
  · exact fun e he => absurd he List.not_mem_nil

end PcdCatalog.Grammar

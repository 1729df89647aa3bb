import Mathlib.Data.List.DropRight
import PcdCatalog.Declaration
import PcdCatalog.Proofs.PatternLaws
import PcdCatalog.Proofs.TableLaws
import PcdCatalog.Proofs.TextLaws

/-!
# The grammar of ordinary declarations

The pattern of ordinary declarations reads a text as a line scanner would. On
each line there is at most one declaration. It starts at the leftmost word
that is followed by a dot, a PCD name, blanks and a bar (`headAt`,
`leftmost`), provided that something of the value behind the bar is a word
character; and it reaches through the last word character of its line
(`through`). `scan` lists the declarations of a text that way, line by line,
and the main statement is that the ordinary extractor finds exactly these.

Three things have to be seen. Every run of the pattern stops before a character
that the run could not take, so a head is found by taking runs as long as they
go. The value takes the whole line and backs off to the last word boundary,
which is the end of its last word, so a match never leaves its line and leaves
no word for a second one. And where the leftmost head has no word behind its
bar, no other head of the line has one either, since the words of the line end
with the name.
-/

namespace PcdCatalog.Grammar

open Text (isWordChar byteLength unitLength)

/-! ## The scanner -/

/-- The head of a declaration, `space.name |` with blanks before the bar. -/
structure Head where
  /-- What stands in front of it on its line. -/
  before : List Char
  /-- The word in front of the dot. -/
  space : List Char
  name : List Char
  gap : List Char
  /-- What stands behind the bar. -/
  value : List Char
deriving DecidableEq

/-- The text of a head up to its bar. -/
def Head.lead (h : Head) : List Char := h.space ++ '.' :: (h.name ++ (h.gap ++ ['|']))

/-- `Pcd` and at least one more character. -/
def isPcdName : List Char → Bool
  | 'P' :: 'c' :: 'd' :: _ :: _ => true
  | _ => false

/-- Blanks and a bar at the start of a text: the blanks, and what stands behind
the bar. -/
def barAt (cs : List Char) : Option (List Char × List Char) :=
  match cs.dropWhile (· == ' ') with
  | '|' :: value => some (cs.takeWhile (· == ' '), value)
  | _ => none

/-- What follows the dot of a head: a PCD name, taken whole, and the bar. -/
def nameAt (space cs : List Char) : Option Head :=
  if isPcdName (cs.takeWhile isWordChar) then
    (barAt (cs.dropWhile isWordChar)).map fun b => {
      before := []
      space := space
      name := cs.takeWhile isWordChar
      gap := b.1
      value := b.2 }
  else none

/-- The head at the start of a text: a word, taken whole, the dot, and what
follows it. -/
def headAt (cs : List Char) : Option Head :=
  if cs.takeWhile isWordChar = [] ∨ (cs.dropWhile isWordChar).head? ≠ some '.' then none
  else nameAt (cs.takeWhile isWordChar) ((cs.dropWhile isWordChar).drop 1)

/-- The leftmost head that does not start inside a word. `inWord` says whether
the text continues one. -/
def leftmost (inWord : Bool) : List Char → Option Head
  | [] => none
  | c :: rest =>
    match if inWord then none else headAt (c :: rest) with
    | some h => some h
    | none => (leftmost (isWordChar c) rest).map fun h => { h with before := c :: h.before }

/-- A line through its last word character. -/
def through (line : List Char) : List Char := line.rdropWhile (fun c => !isWordChar c)

/-- **What a line declares**: its leftmost head, if a word character follows the
bar. -/
def scanLine (line : List Char) : Option Head :=
  (leftmost false line).filter fun h => h.value.any isWordChar

/-- The declaration on line `number`, which starts at byte `start`. -/
def declarationOn (doc : Path) (number start : Nat) (line : List Char) : Option (String × Span) :=
  (scanLine line).map fun h => (String.ofList h.name, {
    document := doc
    start := ⟨UInt32.ofNat number, UInt32.ofNat (unitLength h.before)⟩
    stop := ⟨UInt32.ofNat number, UInt32.ofNat (unitLength (through line))⟩
    first := start + byteLength h.before
    past := start + byteLength (through line) })

/-- The declarations on lines from `number` on. -/
def scanLines (doc : Path) : Nat → Nat → List (List Char) → List (String × Span)
  | _, _, [] => []
  | number, start, line :: rest =>
    (declarationOn doc number start line).toList
      ++ scanLines doc (number + 1) (start + byteLength line + 1) rest

/-- **The declarations of a text, line by line.** -/
def scan (doc : Path) (text : List Char) : List (String × Span) :=
  scanLines doc 0 0 (Text.lines text)

/-! ## Sets of characters -/

theorem contains_single (a c : Char) : (CharSet.single a).contains c = (c == a) := by
  unfold CharSet.single CharSet.contains
  rw [CharSet.holds, CharSet.holds]
  by_cases h : c = a
  · subst h
    simp
  · have hne : c.toNat ≠ a.toNat := fun e => h (Char.toNat_inj.1 e)
    rw [beq_eq_false_iff_ne.2 h]
    split
    · rfl
    · rw [if_neg (by omega)]

theorem contains_compl_newline (c : Char) :
    ((CharSet.single '\n').compl).contains c = (c != '\n') := by
  have hranges : ((CharSet.single '\n').compl).ranges = [(0, 9), (11, 0x10FFFF)] := by decide
  have hc : c.toNat < 0x110000 := by
    have := c.valid
    rcases this with h | h
    · exact Nat.lt_trans h (by decide)
    · exact h.2
  unfold CharSet.contains
  rw [hranges]
  simp only [CharSet.holds]
  by_cases h : c = '\n'
  · subst h
    decide
  · have hne : c.toNat ≠ 10 := fun e => h (Char.toNat_inj.1 e)
    rw [bne_iff_ne.2 h]
    grind

/-- Word characters by their code points. -/
theorem isWordChar_iff (c : Char) :
    isWordChar c = true ↔ (48 ≤ c.toNat ∧ c.toNat ≤ 57) ∨ (65 ≤ c.toNat ∧ c.toNat ≤ 90)
      ∨ c.toNat = 95 ∨ (97 ≤ c.toNat ∧ c.toNat ≤ 122) := by
  have hlow : c = '_' ↔ c.toNat = 95 :=
    ⟨fun e => by rw [e]; rfl, fun e => Char.toNat_inj.1 e⟩
  unfold isWordChar Char.isAlphanum Char.isAlpha Char.isUpper Char.isLower Char.isDigit
  simp only [Bool.or_eq_true, Bool.and_eq_true, decide_eq_true_eq, beq_iff_eq, hlow, ge_iff_le,
    UInt32.le_iff_toNat_le]
  show (((65 ≤ c.toNat ∧ c.toNat ≤ 90) ∨ 97 ≤ c.toNat ∧ c.toNat ≤ 122)
      ∨ 48 ≤ c.toNat ∧ c.toNat ≤ 57) ∨ c.toNat = 95 ↔ _
  omega

theorem contains_wordSet : Extractor.wordSet.contains = isWordChar := by
  funext c
  rw [Bool.eq_iff_iff, isWordChar_iff]
  unfold Extractor.wordSet CharSet.contains
  simp only [CharSet.holds]
  grind

/-! ## Lines and their last words -/

/-- The part of a text on its first line. -/
def firstLine (cs : List Char) : List Char := cs.takeWhile (· != '\n')

theorem firstLine_cons (x : Char) (rest : List Char) :
    firstLine (x :: rest) = if x != '\n' then x :: firstLine rest else [] :=
  List.takeWhile_cons

/-- **Where the last word character of a line is**, seen from its start. -/
theorem through_cons (c : Char) (v : List Char) :
    through (c :: v)
      = if v.any isWordChar then c :: through v else if isWordChar c then [c] else [] := by
  have hempty : (v.reverse.dropWhile (fun c => !isWordChar c)).isEmpty = !v.any isWordChar := by
    rw [Bool.eq_iff_iff, List.isEmpty_iff, List.dropWhile_eq_nil_iff]
    simp
  unfold through List.rdropWhile
  rw [List.reverse_cons, List.dropWhile_append, hempty]
  cases v.any isWordChar with
  | true =>
    show (v.reverse.dropWhile _ ++ [c]).reverse = _
    rw [List.reverse_append]
    rfl
  | false =>
    show ([c].dropWhile (fun c => !isWordChar c)).reverse = if isWordChar c then [c] else []
    rw [List.dropWhile_cons]
    cases isWordChar c <;> rfl

/-- What stands in front of a word belongs to the line through it. -/
theorem through_append (p : List Char) {v : List Char} (h : v.any isWordChar = true) :
    through (p ++ v) = p ++ through v := by
  induction p with
  | nil => rfl
  | cons c p ih =>
    rw [List.cons_append, through_cons, if_pos (by rw [List.any_append, h, Bool.or_true]), ih]
    rfl

/-- A line goes on behind its last word without one. -/
theorem exists_through_append (v : List Char) :
    ∃ trail, through v ++ trail = v ∧ trail.any isWordChar = false := by
  refine ⟨v.rtakeWhile (fun c => !isWordChar c), List.rdropWhile_append_rtakeWhile, ?_⟩
  rw [List.any_eq_false]
  intro c hc
  simpa using List.mem_rtakeWhile_imp hc

/-! ## The parts of the pattern

Each part is read together with all that follows it, from the value at the end
to the whole pattern. -/

open Pattern (Node Hit Cursor Look)

/-- Something on the line up to a word boundary. -/
def valuePart : Node :=
  .seq (.rep 1 none true (.one (CharSet.single '\n').compl))
    (.look (.wordBoundary Extractor.wordSet))

/-- A bar and the value. -/
def barPart : Node := .seq (.one (.single '|')) valuePart

/-- Blanks, the bar and the value. -/
def gapPart : Node := .seq (.rep 0 none true (.one (.single ' '))) barPart

/-- A PCD name. -/
def nameNode : Node :=
  .seq (.one (.single 'P')) (.seq (.one (.single 'c')) (.seq (.one (.single 'd'))
    (.rep 1 none true (.one Extractor.wordSet))))

/-- The name and what follows it. -/
def namePart : Node := .seq (.group 1 nameNode) gapPart

/-- The dot and what follows it. -/
def dotPart : Node := .seq (.one (.single '.')) namePart

/-- The word in front of the dot and what follows it. -/
def spacePart : Node := .seq (.rep 1 none true (.one Extractor.wordSet)) dotPart

theorem ordinary_pattern :
    Extractor.ordinary.pattern
      = .seq (.look (.wordBoundary Extractor.wordSet)) spacePart := rfl

/-- Whether the next character is a word character. -/
theorem aheadIn_wordSet (c : Cursor) :
    c.aheadIn Extractor.wordSet = c.ahead.head?.any isWordChar := by
  unfold Cursor.aheadIn
  rw [contains_wordSet]

/-- A line without words is not followed by one: it ends at a line feed or with
the text. -/
theorem head?_any_of_firstLine {cs : List Char} (h : (firstLine cs).any isWordChar = false) :
    cs.head?.any isWordChar = false := by
  cases cs with
  | nil => rfl
  | cons x rest =>
    rw [firstLine_cons] at h
    split at h
    next =>
      rw [List.any_cons, Bool.or_eq_false_iff] at h
      exact h.1
    next hx =>
      obtain rfl : x = '\n' := by simpa using hx
      rfl

/-- **The value backs off to the end of the last word of its line.** -/
theorem findSome?_value (h : Hit) (b : Option Char) (ahead : List Char) (off : Nat) :
    (Pattern.runOf (CharSet.single '\n').compl none b ahead off).reverse.findSome?
        (fun c => if (Look.wordBoundary Extractor.wordSet).holds c
          then some { h with cursor := c } else none)
      = if (firstLine ahead).any isWordChar
        then some { h with cursor := (⟨b, ahead, off⟩ : Cursor).skip (through (firstLine ahead)) }
        else none := by
  induction ahead generalizing b off with
  | nil => rfl
  | cons x rest ih =>
    rw [Pattern.runOf_cons, contains_compl_newline, firstLine_cons]
    cases hx : x != '\n' with
    | false => rfl
    | true =>
      rw [if_pos rfl, if_pos rfl, List.reverse_cons, List.findSome?_append, ih,
        List.findSome?_singleton, List.any_cons, through_cons]
      cases hrest : (firstLine rest).any isWordChar with
      | true =>
        rw [if_pos rfl, if_pos (Bool.or_true _), if_pos rfl]
        rfl
      | false =>
        -- no word is left behind `x`, so the place is a boundary if `x` ends one
        have hholds : (Look.wordBoundary Extractor.wordSet).holds
            (⟨some x, rest, off + x.utf8Size⟩ : Cursor) = isWordChar x := by
          show (Cursor.behindIn _ _ != Cursor.aheadIn _ _) = _
          rw [aheadIn_wordSet, head?_any_of_firstLine hrest]
          unfold Cursor.behindIn
          rw [contains_wordSet]
          show (isWordChar x != false) = _
          rw [Bool.bne_false]
        rw [hholds]
        cases isWordChar x <;> rfl

theorem head?_valuePart (h : Hit) :
    (valuePart.ends h).head?
      = if (firstLine h.cursor.ahead).any isWordChar
        then some (h.skip (through (firstLine h.cursor.ahead))) else none := by
  unfold valuePart
  rw [Pattern.head?_ends_seq, Pattern.ends_rep_one]
  unfold Pattern.runEnds
  rw [if_pos rfl, ← List.map_reverse, List.findSome?_map]
  refine Eq.trans (congrArg (fun g => List.findSome? g _) (funext fun c => ?_))
    (findSome?_value h h.cursor.behind h.cursor.ahead h.cursor.offset)
  rw [Function.comp_apply, Pattern.ends_look]
  split <;> rfl

/-- A sequence that starts with one particular character. -/
theorem ends_seq_single (a : Char) (n : Node) (h : Hit) :
    (Node.seq (.one (.single a)) n).ends h
      = if h.cursor.ahead.head? = some a then Pattern.once (n.ends (h.skip [a])) else [] := by
  rw [Pattern.ends_seq_one]
  cases h.cursor.ahead with
  | nil => rfl
  | cons x rest =>
    show (if (CharSet.single a).contains x then _ else []) = _
    rw [contains_single, List.head?_cons]
    by_cases hx : x = a
    · subst hx
      rw [if_pos (beq_self_eq_true x), if_pos rfl]
    · rw [if_neg (by simpa using hx), if_neg (by simpa using hx)]

theorem head?_ends_seq_single (a : Char) (n : Node) (h : Hit) :
    ((Node.seq (.one (.single a)) n).ends h).head?
      = if h.cursor.ahead.head? = some a then (n.ends (h.skip [a])).head? else none := by
  rw [ends_seq_single]
  split
  · exact Pattern.head?_once _
  · rfl

/-- **Blanks, a bar and a value.** -/
theorem head?_gapPart (h : Hit) :
    (gapPart.ends h).head?
      = ((barAt h.cursor.ahead).filter fun b => (firstLine b.2).any isWordChar).map fun b =>
          h.skip (b.1 ++ '|' :: through (firstLine b.2)) := by
  have hsingle : (CharSet.single ' ').contains = (· == ' ') := funext (contains_single ' ')
  -- a blank is no bar, so a shorter run of blanks leads nowhere
  have hstop : ∀ e : Hit, e.cursor.aheadIn (.single ' ') = true →
      (barPart.ends e).head? = none := by
    intro e he
    unfold Cursor.aheadIn at he
    rw [hsingle] at he
    unfold barPart
    rw [head?_ends_seq_single, if_neg]
    intro hbar
    rw [hbar] at he
    exact absurd he (by decide)
  unfold gapPart
  rw [Pattern.head?_ends_seq, Pattern.ends_rep_one, Pattern.findSome?_runEnds_zero _ _ hstop,
    hsingle]
  unfold barPart
  rw [head?_ends_seq_single, head?_valuePart]
  have hahead : (h.skip (h.cursor.ahead.takeWhile (· == ' '))).cursor.ahead
      = h.cursor.ahead.dropWhile (· == ' ') := h.cursor.skip_takeWhile_ahead _
  have hvalue : ((h.skip (h.cursor.ahead.takeWhile (· == ' '))).skip ['|']).cursor.ahead
      = (h.cursor.ahead.dropWhile (· == ' ')).drop 1 := by
    rw [← hahead]
    exact Cursor.skip_ahead _ ['|']
  rw [hahead, hvalue]
  unfold barAt
  split
  next hbar =>
    obtain ⟨value, hv⟩ := List.head?_eq_some_iff.1 hbar
    rw [hv]
    show (if (firstLine value).any isWordChar then _ else none)
      = (Option.filter _ (some (h.cursor.ahead.takeWhile (· == ' '), value))).map _
    rw [Option.filter_some]
    split
    · rw [Hit.skip_skip, Hit.skip_skip]
      rfl
    · rfl
  next hno =>
    split
    next value hv =>
      rw [hv] at hno
      exact absurd rfl hno
    next => rfl

/-- What follows a name cannot start inside a word. -/
theorem head?_gapPart_of_aheadIn {h : Hit} (hw : h.cursor.aheadIn Extractor.wordSet = true) :
    (gapPart.ends h).head? = none := by
  rw [aheadIn_wordSet] at hw
  rw [head?_gapPart]
  cases ha : h.cursor.ahead with
  | nil => rfl
  | cons x rest =>
    rw [ha] at hw
    have hx : isWordChar x = true := hw
    have hblank : (x == ' ') = false := by
      rw [beq_eq_false_iff_ne]
      rintro rfl
      exact absurd hx (by decide)
    unfold barAt
    rw [List.dropWhile_cons_of_neg (by rw [hblank]; simp)]
    split
    next heq =>
      obtain ⟨rfl, -⟩ := List.cons.inj heq
      exact absurd hx (by decide)
    next => rfl

/-- A PCD name is `Pcd` and a run of word characters. -/
theorem ends_nameNode (h : Hit) :
    nameNode.ends h
      = match h.cursor.ahead with
        | 'P' :: 'c' :: 'd' :: _ =>
          Pattern.runEnds Extractor.wordSet 1 none true (h.skip ['P', 'c', 'd'])
        | _ => [] := by
  have hahead : ∀ p, (h.skip p).cursor.ahead = h.cursor.ahead.drop p.length :=
    fun p => h.cursor.skip_ahead p
  unfold nameNode
  rw [ends_seq_single, ends_seq_single, ends_seq_single, Pattern.ends_rep_one,
    Pattern.once_runEnds_one, Hit.skip_skip, Hit.skip_skip, hahead, hahead]
  split
  next hp =>
    obtain ⟨r, hr⟩ := List.head?_eq_some_iff.1 hp
    rw [hr]
    split
    next hc =>
      obtain ⟨r', rfl⟩ := List.head?_eq_some_iff.1 (show r.head? = some 'c' from hc)
      split
      next hd =>
        obtain ⟨r'', rfl⟩ := List.head?_eq_some_iff.1 (show r'.head? = some 'd' from hd)
        rw [Pattern.once_runEnds_one, Pattern.once_runEnds_one]
        rfl
      next hd =>
        split
        next heq =>
          obtain ⟨-, -, rfl⟩ := by simpa using heq
          exact absurd rfl hd
        next => rfl
    next hc =>
      split
      next heq =>
        obtain ⟨-, rfl⟩ := List.cons.inj heq
        exact absurd rfl hc
      next => rfl
  next hp =>
    split
    next heq =>
      rw [heq] at hp
      exact absurd rfl hp
    next => rfl

/-- A hit behind a name, which it remembers. -/
def named (h : Hit) (name : List Char) : Hit :=
  { h.skip name with name := some (h.cursor.offset, h.cursor.offset + byteLength name) }

/-- **The name is taken whole**, and has to be a PCD name. -/
theorem head?_namePart (h : Hit) :
    (namePart.ends h).head?
      = if isPcdName (h.cursor.ahead.takeWhile isWordChar)
        then (gapPart.ends (named h (h.cursor.ahead.takeWhile isWordChar))).head? else none := by
  let note (e : Hit) : Hit := { e with name := some (h.cursor.offset, e.cursor.offset) }
  have hgroup : (Node.group 1 nameNode).ends h = (nameNode.ends h).map note := by
    rw [Node.ends, if_pos rfl]
  -- nor can the name stop inside its word, whatever the group has noted
  have hstop : ∀ e : Hit, e.cursor.aheadIn Extractor.wordSet = true →
      ((fun e => (gapPart.ends e).head?) ∘ note) e = none :=
    fun e he => head?_gapPart_of_aheadIn (h := note e) he
  unfold namePart
  rw [Pattern.head?_ends_seq, hgroup, List.findSome?_map, ends_nameNode]
  split
  next rest ha =>
    have hahead : (h.skip ['P', 'c', 'd']).cursor.ahead = rest := by
      refine (h.cursor.skip_ahead _).trans ?_
      rw [ha]
      rfl
    have hrun : h.cursor.ahead.takeWhile isWordChar
        = 'P' :: 'c' :: 'd' :: rest.takeWhile isWordChar := by
      rw [ha]
      rfl
    rw [Pattern.findSome?_runEnds_one _ _ hstop, hahead, contains_wordSet, hrun]
    cases rest.takeWhile isWordChar with
    | nil => rfl
    | cons x run =>
      rw [if_neg (List.cons_ne_nil x run)]
      have hnote : note ((h.skip ['P', 'c', 'd']).skip (x :: run))
          = named h ('P' :: 'c' :: 'd' :: x :: run) := by
        have hoff := h.cursor.skip_offset ('P' :: 'c' :: 'd' :: x :: run)
        unfold named
        rw [← hoff]
        rfl
      exact congrArg (fun e => (gapPart.ends e).head?) hnote
  next hno =>
    rw [if_neg]
    · rfl
    · intro hname
      have hsplit := List.takeWhile_append_dropWhile (p := isWordChar) (l := h.cursor.ahead)
      unfold isPcdName at hname
      split at hname
      next heq =>
        rw [heq] at hsplit
        exact hno _ hsplit.symm
      next => exact absurd hname (by simp)

/-- The word in front of the dot is taken whole. -/
theorem head?_spacePart (h : Hit) :
    (spacePart.ends h).head?
      = if h.cursor.ahead.takeWhile isWordChar = [] then none
        else if (h.cursor.ahead.dropWhile isWordChar).head? = some '.' then
          (namePart.ends (h.skip (h.cursor.ahead.takeWhile isWordChar ++ ['.']))).head?
        else none := by
  have hstop : ∀ e : Hit, e.cursor.aheadIn Extractor.wordSet = true →
      (dotPart.ends e).head? = none := by
    intro e he
    rw [aheadIn_wordSet] at he
    unfold dotPart
    rw [head?_ends_seq_single, if_neg]
    intro hdot
    rw [hdot] at he
    exact absurd he (by decide)
  unfold spacePart
  rw [Pattern.head?_ends_seq, Pattern.ends_rep_one, Pattern.findSome?_runEnds_one _ _ hstop,
    contains_wordSet]
  unfold dotPart
  rw [head?_ends_seq_single,
    show (h.skip (h.cursor.ahead.takeWhile isWordChar)).cursor.ahead
      = h.cursor.ahead.dropWhile isWordChar from h.cursor.skip_takeWhile_ahead _]
  rw [Hit.skip_skip]

/-- A declaration starts at the start of a word. -/
theorem head?_ordinary (c : Cursor) :
    (Extractor.ordinary.pattern.ends ⟨c, none⟩).head?
      = if c.behindIn Extractor.wordSet then none else (spacePart.ends ⟨c, none⟩).head? := by
  have hword : c.aheadIn Extractor.wordSet = false → (spacePart.ends ⟨c, none⟩).head? = none := by
    intro ha
    have hrun : ¬ c.ahead.takeWhile isWordChar ≠ [] := by
      rw [← contains_wordSet, ← Cursor.aheadIn_iff, ha]
      exact Bool.false_ne_true
    rw [head?_spacePart, if_pos (Decidable.not_not.1 hrun)]
  rw [ordinary_pattern, Pattern.head?_ends_seq, Pattern.ends_look]
  show (if (c.behindIn Extractor.wordSet != c.aheadIn Extractor.wordSet) = true
    then [(⟨c, none⟩ : Hit)] else []).findSome? _ = _
  cases hb : c.behindIn Extractor.wordSet <;> cases ha : c.aheadIn Extractor.wordSet
  · exact (hword ha).symm
  · exact List.findSome?_singleton
  · exact List.findSome?_singleton.trans (hword ha)
  · rfl

/-- The hit at which a head ends. -/
def endOf (c : Cursor) (h : Head) : Hit where
  cursor := c.skip (h.lead ++ through (firstLine h.value))
  name := some (c.offset + byteLength h.space + 1,
    c.offset + byteLength h.space + 1 + byteLength h.name)

/-- Reading word, dot, name, blanks, bar and value one after the other ends
there. -/
theorem skip_named_eq_endOf (c : Cursor) (space name gap value : List Char) :
    (named (Hit.skip ⟨c, none⟩ (space ++ ['.'])) name).skip
        (gap ++ '|' :: through (firstLine value))
      = endOf c ⟨[], space, name, gap, value⟩ := by
  have hoff : (c.skip (space ++ ['.'])).offset = c.offset + byteLength space + 1 := by
    rw [Cursor.skip_offset, Text.byteLength_append]
    rfl
  have hcursor : ((c.skip (space ++ ['.'])).skip name).skip
      (gap ++ '|' :: through (firstLine value))
      = c.skip ((⟨[], space, name, gap, value⟩ : Head).lead ++ through (firstLine value)) := by
    rw [← Cursor.skip_append, ← Cursor.skip_append]
    unfold Head.lead
    simp only [List.append_assoc, List.cons_append, List.nil_append]
  unfold endOf
  rw [← hoff, ← hcursor]
  rfl

/-- **Outside a word the pattern finds the head there**, if a word follows its
bar on the line. -/
theorem head?_ordinary_headAt (c : Cursor) :
    (Extractor.ordinary.pattern.ends ⟨c, none⟩).head?
      = if c.behindIn Extractor.wordSet then none
        else ((headAt c.ahead).filter fun h => (firstLine h.value).any isWordChar).map
          (endOf c) := by
  rw [head?_ordinary, head?_spacePart]
  refine if_congr Iff.rfl rfl ?_
  show (if c.ahead.takeWhile isWordChar = [] then none
    else if (c.ahead.dropWhile isWordChar).head? = some '.' then _ else none) = _
  unfold headAt
  by_cases hnone : c.ahead.takeWhile isWordChar = []
  · rw [if_pos hnone, if_pos (Or.inl hnone)]
    rfl
  by_cases hdot : (c.ahead.dropWhile isWordChar).head? = some '.'
  · rw [if_neg hnone, if_pos hdot, if_neg (by simp [hnone, hdot])]
    have hahead : (Hit.skip ⟨c, none⟩ (c.ahead.takeWhile isWordChar ++ ['.'])).cursor.ahead
        = (c.ahead.dropWhile isWordChar).drop 1 := by
      show (c.skip _).ahead = _
      rw [Cursor.skip_append, Cursor.skip_ahead, Cursor.skip_takeWhile_ahead]
      rfl
    rw [head?_namePart, hahead]
    generalize (c.ahead.dropWhile isWordChar).drop 1 = rest at hahead ⊢
    unfold nameAt
    split
    · have hgap : (named (Hit.skip ⟨c, none⟩ (c.ahead.takeWhile isWordChar ++ ['.']))
          (rest.takeWhile isWordChar)).cursor.ahead = rest.dropWhile isWordChar := by
        rw [← hahead]
        exact Cursor.skip_takeWhile_ahead _ _
      rw [head?_gapPart, hgap, Option.filter_map, Option.map_map]
      refine congrArg (fun f => Option.map f _) (funext fun b => ?_)
      exact skip_named_eq_endOf c _ _ b.1 b.2
    · rfl
  · rw [if_neg hnone, if_neg hdot, if_pos (Or.inr hdot)]
    rfl

/-- **The preferred match at a place.** -/
theorem matchAt_ordinary (c : Cursor) :
    Extractor.ordinary.pattern.matchAt c
      = if c.behindIn Extractor.wordSet then none
        else ((headAt c.ahead).filter fun h => (firstLine h.value).any isWordChar).map fun h =>
          (⟨c.offset, (endOf c h).cursor.offset, (endOf c h).name⟩, (endOf c h).cursor) := by
  unfold Node.matchAt
  rw [head?_ordinary_headAt]
  split
  · rfl
  · rw [Option.map_map]
    rfl

end PcdCatalog.Grammar

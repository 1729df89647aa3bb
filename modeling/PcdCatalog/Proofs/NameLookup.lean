import PcdCatalog.Proofs.Answerable
import PcdCatalog.Proofs.Positions

/-!
# A declared name is found from any cursor on it

Between a declaration and the answer to a question asked with a cursor on its
name lie five steps: the capture of the name, the position of an offset on it,
the offset of that position, the word around that offset, and the search for a
name in that word. Each of them could lose the name or take more than it.

They do not, because of what stands around a declared name. It consists of word
characters, a dot stands in front of it and a blank or a bar behind it, so it is
the whole word around each of its offsets (`wordAround_word`). Each of its
offsets is a boundary, and the bar behind it is no carriage return, so each
comes back from its position (`Line.Of.le_stop_of_mem`). And a declared name is
the first name in its own text (`Index.definition_of_isName`).
-/

namespace PcdCatalog

namespace Text

/-! ## Words around an offset -/

/-- A run ends where the text goes on with something else. -/
theorem takeWhile_append_of_stops {p : Char → Bool} {w rest : List Char}
    (hw : ∀ c ∈ w, p c = true) (hrest : ∀ c ∈ rest.head?, p c = false) :
    (w ++ rest).takeWhile p = w := by
  rw [List.takeWhile_append_of_pos hw]
  cases rest with
  | nil => simp
  | cons c rest =>
    have hc : ¬ p c = true := by simp [hrest c rfl]
    rw [List.takeWhile_cons_of_neg hc, List.append_nil]

/-- **What stands around an offset** is the word characters in front of it and
behind, as far as they reach; nothing, if there are none. -/
theorem wordAround_run {pre front back post : List Char}
    (hword : ∀ c ∈ front ++ back, isWordChar c = true)
    (hpre : ∀ c ∈ pre.getLast?, isWordChar c = false)
    (hpost : ∀ c ∈ post.head?, isWordChar c = false) :
    wordAround (pre ++ front ++ (back ++ post)) (byteLength (pre ++ front))
      = if front ++ back = [] then none else some (front ++ back) := by
  obtain ⟨hfront, hback⟩ := List.forall_mem_append.1 hword
  have hbefore : (pre ++ front).reverse.takeWhile isWordChar = front.reverse := by
    rw [List.reverse_append]
    refine takeWhile_append_of_stops (fun c hc => hfront c (List.mem_reverse.1 hc)) ?_
    rwa [← List.getLast?_eq_head?_reverse]
  have hafter : (back ++ post).takeWhile isWordChar = back := takeWhile_append_of_stops hback hpost
  unfold wordAround
  dsimp only
  rw [takeBytes_append, dropBytes_append, hbefore, hafter, List.reverse_reverse]
  split
  next hnil => rw [if_pos hnil]
  next hne => rw [if_neg hne]

/-- **The word around an offset inside it** or at one of its ends. -/
theorem wordAround_word {pre front back post : List Char} (hne : front ++ back ≠ [])
    (hword : ∀ c ∈ front ++ back, isWordChar c = true)
    (hpre : ∀ c ∈ pre.getLast?, isWordChar c = false)
    (hpost : ∀ c ∈ post.head?, isWordChar c = false) :
    wordAround (pre ++ front ++ (back ++ post)) (byteLength (pre ++ front))
      = some (front ++ back) := by
  rw [wordAround_run hword hpre hpost, if_neg hne]

/-- A word has as many bytes as characters. -/
theorem byteLength_of_word {w : List Char} (h : ∀ c ∈ w, isWordChar c = true) :
    byteLength w = w.length := by
  induction w with
  | nil => rfl
  | cons c w ih =>
    obtain ⟨hc, hw⟩ := List.forall_mem_cons.1 h
    have hsize : c.utf8Size = 1 := by
      have hcode := (Grammar.isWordChar_iff c).1 hc
      rw [Char.utf8Size_eq_one_iff, UInt32.le_iff_toNat_le]
      show c.toNat ≤ 127
      omega
    rw [byteLength, hsize, ih hw, List.length_cons, Nat.add_comm]

/-- An offset in a word cuts it in two. -/
theorem exists_cut_of_word {w : List Char} (h : ∀ c ∈ w, isWordChar c = true) {k : Nat}
    (hk : k ≤ byteLength w) : ∃ front back, w = front ++ back ∧ byteLength front = k := by
  refine ⟨w.take k, w.drop k, (List.take_append_drop k w).symm, ?_⟩
  rw [byteLength_of_word h] at hk
  rw [byteLength_of_word fun c hc => h c (List.mem_of_mem_take hc), List.length_take,
    Nat.min_eq_left hk]

/-- A part of a line with something other than carriage returns behind it is a
part of its content. -/
theorem Line.Of.le_stop_of_mem {l : Line} {text a b : List Char} (h : l.Of text)
    (hpart : l.content ++ l.returns = a ++ b) {c : Char} (hc : c ∈ b) (hne : c ≠ '\r') :
    l.start + byteLength a ≤ l.stop := by
  refine Nat.add_le_add_left ?_ _
  rcases List.append_eq_append_iff.1 hpart with ⟨more, -, hreturns⟩ | ⟨more, hcontent, -⟩
  · exact absurd (h.returns c (hreturns ▸ List.mem_append_right more hc)) hne
  · rw [hcontent, byteLength_append]
    exact Nat.le_add_right _ _

end Text

namespace Grammar

open Text (Line byteLength isWordChar)
open Pattern (Match)

/-! ## Where names are -/

/-- Every match is the one on some line. -/
theorem mem_lineMatches {start : Nat} {ls : List (List Char)} {m : Match}
    (h : m ∈ lineMatches start ls) :
    ∃ k line head, ls[k]? = some line ∧ scanLine line = some head
      ∧ m = matchOf (start + Text.lineStart ls k) head := by
  induction ls generalizing start with
  | nil => exact absurd h List.not_mem_nil
  | cons line rest ih =>
    rcases List.mem_append.1 h with h | h
    · obtain ⟨head, hhead, rfl⟩ := Option.map_eq_some_iff.1 (Option.mem_toList.1 h)
      exact ⟨0, line, head, rfl, hhead, rfl⟩
    · obtain ⟨k, line', head, hk, hhead, rfl⟩ := ih h
      refine ⟨k + 1, line', head, by simpa using hk, hhead, ?_⟩
      rw [Text.lineStart_cons_succ, ← Nat.add_assoc, ← Nat.add_assoc]

/-- **Every match of the ordinary pattern stands on a line** and is the
declaration that the scanner finds there. -/
theorem exists_line_of_mem_matches {text : List Char} {m : Match}
    (h : m ∈ Extractor.ordinary.pattern.matches text) :
    ∃ (l : Line) (head : Head), l.Of text ∧ scanLine (l.content ++ l.returns) = some head
      ∧ m = matchOf l.start head := by
  rw [matches_ordinary] at h
  obtain ⟨k, line, head, hk, hhead, rfl⟩ := mem_lineMatches h
  obtain ⟨l, hl, rfl⟩ := Text.exists_line_of_lt (List.getElem?_eq_some_iff.1 hk).1
  obtain ⟨hget, hstart⟩ := hl.getElem?_lines
  obtain rfl := Option.some.inj (hk.symm.trans hget)
  rw [Nat.zero_add, hstart]
  exact ⟨l, head, hl, hhead, rfl⟩

/-- What stands on a line in front of a declared name. -/
def Head.upToName (h : Head) : List Char := h.before ++ h.space ++ ['.']

/-- What stands on the line behind it. -/
def Head.behindName (h : Head) : List Char := h.gap ++ '|' :: h.value

/-- **What stands around a declared name**: a dot, the name in word characters,
and a blank or a bar. -/
theorem around_name {line : List Char} {h : Head} (hh : scanLine line = some h) :
    line = h.upToName ++ (h.name ++ h.behindName) ∧ (∀ c ∈ h.name, isWordChar c = true)
      ∧ ∀ c ∈ h.behindName.head?, isWordChar c = false := by
  obtain ⟨cs, -, hheads⟩ := heads_of_leftmost (Option.filter_eq_some_iff.1 hh).1
  refine ⟨?_, hheads.name_word, ?_⟩
  · rw [(declares_of_scanLine hh).text]
    unfold Head.lead Head.upToName Head.behindName
    simp only [List.append_assoc, List.cons_append, List.nil_append]
  · unfold Head.behindName
    intro c hc
    cases hgap : h.gap with
    | nil =>
      rw [hgap] at hc
      obtain rfl : '|' = c := by simpa using hc
      decide
    | cons d gap =>
      rw [hgap] at hc
      obtain rfl : d = c := by simpa using hc
      rw [hheads.gap_blank d (hgap ▸ List.mem_cons_self)]
      decide

/-- The name of a match lies between what stands in front of it and behind it.
-/
theorem name_matchOf (start : Nat) (h : Head) :
    (matchOf start h).name = some (start + byteLength h.upToName,
      start + byteLength h.upToName + byteLength h.name) := by
  have hlength : byteLength h.upToName = byteLength h.before + byteLength h.space + 1 := by
    unfold Head.upToName
    rw [Text.byteLength_append, Text.byteLength_append]
    rfl
  rw [hlength, ← Nat.add_assoc, ← Nat.add_assoc]
  rfl

/-- **The word at the position of an offset on a declared name** is that name.
-/
theorem wordAt_name {text : List Char} (hshort : byteLength text < UInt32.size) {l : Line}
    (hl : l.Of text) {h : Head} (hh : scanLine (l.content ++ l.returns) = some h) {o : Nat}
    (hfirst : l.start + byteLength h.upToName ≤ o)
    (hpast : o ≤ l.start + byteLength h.upToName + byteLength h.name) :
    Text.wordAt text (Text.positionAt text o) = some h.name := by
  obtain ⟨hline, hword, hbehind⟩ := around_name hh
  obtain ⟨front, back, hname, hfront⟩ := Text.exists_cut_of_word hword
    (k := o - (l.start + byteLength h.upToName)) (by omega)
  have ho : o = l.start + byteLength (h.upToName ++ front) := by
    rw [Text.byteLength_append]
    omega
  have hpart : l.content ++ l.returns = (h.upToName ++ front) ++ (back ++ h.behindName) := by
    rw [hline, hname]
    simp only [List.append_assoc]
  -- the position leads back to the offset, since a bar follows on the line
  have hoffset : Text.offsetAt text (Text.positionAt text o) = o := by
    have hbar : '|' ∈ back ++ h.behindName := by
      unfold Head.behindName
      simp
    rw [ho, hl.offsetAt_positionAt_part hshort hpart,
      Nat.min_eq_left (hl.le_stop_of_mem hpart hbar (by decide))]
  have htext : text = l.before ++ h.upToName ++ front ++ (back ++ (h.behindName ++ l.behind)) := by
    rw [hl.text_eq, hpart]
    simp only [List.append_assoc]
  have hcut : o = byteLength (l.before ++ h.upToName ++ front) := by
    rw [ho, List.append_assoc, Text.byteLength_append l.before]
    rfl
  unfold Text.wordAt
  rw [hoffset, hcut, htext, hname]
  refine Text.wordAround_word ?_ (hname ▸ hword) ?_ ?_
  · exact hname ▸ (declares_of_scanLine hh).name_ne
  · unfold Head.upToName
    rw [← List.append_assoc, List.getLast?_append]
    intro c hc
    obtain rfl : '.' = c := by simpa using hc
    decide
  · intro c hc
    refine hbehind c ?_
    unfold Head.behindName at hc ⊢
    cases hgap : h.gap <;> rw [hgap] at hc <;> exact hc

end Grammar

/-! ## Asking with a cursor -/

/-- **The match that an extraction keeps** for a symbol: the last one that
declares it. -/
def Extractor.Keeps (x : Extractor) (doc : Path) (text s : String) (span : Span)
    (m : Pattern.Match) : Prop :=
  ∃ early late, x.pattern.matches text.toList = early ++ m :: late
    ∧ declaration? doc text.toList m = some (s, span)
    ∧ ∀ m' ∈ late, ∀ span', declaration? doc text.toList m' ≠ some (s, span')

/-- An extracted symbol has its match. -/
theorem Extractor.exists_keeps {x : Extractor} {doc : Path} {text s : String} {span : Span}
    (h : (x.extract doc text).get? s = some span) : ∃ m, x.Keeps doc text s span m := by
  obtain ⟨early, late, hdecls, hlate⟩ := Table.get?_ofList_eq_some_iff.1 h
  obtain ⟨front, rest, hmatches, -, hrest⟩ := List.filterMap_eq_append_iff.1 hdecls
  obtain ⟨skipped, m, behind, rfl, -, hm, rfl⟩ := List.filterMap_eq_cons_iff.1 hrest
  refine ⟨m, front ++ skipped, behind, ?_, hm, fun m' hm' span' hdecl => ?_⟩
  · rw [hmatches, List.append_assoc]
  · exact hlate _ (List.mem_filterMap.2 ⟨m', hm', hdecl⟩) rfl

namespace Grammar

open Text (Line byteLength)
open Pattern (Match)

/-- A match that declares a symbol has it as the name on its line. -/
theorem exists_line_of_declaration? {doc : Path} {text : List Char} {m : Match} {s : String}
    {span : Span} (hm : m ∈ Extractor.ordinary.pattern.matches text)
    (hdecl : Extractor.declaration? doc text m = some (s, span)) :
    ∃ (l : Line) (head : Head), l.Of text ∧ scanLine (l.content ++ l.returns) = some head
      ∧ m = matchOf l.start head ∧ s = String.ofList head.name := by
  obtain ⟨l, head, hl, hhead, rfl⟩ := exists_line_of_mem_matches hm
  refine ⟨l, head, hl, hhead, rfl, ?_⟩
  have hslice : Extractor.slice (l.before ++ (l.content ++ l.returns ++ l.behind)) _ _
      = head.name :=
    slice_name (declares_of_scanLine hhead) l.behind
  rw [← hl.text_eq] at hslice
  rw [declaration?_of_slice doc rfl hslice (declares_of_scanLine hhead).name_ne] at hdecl
  exact (Prod.mk.inj (Option.some.inj hdecl)).1.symm

end Grammar

/-- **A declared name is found from any cursor on it.** Take a symbol that the
ordinary extractor finds in a text of less than 2³² bytes, and the match that it
is kept from. At the position of every offset from the first byte of the
captured name to just behind its last one the word is the symbol; so what a
workspace answers for a cursor there is what it answers for the symbol, and that
is what its index holds for it. -/
theorem Workspace.definitionAt_name {doc : Path} {text s : String} {span : Span}
    (hshort : Text.byteLength text.toList < UInt32.size)
    (hs : (Extractor.ordinary.extract doc text).get? s = some span) :
    (∃ m a b, Extractor.ordinary.Keeps doc text s span m ∧ m.name = some (a, b))
    ∧ ∀ m a b o, Extractor.ordinary.Keeps doc text s span m → m.name = some (a, b) →
        a ≤ o → o ≤ b →
        Text.wordAt text.toList (Text.positionAt text.toList o) = some s.toList
        ∧ ∀ w : Workspace, w.definitionAt text (Text.positionAt text.toList o) = w.definition s
            ∧ w.definition s = w.index.get? s := by
  constructor
  · obtain ⟨m, early, late, hmatches, hdecl, hlate⟩ := Extractor.exists_keeps hs
    obtain ⟨l, head, -, -, rfl, -⟩ :=
      Grammar.exists_line_of_declaration? (by rw [hmatches]; simp) hdecl
    exact ⟨_, _, _, ⟨early, late, hmatches, hdecl, hlate⟩, Grammar.name_matchOf l.start head⟩
  · rintro m a b o ⟨early, late, hmatches, hdecl, -⟩ hname ha hb
    obtain ⟨l, head, hl, hhead, rfl, rfl⟩ :=
      Grammar.exists_line_of_declaration? (by rw [hmatches]; simp) hdecl
    rw [Grammar.name_matchOf] at hname
    obtain ⟨rfl, rfl⟩ := Prod.mk.inj (Option.some.inj hname)
    have hword := Grammar.wordAt_name hshort hl hhead ha hb
    have hdef : ∀ i : Index, i.definition (String.ofList head.name)
        = i.get? (String.ofList head.name) := fun i => by
      refine Index.definition_of_isName ?_
      rw [String.toList_ofList]
      exact Grammar.isName_of_scanLine hhead
    refine ⟨by rw [String.toList_ofList, hword], fun w => ⟨?_, hdef w.index⟩⟩
    show (Text.wordAt text.toList _).bind _ = _
    rw [hword]
    rfl

/-- A name that is declared twice, and a cursor right behind the second one. -/
theorem Workspace.definitionAt_name_repeated :
    Text.byteLength "g.PcdA|1\r\nµ h.PcdA |2\r\n".toList < UInt32.size
      ∧ (Extractor.ordinary.extract ⟨"a.dec"⟩ "g.PcdA|1\r\nµ h.PcdA |2\r\n").get? "PcdA"
        = some ⟨⟨"a.dec"⟩, ⟨1, 2⟩, ⟨1, 11⟩, 13, 22⟩
      ∧ Text.wordAt "g.PcdA|1\r\nµ h.PcdA |2\r\n".toList ⟨1, 8⟩ = some "PcdA".toList
      ∧ ∀ w : Workspace, w.definitionAt "g.PcdA|1\r\nµ h.PcdA |2\r\n" ⟨1, 8⟩
        = w.index.get? "PcdA" := by
  have hshort : Text.byteLength "g.PcdA|1\r\nµ h.PcdA |2\r\n".toList < UInt32.size := by decide
  have hs : (Extractor.ordinary.extract ⟨"a.dec"⟩ "g.PcdA|1\r\nµ h.PcdA |2\r\n").get? "PcdA"
      = some ⟨⟨"a.dec"⟩, ⟨1, 2⟩, ⟨1, 11⟩, 13, 22⟩ := by decide +kernel
  have hkeeps : Extractor.ordinary.Keeps ⟨"a.dec"⟩ "g.PcdA|1\r\nµ h.PcdA |2\r\n" "PcdA"
      ⟨⟨"a.dec"⟩, ⟨1, 2⟩, ⟨1, 11⟩, 13, 22⟩ ⟨13, 22, some (15, 19)⟩ := by
    refine ⟨[⟨0, 8, some (2, 6)⟩], [], ?_, by decide +kernel, fun m' hm' => ?_⟩
    · rw [Grammar.matches_ordinary]
      rfl
    · exact absurd hm' List.not_mem_nil
  have hpos : Text.positionAt "g.PcdA|1\r\nµ h.PcdA |2\r\n".toList 19 = ⟨1, 8⟩ := by decide
  obtain ⟨hword, hdef⟩ :=
    (definitionAt_name hshort hs).2 _ 15 19 19 hkeeps rfl (by decide) (by decide)
  rw [hpos] at hword hdef
  exact ⟨hshort, hs, hword, fun w => (hdef w).1.trans (hdef w).2⟩

end PcdCatalog

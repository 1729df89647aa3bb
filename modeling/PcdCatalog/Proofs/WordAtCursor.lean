import PcdCatalog.Proofs.NameLookup
import PcdCatalog.Text.WordScan

/-!
# The word under a cursor

The word under a cursor is the run of word bytes that the offset of the cursor
lies in, or touches with one of its ends. `WordRange` says this of bytes alone,
and there is at most one such run around an offset (`WordRange.unique`).

The scan for it moves byte by byte through a text whose characters may have
several bytes, and yet cuts none of them: every byte of a character of several
bytes is outside the range of ASCII, so a byte is a word byte exactly if it
belongs to a word character (`isWordByte_of_mem`), and these have only one. The
run of word bytes around a boundary is therefore the run of word characters
around it, and the scan ends where that run does (`scanWord?_run`).
-/

namespace PcdCatalog.Text

/-! ## Word bytes -/

theorem isWordByte_ofNat {n : Nat} (h : n < 256) :
    isWordByte (UInt8.ofNat n) = true ↔ (48 ≤ n ∧ n ≤ 57) ∨ (65 ≤ n ∧ n ≤ 90) ∨ n = 95
      ∨ (97 ≤ n ∧ n ≤ 122) := by
  have hn : (UInt8.ofNat n).toNat = n := by
    rw [UInt8.toNat_ofNat', Nat.mod_eq_of_lt h]
  unfold isWordByte
  simp only [Bool.or_eq_true, Bool.and_eq_true, decide_eq_true_eq, beq_iff_eq,
    UInt8.le_iff_toNat_le, ← UInt8.toNat_inj, hn]
  show (((48 ≤ n ∧ n ≤ 57) ∨ 65 ≤ n ∧ n ≤ 90) ∨ n = 95) ∨ 97 ≤ n ∧ n ≤ 122 ↔ _
  omega

/-- **The bytes of a character are word bytes exactly if it is a word
character.** -/
theorem isWordByte_of_mem {c : Char} {b : UInt8} (h : b ∈ String.utf8EncodeChar c) :
    isWordByte b = isWordChar c := by
  rw [Bool.eq_iff_iff, Grammar.isWordChar_iff]
  show _ ↔ (48 ≤ c.val.toNat ∧ c.val.toNat ≤ 57) ∨ _
  have hbyte : ∀ n : Nat, n < 256 → b = UInt8.ofNat n →
      (isWordByte b = true ↔ (48 ≤ n ∧ n ≤ 57) ∨ (65 ≤ n ∧ n ≤ 90) ∨ n = 95
        ∨ (97 ≤ n ∧ n ≤ 122)) := by
    rintro n hn rfl
    exact isWordByte_ofNat hn
  unfold String.utf8EncodeChar at h
  dsimp only at h
  have htoNat : c.toNat = c.val.toNat := rfl
  split_ifs at h
  all_goals
    simp only [List.mem_cons, List.not_mem_nil, or_false] at h
  · rw [hbyte _ (by omega) h]
    omega
  · rcases h with h | h
    all_goals
      rw [hbyte _ (by omega) h]
      omega
  · rcases h with h | h | h
    all_goals
      rw [hbyte _ (by omega) h]
      omega
  · rcases h with h | h | h | h
    all_goals
      rw [hbyte _ (by omega) h]
      omega

/-- Whether there is a word byte at an offset. -/
def WordByteAt (bytes : List UInt8) (o : Nat) : Prop :=
  ∃ b, bytes[o]? = some b ∧ isWordByte b = true

/-- At each of its bytes a character is a word character or none. -/
theorem wordByteAt_utf8 (a : List Char) (c : Char) (b : List Char) {k : Nat}
    (hk : k < c.utf8Size) :
    WordByteAt (utf8 (a ++ c :: b)) (byteLength a + k) ↔ isWordChar c = true := by
  have hlen : k < (String.utf8EncodeChar c).length := by rwa [String.length_utf8EncodeChar]
  unfold WordByteAt
  rw [getElem?_utf8 a c b hk, List.getElem?_eq_getElem hlen,
    ← isWordByte_of_mem (List.getElem_mem hlen)]
  simp

/-! ## Runs of word bytes -/

/-- **The bytes of a word around an offset**, from `first` up to `past`: all of
them are word bytes, none stands directly in front of them or behind, and the
offset is among them or at one of their ends. -/
structure WordRange (bytes : List UInt8) (o first past : Nat) : Prop where
  first_le : first ≤ o
  le_past : o ≤ past
  nonempty : first < past
  word : ∀ i, first ≤ i → i < past → WordByteAt bytes i
  opens : ∀ i, i + 1 = first → ¬ WordByteAt bytes i
  closes : ¬ WordByteAt bytes past

namespace WordRange

variable {bytes : List UInt8} {o first past first' past' : Nat}

/-- No word starts in front of another one around the same offset. -/
theorem first_le_first (h : WordRange bytes o first past) (h' : WordRange bytes o first' past') :
    first ≤ first' := by
  by_contra hlt
  have hle := h.first_le
  have hle' := h'.le_past
  exact h.opens (first - 1) (by omega) (h'.word (first - 1) (by omega) (by omega))

/-- None ends behind another one. -/
theorem past_le_past (h : WordRange bytes o first past) (h' : WordRange bytes o first' past') :
    past' ≤ past := by
  by_contra hlt
  have hle := h.le_past
  have hle' := h'.first_le
  exact h.closes (h'.word past (by omega) (by omega))

/-- **There is at most one word around an offset.** -/
theorem unique (h : WordRange bytes o first past) (h' : WordRange bytes o first' past') :
    first' = first ∧ past' = past :=
  ⟨Nat.le_antisymm (h'.first_le_first h) (h.first_le_first h'),
    Nat.le_antisymm (h.past_le_past h') (h'.past_le_past h)⟩

/-- The offset of a word has a word byte on one of its sides. -/
theorem touches (h : WordRange bytes o first past) :
    WordByteAt bytes o ∨ ∃ i, i + 1 = o ∧ WordByteAt bytes i := by
  have hle := h.first_le
  have hpast := h.le_past
  have hlt := h.nonempty
  by_cases ho : o < past
  · exact .inl (h.word o hle ho)
  · exact .inr ⟨o - 1, by omega, h.word (o - 1) (by omega) (by omega)⟩

end WordRange

/-- **Going back ends where the word bytes do**, and does not leave the text. -/
theorem scanBack?_eq {bytes : List UInt8} {first o : Nat} (hin : o ≤ bytes.length)
    (hle : first ≤ o) (hword : ∀ i, first ≤ i → i < o → WordByteAt bytes i)
    (hopens : ∀ i, i + 1 = first → ¬ WordByteAt bytes i) : scanBack? bytes o = some first := by
  induction o with
  | zero =>
    obtain rfl := Nat.le_zero.1 hle
    rfl
  | succ o ih =>
    have hbyte := List.getElem?_eq_getElem (Nat.lt_of_succ_le hin)
    rw [scanBack?, hbyte]
    dsimp only
    rcases Nat.lt_or_ge o first with hlt | hge
    · obtain rfl : first = o + 1 := by omega
      rw [if_neg fun hb => hopens o rfl ⟨_, hbyte, hb⟩]
    · obtain ⟨b, hb, hb'⟩ := hword o hge (Nat.lt_succ_self o)
      obtain rfl := Option.some.inj (hbyte.symm.trans hb)
      rw [if_pos hb']
      exact ih (Nat.le_of_succ_le hin) hge fun i hi hio => hword i hi (Nat.lt_succ_of_lt hio)

/-- **Going on ends where the word bytes do.** -/
theorem scanOn_eq {bytes : List UInt8} {o past : Nat} (hle : o ≤ past)
    (hword : ∀ i, o ≤ i → i < past → WordByteAt bytes i) (hcloses : ¬ WordByteAt bytes past) :
    scanOn bytes o = past := by
  fun_induction scanOn bytes o with
  | case1 o hlt hb ih =>
    have hne : o ≠ past := by
      rintro rfl
      exact hcloses ⟨_, List.getElem?_eq_getElem hlt, hb⟩
    exact ih (by omega) fun i hi => hword i (Nat.le_of_succ_le hi)
  | case2 o hlt hb =>
    by_contra hne
    obtain ⟨b, hbyte, hb'⟩ := hword o (Nat.le_refl o) (by omega)
    obtain rfl := Option.some.inj ((List.getElem?_eq_getElem hlt).symm.trans hbyte)
    exact hb hb'
  | case3 o hge =>
    by_contra hne
    obtain ⟨b, hbyte, -⟩ := hword o (Nat.le_refl o) (by omega)
    exact hge (List.getElem?_eq_some_iff.1 hbyte).1

/-! ## Runs of word characters -/

/-- A word has word bytes only. -/
theorem wordByteAt_of_word {pre w : List Char} (hw : ∀ c ∈ w, isWordChar c = true)
    (post : List Char) {i : Nat} (hfirst : byteLength pre ≤ i)
    (hpast : i < byteLength pre + byteLength w) : WordByteAt (utf8 (pre ++ (w ++ post))) i := by
  obtain ⟨front, back, rfl, hfront⟩ := exists_cut_of_word hw (k := i - byteLength pre) (by omega)
  cases back with
  | nil =>
    rw [List.append_nil] at hpast
    omega
  | cons c back =>
    have hc : isWordChar c = true := hw c (by simp)
    have hbyte := (wordByteAt_utf8 (pre ++ front) c (back ++ post) c.utf8Size_pos).2 hc
    rw [byteLength_append, Nat.add_zero, show byteLength pre + byteLength front = i by omega]
      at hbyte
    simpa only [List.append_assoc, List.cons_append] using hbyte

/-- No word byte stands directly behind a part that ends in no word character. -/
theorem not_wordByteAt_before {pre : List Char} (hpre : ∀ c ∈ pre.getLast?, isWordChar c = false)
    (rest : List Char) {i : Nat} (hi : i + 1 = byteLength pre) :
    ¬ WordByteAt (utf8 (pre ++ rest)) i := by
  obtain rfl | ⟨init, c, rfl⟩ := List.eq_nil_or_concat pre
  · exact absurd hi (Nat.succ_ne_zero i)
  · rw [List.concat_eq_append] at hpre hi ⊢
    have hsize := c.utf8Size_pos
    rw [byteLength_append, byteLength, byteLength] at hi
    have hbyte := wordByteAt_utf8 init c rest (k := c.utf8Size - 1) (by omega)
    rw [show byteLength init + (c.utf8Size - 1) = i by omega,
      hpre c (by simp)] at hbyte
    rw [List.append_assoc]
    exact fun h => Bool.false_ne_true (hbyte.1 h)

/-- Nor in front of one that begins with none. -/
theorem not_wordByteAt_behind (a : List Char) {post : List Char}
    (hpost : ∀ c ∈ post.head?, isWordChar c = false) :
    ¬ WordByteAt (utf8 (a ++ post)) (byteLength a) := by
  cases post with
  | nil =>
    rintro ⟨b, hb, -⟩
    rw [List.append_nil, ← length_utf8, List.getElem?_eq_none (Nat.le_refl _)] at hb
    exact absurd hb (by simp)
  | cons c post =>
    have hbyte := wordByteAt_utf8 a c post c.utf8Size_pos
    rw [Nat.add_zero, hpost c rfl] at hbyte
    exact fun h => Bool.false_ne_true (hbyte.1 h)

/-- **A text taken apart around an offset**: the word characters in front of it
and behind, as many as there are, and what is left on the two sides. -/
structure Run (text : List Char) (o : Nat) (pre front back post : List Char) : Prop where
  text_eq : text = pre ++ front ++ (back ++ post)
  offset : o = byteLength (pre ++ front)
  word : ∀ c ∈ front ++ back, isWordChar c = true
  opens : ∀ c ∈ pre.getLast?, isWordChar c = false
  closes : ∀ c ∈ post.head?, isWordChar c = false

theorem exists_run {text : List Char} {o : Nat} (h : Boundary text o) :
    ∃ pre front back post, Run text o pre front back post := by
  obtain ⟨a, b, rfl, rfl⟩ := h
  refine ⟨a.rdropWhile isWordChar, a.rtakeWhile isWordChar, b.takeWhile isWordChar,
    b.dropWhile isWordChar, ?_, ?_, ?_, ?_, ?_⟩
  · rw [List.rdropWhile_append_rtakeWhile, List.takeWhile_append_dropWhile]
  · rw [List.rdropWhile_append_rtakeWhile]
  · refine List.forall_mem_append.2 ⟨fun c hc => ?_, fun c hc => ?_⟩
    · exact List.mem_rtakeWhile_imp hc
    · exact List.mem_takeWhile_imp hc
  · intro c hc
    have hne : a.rdropWhile isWordChar ≠ [] := by
      intro hnil
      rw [hnil] at hc
      exact absurd hc (by simp)
    have hlast := List.rdropWhile_last_not isWordChar a hne
    rw [List.getLast?_eq_some_getLast hne, Option.mem_some_iff] at hc
    rw [← hc]
    simpa using hlast
  · intro c hc
    have hne : b.dropWhile isWordChar ≠ [] := by
      intro hnil
      rw [hnil] at hc
      exact absurd hc (by simp)
    have hfirst := List.head_dropWhile_not isWordChar hne
    rw [List.head?_eq_some_head hne, Option.mem_some_iff] at hc
    rw [← hc]
    exact hfirst

namespace Run

variable {text pre front back post : List Char} {o : Nat}

/-- A run with what is left in front of it and behind. -/
theorem eq_append (h : Run text o pre front back post) :
    text = pre ++ (front ++ back ++ post) := by
  rw [h.text_eq]
  simp only [List.append_assoc]

/-- A run can be cut out of its text. -/
theorem part?_eq (h : Run text o pre front back post) :
    part? text (byteLength pre) (byteLength pre + byteLength (front ++ back))
      = some (front ++ back) := by
  rw [h.eq_append]
  exact Text.part?_eq pre (front ++ back) post

/-- The bytes between the ends of a run are word bytes, and those next to them are
not. -/
theorem wordByteAt (h : Run text o pre front back post) :
    (∀ i, byteLength pre ≤ i → i < byteLength pre + byteLength (front ++ back) →
      WordByteAt (utf8 text) i)
    ∧ (∀ i, i + 1 = byteLength pre → ¬ WordByteAt (utf8 text) i)
    ∧ ¬ WordByteAt (utf8 text) (byteLength pre + byteLength (front ++ back)) := by
  rw [h.eq_append]
  refine ⟨fun i => wordByteAt_of_word h.word post, fun i => not_wordByteAt_before h.opens _, ?_⟩
  rw [← List.append_assoc, ← byteLength_append]
  exact not_wordByteAt_behind _ h.closes

/-- A run that is not empty is the word around its offset. -/
theorem wordRange (h : Run text o pre front back post) (hne : front ++ back ≠ []) :
    WordRange (utf8 text) o (byteLength pre) (byteLength pre + byteLength (front ++ back)) := by
  obtain ⟨hword, hopens, hcloses⟩ := h.wordByteAt
  have hpos : 0 < byteLength (front ++ back) :=
    Nat.lt_of_lt_of_le (List.length_pos_iff.2 hne) (length_le_byteLength _)
  refine ⟨?_, ?_, Nat.lt_add_of_pos_right hpos, hword, hopens, hcloses⟩
  · rw [h.offset, byteLength_append]
    exact Nat.le_add_right _ _
  · rw [h.offset, byteLength_append, byteLength_append, ← Nat.add_assoc]
    exact Nat.le_add_right _ _

/-- **The scan for the word around an offset goes right**, and finds what the run
holds. -/
theorem scanWord?_eq (h : Run text o pre front back post) :
    scanWord? text o = some (wordAround text o)
      ∧ wordAround text o = if front ++ back = [] then none else some (front ++ back) := by
  obtain ⟨hword, hopens, hcloses⟩ := h.wordByteAt
  have hfound : wordAround text o = if front ++ back = [] then none else some (front ++ back) := by
    rw [h.text_eq, h.offset]
    exact wordAround_run h.word h.opens h.closes
  have ho : o = byteLength pre + byteLength front := h.offset.trans (byteLength_append pre front)
  have hlength := byteLength_append front back
  have hback : scanBack? (utf8 text) o = some (byteLength pre) := by
    refine scanBack?_eq ?_ (by omega) (fun i hi hio => hword i hi (by omega)) hopens
    rw [length_utf8, h.text_eq, h.offset, byteLength_append (pre ++ front)]
    exact Nat.le_add_right _ _
  have hon : scanOn (utf8 text) o = byteLength pre + byteLength (front ++ back) :=
    scanOn_eq (by omega) (fun i hi hip => hword i (by omega) hip) hcloses
  refine ⟨?_, hfound⟩
  unfold scanWord?
  rw [hback, Option.bind_eq_bind, Option.bind_some, hon, hfound]
  dsimp only
  by_cases hnil : front ++ back = []
  · rw [if_pos hnil, hnil, if_neg (by simp [byteLength])]
  · rw [if_neg hnil, if_pos (h.wordRange hnil).nonempty, h.part?_eq]
    rfl

end Run

/-! ## Words under cursors -/

/-- **The word under a cursor is the one around its offset.** Looking it up never
goes wrong. There is none exactly if neither the byte at the offset of the cursor
nor the one in front of it is a word byte; otherwise the word is cut out between
the ends of the only run of word bytes around the offset, and as it has word
characters only, no line ends in it. -/
theorem wordAt_exact (text : List Char) (p : Position) :
    (LineTable.ofText text).wordAt? text p = some (wordAt text p)
    ∧ (wordAt text p = none
        ↔ ¬ WordByteAt (utf8 text) (offsetAt text p)
          ∧ ∀ i, i + 1 = offsetAt text p → ¬ WordByteAt (utf8 text) i)
    ∧ ∀ word, wordAt text p = some word →
        (∀ c ∈ word, isWordChar c = true) ∧ '\n' ∉ word ∧ '\r' ∉ word
        ∧ ∃ first past, WordRange (utf8 text) (offsetAt text p) first past
          ∧ part? text first past = some word
          ∧ ∀ first' past', WordRange (utf8 text) (offsetAt text p) first' past' →
              first' = first ∧ past' = past := by
  obtain ⟨pre, front, back, post, hrun⟩ := exists_run (boundary_offsetAt text p)
  obtain ⟨hscan, hfound⟩ := hrun.scanWord?_eq
  refine ⟨?_, ?_, fun word hword => ?_⟩
  · unfold LineTable.wordAt?
    rw [LineTable.offsetAt?_eq, Option.bind_some, hscan]
    rfl
  · unfold wordAt
    rw [hfound]
    by_cases hnil : front ++ back = []
    · obtain ⟨-, hopens, hcloses⟩ := hrun.wordByteAt
      have ho : offsetAt text p = byteLength pre := by
        rw [hrun.offset, (List.append_eq_nil_iff.1 hnil).1, List.append_nil]
      rw [hnil, byteLength, Nat.add_zero, ← ho] at hcloses
      exact ⟨fun _ => ⟨hcloses, fun i hi => hopens i (hi.trans ho)⟩, fun _ => if_pos hnil⟩
    · have hside := (hrun.wordRange hnil).touches
      rw [if_neg hnil]
      refine ⟨fun h => absurd h (by simp), ?_⟩
      rintro ⟨hat, hbefore⟩
      rcases hside with hbyte | ⟨i, hi, hbyte⟩
      · exact absurd hbyte hat
      · exact absurd hbyte (hbefore i hi)
  · unfold wordAt at hword
    rw [hfound] at hword
    split at hword
    next => exact absurd hword (by simp)
    next hne =>
      obtain rfl := Option.some.inj hword
      exact ⟨hrun.word, fun hmem => absurd (hrun.word _ hmem) (by decide),
        fun hmem => absurd (hrun.word _ hmem) (by decide), _, _, hrun.wordRange hne,
        hrun.part?_eq, fun _ _ h' => (hrun.wordRange hne).unique h'⟩

/-- A cursor inside a name between other characters, and one behind the end of the
line. -/
theorem wordAt_exact_between :
    wordAt "é𝔸\nx.PcdA_9é".toList ⟨1, 4⟩ = some "PcdA_9".toList
      ∧ (∃ first past, WordRange (utf8 "é𝔸\nx.PcdA_9é".toList) 11 first past
          ∧ part? "é𝔸\nx.PcdA_9é".toList first past = some "PcdA_9".toList)
      ∧ wordAt "é𝔸\nx.PcdA_9é".toList ⟨1, 99⟩ = none
      ∧ (LineTable.ofText "é𝔸\nx.PcdA_9é".toList).wordAt? "é𝔸\nx.PcdA_9é".toList ⟨1, 99⟩
        = some none := by
  obtain ⟨-, -, hword⟩ := wordAt_exact "é𝔸\nx.PcdA_9é".toList ⟨1, 4⟩
  obtain ⟨hlook, -, -⟩ := wordAt_exact "é𝔸\nx.PcdA_9é".toList ⟨1, 99⟩
  have hsome : wordAt "é𝔸\nx.PcdA_9é".toList ⟨1, 4⟩ = some "PcdA_9".toList := by decide
  have hnone : wordAt "é𝔸\nx.PcdA_9é".toList ⟨1, 99⟩ = none := by decide
  have hoffset : offsetAt "é𝔸\nx.PcdA_9é".toList ⟨1, 4⟩ = 11 := by decide
  obtain ⟨-, -, -, first, past, hrange, hpart, -⟩ := hword _ hsome
  rw [hoffset] at hrange
  rw [hnone] at hlook
  exact ⟨hsome, ⟨first, past, hrange, hpart⟩, hnone, hlook⟩

end PcdCatalog.Text

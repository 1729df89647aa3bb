import Mathlib.Tactic.SplitIfs
import PcdCatalog.Config.Text

/-!
# Texts are read back as they were written

A text is written in one of five styles, the plainest that can hold it, and the
readers of the styles do not mirror the writer: a reader looks at runs of quotes,
at line ends and at what stands behind a backslash. The two meet in a relation
between what is written and what it means, with one rule for each thing that can
stand between quotes: `Basic` for one line between double quotes, `Several` for
three quotes of either kind. The readers accept whatever stands in the relation
(`Basic.basic?_eq`, `Several.multiline?_eq`), and the writer writes nothing else.

So a text is read back whatever its characters are (`text?_renderText`), if no
quote follows it, and nothing that follows a text in a document is one.
-/

namespace PcdCatalog.Toml

/-! ## What stands for a character -/

/-- **Something stands for a character** between quotes of a kind: the character
itself, or an escape of it, which only double quotes allow. -/
inductive StandsFor (quote : Char) : List Char → Char → Prop where
  | plain {c : Char} (hplain : isPlain quote c = true) (hback : ¬ (c = '\\' ∧ quote = '"')) :
      StandsFor quote [c] c
  | escape {code : List Char} {c : Char} (hquote : quote = '"')
      (hescape : ∀ rest, escape? (code ++ rest) = some (c, rest))
      (hfolded : ∀ rest, foldedLines? (code ++ rest) = none) : StandsFor quote ('\\' :: code) c

/-- No line end is folded behind a character that is neither a blank nor begins a
line end. -/
theorem foldedLines?_eq_none {c : Char} (hblank : isBlank c = false) (hn : c ≠ '\n') (hr : c ≠ '\r')
    (rest : List Char) : foldedLines? (c :: rest) = none := by
  have hskip : skip (c :: rest) = c :: rest := List.dropWhile_cons_of_neg (by simp [hblank])
  unfold foldedLines?
  rw [hskip]
  unfold newline?
  split <;> simp_all

theorem hexDigit?_hexUpper {n : Nat} (hn : n < 128) :
    Json.hexDigit? (Nat.digitChar (n / 16)).toUpper = some (n / 16)
      ∧ Json.hexDigit? (Nat.digitChar (n % 16)).toUpper = some (n % 16) := by
  revert n
  decide

/-- A control that is written by its code. -/
theorem escape?_code {c : Char} (hc : c.toNat < 128) (rest : List Char) :
    escape? ('u' :: '0' :: '0' :: escaped.hexUpper c.toNat ++ rest) = some (c, rest) := by
  obtain ⟨hhigh, hlow⟩ := hexDigit?_hexUpper hc
  have hzero : Json.hexDigit? '0' = some 0 := rfl
  have hvalue : 16 * (c.toNat / 16) + c.toNat % 16 = c.toNat := Nat.div_add_mod _ _
  have hhex : hex? 4 0 ('0' :: '0' :: escaped.hexUpper c.toNat ++ rest) = some (c.toNat, rest) := by
    simp [escaped.hexUpper, hex?, hzero, hhigh, hlow, hvalue]
  have hchar : Char.ofNatAux c.toNat c.valid = c := Char.ext rfl
  show codePoint? 4 ('0' :: '0' :: escaped.hexUpper c.toNat ++ rest) = _
  unfold codePoint?
  rw [hhex]
  exact (dif_pos c.valid).trans (by rw [hchar])

/-- An escape of one letter. -/
theorem standsFor_letter {letter c : Char}
    (hescape : ∀ rest, escape? (letter :: rest) = some (c, rest))
    (hblank : isBlank letter = false) (hn : letter ≠ '\n') (hr : letter ≠ '\r') :
    StandsFor '"' ['\\', letter] c :=
  .escape rfl hescape (foldedLines?_eq_none hblank hn hr)

/-- **What is written for a character stands for it.** -/
theorem standsFor_escaped {c : Char} (hquote : c ≠ '"') (hline : c ≠ '\n') :
    StandsFor '"' (escaped c) c := by
  unfold escaped
  split_ifs with hback hb ht hf hr hcode
  · subst hback
    exact standsFor_letter (fun _ => rfl) (by decide) (by decide) (by decide)
  · subst hb
    exact standsFor_letter (fun _ => rfl) (by decide) (by decide) (by decide)
  · subst ht
    exact standsFor_letter (fun _ => rfl) (by decide) (by decide) (by decide)
  · subst hf
    exact standsFor_letter (fun _ => rfl) (by decide) (by decide) (by decide)
  · subst hr
    exact standsFor_letter (fun _ => rfl) (by decide) (by decide) (by decide)
  · have hc : c.toNat < 128 := by
      simp only [Bool.or_eq_true, decide_eq_true_eq] at hcode
      omega
    exact .escape rfl (escape?_code hc) fun _ =>
      foldedLines?_eq_none (by decide) (by decide) (by decide) _
  · refine .plain ?_ (fun h => hback h.1)
    simp only [Bool.or_eq_true, decide_eq_true_eq] at hcode
    simp only [isPlain, isCommentChar, Bool.and_eq_true, Bool.or_eq_true, decide_eq_true_eq,
      bne_iff_ne, ne_eq]
    exact ⟨Or.inr ⟨by omega, by omega⟩, hquote⟩

/-! ## One line -/

/-- **What a line between double quotes means.** -/
inductive Basic : List Char → List Char → Prop where
  | nil : Basic [] []
  | cons {code written meant : List Char} {c : Char} (hcode : StandsFor '"' code c)
      (h : Basic written meant) : Basic (code ++ written) (c :: meant)

theorem StandsFor.basic?_eq {code : List Char} {c : Char} (h : StandsFor '"' code c) (fuel : Nat)
    (acc rest : List Char) :
    basic? (fuel + 1) acc (code ++ rest) = basic? fuel (c :: acc) rest := by
  cases h with
  | plain hplain hback =>
    have hquote : c ≠ '"' := by
      rintro rfl
      exact absurd hplain (by decide)
    rw [List.singleton_append, basic?.eq_5 _ _ _ _ hquote fun hc => hback ⟨hc, rfl⟩, if_pos hplain]
  | escape hquote hescape hfolded =>
    rw [List.cons_append, basic?, hescape]
    rfl

theorem StandsFor.length_pos {quote : Char} {code : List Char} {c : Char}
    (h : StandsFor quote code c) : 0 < code.length := by
  cases h <;> exact Nat.succ_pos _

/-- **The reader of one line accepts what stands in the relation.** -/
theorem Basic.basic?_eq {written meant : List Char} (h : Basic written meant) {fuel : Nat}
    (hfuel : written.length < fuel) (acc rest : List Char) :
    basic? fuel acc (written ++ '"' :: rest)
      = some (String.ofList (acc.reverse ++ meant), rest) := by
  induction h generalizing fuel acc with
  | nil =>
    obtain ⟨fuel, rfl⟩ : ∃ n, fuel = n + 1 := ⟨fuel - 1, by omega⟩
    simp [basic?]
  | @cons code written meant c hcode h ih =>
    have hlength := hcode.length_pos
    rw [List.length_append] at hfuel
    obtain ⟨fuel, rfl⟩ : ∃ n, fuel = n + 1 := ⟨fuel - 1, by omega⟩
    have hleft : written.length < fuel := by omega
    rw [List.append_assoc, hcode.basic?_eq]
    exact (ih hleft (c :: acc)).trans (by simp)

/-- **What is written in one line means the text.** Every quote and every line end in
it is escaped. -/
theorem basic_escapedText (run : Nat) (cs : List Char) : Basic (escapedText false 0 run cs) cs := by
  fun_induction escapedText false 0 run cs with
  | case1 run => exact .nil
  | case2 run cs hrun ih => exact absurd hrun (Nat.not_lt_zero _)
  | case3 run cs hrun ih =>
    exact .cons (standsFor_letter (fun _ => rfl) (by decide) (by decide) (by decide)) ih
  | case4 run cs ih =>
    exact .cons (standsFor_letter (fun _ => rfl) (by decide) (by decide) (by decide)) ih
  | case5 run c cs hquote hline ih => exact .cons (standsFor_escaped hquote hline) ih

/-! ## Several lines -/

/-- **What several lines between three quotes mean.** Up to two quotes may stand before
anything else and at the end. -/
inductive Several (quote : Char) : List Char → List Char → Prop where
  | last {k : Nat} (hk : k ≤ 2) : Several quote (List.replicate k quote) (List.replicate k quote)
  | next {k : Nat} {code written meant : List Char} {c : Char} (hk : k ≤ 2)
      (hcode : StandsFor quote code c) (h : Several quote written meant) :
      Several quote (List.replicate k quote ++ (code ++ written))
        (List.replicate k quote ++ c :: meant)
  | line {k : Nat} {written meant : List Char} (hk : k ≤ 2) (h : Several quote written meant) :
      Several quote (List.replicate k quote ++ '\n' :: written)
        (List.replicate k quote ++ '\n' :: meant)

variable {quote : Char}

/-- How long a run of quotes is. -/
theorem length_takeWhile_replicate (k : Nat) {rest : List Char} (hrest : rest.head? ≠ some quote) :
    ((List.replicate k quote ++ rest).takeWhile (· == quote)).length = k := by
  have hnone : rest.takeWhile (· == quote) = [] := by
    cases rest with
    | nil => rfl
    | cons c rest => exact List.takeWhile_cons_of_neg (by simpa using hrest)
  rw [List.takeWhile_append_of_pos (by simp), hnone, List.append_nil, List.length_replicate]

/-- Up to two quotes before something else belong to the text. -/
theorem multiline?_quotes {k : Nat} (hk : k ≤ 2) {rest : List Char}
    (hrest : rest.head? ≠ some quote) {fuel : Nat} (hfuel : k < fuel) (acc : List Char) :
    ∃ left, fuel - k ≤ left
      ∧ multiline? quote fuel acc (List.replicate k quote ++ rest)
        = multiline? quote left (List.replicate k quote ++ acc) rest := by
  cases k with
  | zero => exact ⟨fuel, Nat.le_refl _, rfl⟩
  | succ k =>
    obtain ⟨fuel, rfl⟩ : ∃ n, fuel = n + 1 := ⟨fuel - 1, by omega⟩
    refine ⟨fuel, by omega, ?_⟩
    have hrun := length_takeWhile_replicate (k + 1) hrest
    rw [List.replicate_succ, List.cons_append] at hrun ⊢
    rw [multiline?, if_pos rfl]
    simp only [hrun]
    rw [if_pos (by omega), List.drop_succ_cons, List.drop_left' (List.length_replicate),
      List.replicate_succ]

/-- What the reader of several lines takes for a character in one step. -/
structure Taken (quote : Char) (code : List Char) (c : Char) : Prop where
  length_pos : 0 < code.length
  head : ∀ rest, (code ++ rest).head? ≠ some quote
  step : ∀ fuel acc rest,
    multiline? quote (fuel + 1) acc (code ++ rest) = multiline? quote fuel (c :: acc) rest

theorem StandsFor.taken {code : List Char} {c : Char} (h : StandsFor quote code c) :
    Taken quote code c := by
  cases h with
  | plain hplain hback =>
    have hc : c ≠ quote := by
      rintro rfl
      simp [isPlain] at hplain
    refine ⟨Nat.succ_pos _, fun rest => by simpa using hc, fun fuel acc rest => ?_⟩
    rw [List.singleton_append, multiline?, if_neg hc, if_neg hback, if_pos hplain]
  | escape hdouble hescape hfolded =>
    have hc : '\\' ≠ quote := by
      rw [hdouble]
      decide
    refine ⟨Nat.succ_pos _, fun rest => by simpa using hc, fun fuel acc rest => ?_⟩
    rw [List.cons_append, multiline?, if_neg hc, if_pos ⟨rfl, hdouble⟩, hfolded, hescape]
    rfl

theorem taken_line (hquote : quote ≠ '\n') : Taken quote ['\n'] '\n' := by
  refine ⟨Nat.succ_pos _, fun rest => by simpa using hquote.symm, fun fuel acc rest => ?_⟩
  have hplain : ¬ isPlain quote '\n' = true := by simp [isPlain, isCommentChar]
  rw [List.singleton_append, multiline?, if_neg hquote.symm, if_neg (by simp), if_neg hplain]
  rfl

/-- Quotes, and then what is taken for a character. -/
theorem Taken.quotes {code : List Char} {c : Char} (h : Taken quote code c) {k : Nat} (hk : k ≤ 2)
    {fuel : Nat} (hfuel : k + code.length < fuel) (acc rest : List Char) :
    ∃ left, fuel - (k + code.length) ≤ left
      ∧ multiline? quote fuel acc (List.replicate k quote ++ (code ++ rest))
        = multiline? quote left (c :: (List.replicate k quote ++ acc)) rest := by
  have hlength := h.length_pos
  have hlt : k < fuel := by omega
  obtain ⟨left, hleft, hquotes⟩ := multiline?_quotes hk (h.head rest) hlt acc
  obtain ⟨left, rfl⟩ : ∃ n, left = n + 1 := ⟨left - 1, by omega⟩
  refine ⟨left, by omega, ?_⟩
  rw [hquotes, h.step]

/-- **The reader of several lines accepts what stands in the relation**, if no quote
follows. -/
theorem Several.multiline?_eq {written meant : List Char} (h : Several quote written meant)
    (hquote : quote ≠ '\n') {rest : List Char} (hrest : rest.head? ≠ some quote) {fuel : Nat}
    (hfuel : written.length < fuel) (acc : List Char) :
    multiline? quote fuel acc (written ++ (List.replicate 3 quote ++ rest))
      = some (String.ofList (acc.reverse ++ meant), rest) := by
  induction h generalizing fuel acc with
  | @last k hk =>
    obtain ⟨fuel, rfl⟩ : ∃ n, fuel = n + 1 := ⟨fuel - 1, by omega⟩
    have hrun := length_takeWhile_replicate (k + 3) hrest
    have hdrop : (List.replicate (k + 3) quote ++ rest).drop (k + 3) = rest :=
      List.drop_left' List.length_replicate
    rw [← List.append_assoc, List.replicate_append_replicate]
    rw [List.replicate_succ, List.cons_append] at hrun hdrop ⊢
    rw [multiline?, if_pos rfl]
    simp only [hrun]
    rw [if_neg (by omega), Nat.add_sub_cancel, Nat.min_eq_left hk, hdrop, List.reverse_append,
      List.reverse_replicate]
  | @next k code written meant c hk hcode h ih =>
    simp only [List.length_append, List.length_replicate] at hfuel
    have hlt : k + code.length < fuel := by omega
    obtain ⟨left, hleft, hnext⟩ := hcode.taken.quotes hk hlt acc
      (written ++ (List.replicate 3 quote ++ rest))
    have hlt : written.length < left := by omega
    rw [List.append_assoc, List.append_assoc, hnext, ih hlt]
    simp
  | @line k written meant hk h ih =>
    simp only [List.length_append, List.length_replicate, List.length_cons] at hfuel
    have hlt : k + ['\n'].length < fuel := by
      rw [List.length_singleton]
      omega
    obtain ⟨left, hleft, hnext⟩ := (taken_line hquote).quotes hk hlt acc
      (written ++ (List.replicate 3 quote ++ rest))
    rw [List.length_singleton] at hleft
    have hlt : written.length < left := by omega
    rw [List.append_assoc, List.cons_append]
    refine hnext.trans ((ih hlt _).trans ?_)
    simp

/-- The line end that may stand behind the opening quotes is told from the text. -/
theorem Several.newline?_eq {written meant : List Char} (h : Several quote written meant)
    (hn : quote ≠ '\n') (hr : quote ≠ '\r') (hline : '\n' ∉ meant) (rest : List Char) :
    newline? (written ++ (List.replicate 3 quote ++ rest)) = none := by
  have hhead : ∀ {c : Char} {cs : List Char}, c ≠ '\n' → c ≠ '\r' → newline? (c :: cs) = none := by
    intro c cs hn hr
    exact newline?.eq_3 _ (fun rest h => hn (List.cons.inj h).1)
      fun rest h => hr (List.cons.inj h).1
  cases h with
  | @last k hk =>
    rw [← List.append_assoc, List.replicate_append_replicate]
    exact hhead hn hr
  | @next k code written meant c hk hcode h =>
    cases k with
    | succ k => exact hhead hn hr
    | zero =>
      cases hcode with
      | plain hplain hback =>
        refine hhead ?_ ?_ <;> rintro rfl <;> simp [isPlain, isCommentChar] at hplain
      | escape hdouble hescape hfolded => exact hhead (by decide) (by decide)
  | line hk h => exact absurd (List.mem_append_right _ List.mem_cons_self) hline

/-- **A text of several lines is read back**, with a line end in front if it has
one. -/
theorem Several.multilineText?_eq {written meant : List Char} (h : Several quote written meant)
    (hn : quote ≠ '\n') (hr : quote ≠ '\r') {rest : List Char} (hrest : rest.head? ≠ some quote) :
    multilineText? quote ((if meant.contains '\n' then ['\n'] else [])
        ++ (written ++ (List.replicate 3 quote ++ rest)))
      = some (String.ofList meant, rest) := by
  have hlt : written.length < (written ++ (List.replicate 3 quote ++ rest)).length + 1 := by
    rw [List.length_append]
    omega
  have hread := h.multiline?_eq hn hrest hlt []
  unfold multilineText?
  split_ifs with hline
  · exact hread
  · have hnone := h.newline?_eq hn hr (by simpa using hline) rest
    rw [List.nil_append, hnone]
    exact hread

/-! ## What is written -/

/-- **What is written in several lines means the text.** Of a run of quotes two are
left as they are. -/
theorem several_escapedText {run : Nat} (hrun : run ≤ 2) (cs : List Char) :
    Several '"' (List.replicate run '"' ++ escapedText true 2 run cs)
      (List.replicate run '"' ++ cs) := by
  fun_induction escapedText true 2 run cs with
  | case1 run =>
    rw [List.append_nil]
    exact .last hrun
  | case2 run cs hlt ih =>
    have hnext := ih hlt
    rwa [List.replicate_succ', List.append_assoc, List.append_assoc] at hnext
  | case3 run cs hlt ih =>
    exact .next hrun (standsFor_letter (fun _ => rfl) (by decide) (by decide) (by decide))
      (ih (Nat.zero_le 2))
  | case4 run cs ih => exact .line hrun (ih (Nat.zero_le 2))
  | case5 run c cs hquote hline ih =>
    exact .next hrun (standsFor_escaped hquote hline) (ih (Nat.zero_le 2))

/-- One step of finding the longest run of a character. -/
def runStep (c : Char) (n : Nat × Nat) (d : Char) : Nat × Nat :=
  (if d = c then n.1 + 1 else 0, max n.2 (if d = c then n.1 + 1 else 0))

theorem longestRun_eq (c : Char) (cs : List Char) :
    longestRun c cs = (cs.foldl (runStep c) (0, 0)).2 := rfl

theorem le_longest (c : Char) (cs : List Char) (n : Nat × Nat) :
    n.2 ≤ (cs.foldl (runStep c) n).2 := by
  induction cs generalizing n with
  | nil => exact Nat.le_refl _
  | cons d cs ih => exact Nat.le_trans (Nat.le_max_left _ _) (ih (runStep c n d))

theorem isPlain_of_needsEscape {c : Char} (hcode : needsEscape c = false) (hline : c ≠ '\n')
    (hc : c ≠ quote) : isPlain quote c = true := by
  unfold needsEscape at hcode
  unfold isPlain isCommentChar
  simp only [Bool.or_eq_false_iff, Bool.and_eq_false_iff, decide_eq_false_iff_not,
    bne_eq_false_iff_eq, Bool.and_eq_true, Bool.or_eq_true, decide_eq_true_eq,
    bne_iff_ne] at hcode ⊢
  obtain ⟨(hlow | htab) | hn, hdel⟩ := hcode
  · exact ⟨Or.inr ⟨by omega, hdel⟩, hc⟩
  · exact ⟨Or.inl htab, hc⟩
  · exact absurd hn hline

/-- **A text as it is means itself in several lines**, if it has no controls and no run
of three quotes. -/
theorem several_raw {cs : List Char} (hcodes : ∀ c ∈ cs, needsEscape c = false) {n : Nat × Nat}
    (hn : n.1 ≤ 2) (hlong : (cs.foldl (runStep '\'') n).2 ≤ 2) :
    Several '\'' (List.replicate n.1 '\'' ++ cs) (List.replicate n.1 '\'' ++ cs) := by
  induction cs generalizing n with
  | nil =>
    rw [List.append_nil]
    exact .last hn
  | cons c cs ih =>
    rw [List.forall_mem_cons] at hcodes
    have hlongest := Nat.le_trans (le_longest '\'' cs (runStep '\'' n c)) hlong
    have hnext := ih hcodes.2 (Nat.le_trans (Nat.le_max_right _ _) hlongest) hlong
    by_cases hc : c = '\''
    · subst hc
      have hrun : (runStep '\'' n '\'').1 = n.1 + 1 := by simp [runStep]
      rwa [hrun, List.replicate_succ', List.append_assoc, List.singleton_append] at hnext
    · have hrun : (runStep '\'' n c).1 = 0 := if_neg hc
      rw [hrun, List.replicate_zero, List.nil_append] at hnext
      by_cases hline : c = '\n'
      · subst hline
        exact .line hn hnext
      · exact .next hn (.plain (isPlain_of_needsEscape hcodes.1 hline hc) (by simp)) hnext

/-- Two double quotes do not follow the one that opens a line. -/
theorem text?_line {written meant : List Char} (h : Basic written meant) {rest : List Char}
    (hrest : rest.head? ≠ some '"') :
    text? ('"' :: (written ++ '"' :: rest)) = lineText? ('"' :: (written ++ '"' :: rest)) := by
  refine text?.eq_3 _ (fun rest' heq => ?_) (fun rest' heq => ?_)
  · cases h with
    | nil =>
      rw [List.nil_append, List.cons.injEq, List.cons.injEq] at heq
      rw [heq.2.2] at hrest
      exact hrest rfl
    | cons hcode h =>
      cases hcode with
      | plain hplain hback =>
        simp only [List.cons_append, List.cons.injEq] at heq
        rw [heq.2.1] at hplain
        exact absurd hplain (by decide)
      | escape hquote hescape hfolded =>
        simp only [List.cons_append, List.cons.injEq] at heq
        exact absurd heq.2.1 (by decide)
  · exact absurd (List.cons.inj heq).1 (by decide)

theorem text?_basic (cs : List Char) {rest : List Char} (hrest : rest.head? ≠ some '"') :
    text? ('"' :: (escapedText false 0 0 cs ++ '"' :: rest)) = some (String.ofList cs, rest) := by
  have h := basic_escapedText 0 cs
  rw [text?_line h hrest]
  refine h.basic?_eq ?_ [] rest
  rw [List.length_append]
  omega

theorem text?_literal {cs : List Char} (hne : cs ≠ []) (hcodes : ∀ c ∈ cs, needsEscape c = false)
    (hline : '\n' ∉ cs) (hquote : '\'' ∉ cs) (rest : List Char) :
    text? ('\'' :: (cs ++ '\'' :: rest)) = some (String.ofList cs, rest) := by
  have hplain : ∀ c ∈ cs, isPlain '\'' c = true := fun c hc =>
    isPlain_of_needsEscape (hcodes c hc) (fun h => hline (h ▸ hc)) fun h => hquote (h ▸ hc)
  have htext : text? ('\'' :: (cs ++ '\'' :: rest)) = literal? (cs ++ '\'' :: rest) := by
    refine text?.eq_3 _ (fun rest' heq => ?_) (fun rest' heq => ?_)
    · exact absurd (List.cons.inj heq).1 (by decide)
    · cases cs with
      | nil => exact hne rfl
      | cons c cs =>
        simp only [List.cons_append, List.cons.injEq] at heq
        exact hquote (heq.2.1 ▸ List.mem_cons_self)
  rw [htext]
  unfold literal?
  rw [List.dropWhile_append_of_pos hplain, List.takeWhile_append_of_pos hplain,
    List.dropWhile_cons_of_neg (by decide), List.takeWhile_cons_of_neg (by decide), List.append_nil]
  rfl

/-- **A text is read back as it was written**, whatever its characters are, if no quote
follows it. -/
theorem text?_renderText (s : String) {rest : List Char} (hdouble : rest.head? ≠ some '"')
    (hsingle : rest.head? ≠ some '\'') :
    text? ((renderText s).toList ++ rest) = some (s, rest) := by
  obtain ⟨cs, rfl⟩ : ∃ cs, s = String.ofList cs := ⟨s.toList, String.ofList_toList.symm⟩
  dsimp only [renderText]
  generalize hopen3 : (if (String.ofList cs).toList.contains '\n' = true then "\n" else "") = open3
  have hopen : open3.toList = if cs.contains '\n' then ['\n'] else [] := by
    rw [← hopen3, String.toList_ofList]
    split <;> rfl
  rw [String.toList_ofList]
  have hone := text?_basic cs hdouble
  have hseveral := (several_escapedText (Nat.zero_le 2) cs).multilineText?_eq (by decide)
    (by decide) hdouble
  split_ifs with hplain hliteral hlines hraw hline
  · simpa using hone
  · have hne : cs ≠ [] := by
      rintro rfl
      exact hplain rfl
    simp only [Bool.and_eq_true, Bool.not_eq_true', List.any_eq_false, List.contains_eq_mem,
      decide_eq_false_iff_not] at hliteral
    obtain ⟨⟨hcodes, hline⟩, hquote⟩ := hliteral
    simpa using text?_literal hne (fun c hc => eq_false_of_ne_true (hcodes c hc)) hline hquote rest
  · simpa [hopen, text?] using hseveral
  · simp only [Bool.and_eq_true, Bool.not_eq_true', List.any_eq_false] at hraw
    obtain ⟨hcodes, hlong⟩ := hraw
    have hlong := of_decide_eq_true hlong
    rw [longestRun_eq] at hlong
    have hraw := (several_raw (fun c hc => eq_false_of_ne_true (hcodes c hc)) (Nat.zero_le 2)
      hlong).multilineText?_eq (by decide) (by decide) hsingle
    simpa [hopen, text?] using hraw
  · simpa [hopen, text?] using hseveral
  · simpa using hone

end PcdCatalog.Toml

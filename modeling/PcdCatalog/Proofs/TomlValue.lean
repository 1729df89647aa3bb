import PcdCatalog.Proofs.TomlText

/-!
# Values are read back as they were written

A document writes whole numbers, truth values, texts and lists of texts. `Written`
says that something is written for a value: whatever stands on the next line, the
reader of values takes just that and stops at the end of the line.

The reader does not know beforehand what it has before it. It asks for a word, for a
day or a time, for a number with a fraction, and only then for a whole number; so a
whole number is read back because the others need a mark which it does not have
(`moment?_digits`, `Decimal.real?_eq`).
-/

namespace PcdCatalog.Toml

/-- **A value is written so**, on a line of its own. -/
structure Written (written : List Char) (d : Data) : Prop where
  /-- It begins with something. -/
  head : ∃ c cs, written = c :: cs ∧ isBlank c = false
  value : ∀ fuel, written.length < fuel → ∀ rest,
    value? fuel 0 (written ++ '\n' :: rest) = some (d, '\n' :: rest)

/-- A character of a kind is none of another kind. -/
theorem ne_of_kind {kind : Char → Bool} {c d : Char} (hc : kind c = true) (hd : kind d = false) :
    c ≠ d := by
  rintro rfl
  rw [hc] at hd
  exact absurd hd (by simp)

/-! ## Whole numbers -/

section Numbers

variable {ds rest : List Char}

/-- Digits are taken up to the end of the line. -/
theorem more_digits (hds : ∀ c ∈ ds, c.isDigit = true) :
    digits.more Char.isDigit (ds ++ '\n' :: rest) = (ds, '\n' :: rest) := by
  induction ds with
  | nil =>
    rw [List.nil_append, digits.more.eq_2 _ _ _ (by simp)]
    rfl
  | cons c ds ih =>
    rw [List.forall_mem_cons] at hds
    have hc : c ≠ '_' := ne_of_kind hds.1 (by decide)
    rw [List.cons_append, digits.more.eq_2 _ _ _ (fun _ _ h => absurd h hc), if_pos hds.1, ih hds.2]

/-- What begins with digits or ends the line. -/
def Unmarked (cs : List Char) : Prop := ∀ c, cs.head? = some c → c.isDigit = true ∨ c = '\n'

theorem unmarked_digits (hds : ∀ c ∈ ds, c.isDigit = true) : Unmarked (ds ++ '\n' :: rest) := by
  intro c hc
  cases ds with
  | nil => exact Or.inr (Option.some.inj hc).symm
  | cons d ds => exact Or.inl (Option.some.inj hc ▸ hds d List.mem_cons_self)

/-- Behind some of the digits there is a digit or the end of the line. -/
theorem unmarked_of_fixed? {k n m : Nat} {left : List Char} (hds : ∀ c ∈ ds, c.isDigit = true)
    (h : fixed? k n (ds ++ '\n' :: rest) = some (m, left)) : Unmarked left := by
  induction k generalizing n ds with
  | zero =>
    obtain ⟨-, rfl⟩ : n = m ∧ ds ++ '\n' :: rest = left := by simpa [fixed?] using h
    exact unmarked_digits hds
  | succ k ih =>
    cases ds with
    | nil => exact absurd h (by simp [fixed?])
    | cons c ds =>
      rw [List.forall_mem_cons] at hds
      rw [List.cons_append, fixed?, if_pos hds.1] at h
      exact ih hds.2 h

theorem mark?_eq_none {cs : List Char} (hcs : Unmarked cs) {c : Char} (hdigit : c.isDigit = false)
    (hline : c ≠ '\n') : mark? c cs = none := by
  cases cs with
  | nil => rfl
  | cons d cs =>
    refine if_neg ?_
    rintro rfl
    obtain h | h := hcs c rfl
    · rw [h] at hdigit
      exact absurd hdigit (by simp)
    · exact hline h

/-- Digits alone are no day and no time. -/
theorem moment?_digits (hds : ∀ c ∈ ds, c.isDigit = true) :
    moment? (ds ++ '\n' :: rest) = none := by
  have hdate : date? (ds ++ '\n' :: rest) = none := by
    unfold date?
    cases h : fixed? 4 0 (ds ++ '\n' :: rest) with
    | none => rfl
    | some year =>
      have hmark := mark?_eq_none (unmarked_of_fixed? hds h) (c := '-') (by decide) (by decide)
      simp [hmark]
  have htime : time? (ds ++ '\n' :: rest) = none := by
    unfold time? pair?
    cases h : fixed? 2 0 (ds ++ '\n' :: rest) with
    | none => rfl
    | some hour =>
      have hmark := mark?_eq_none (unmarked_of_fixed? hds h) (c := ':') (by decide) (by decide)
      simp only [Option.bind_eq_bind, Option.bind_some]
      split <;> simp [hmark]
  unfold moment?
  rw [hdate, htime]
  rfl

/-- Digits that begin with a zero only if there is no other, up to the end of the
line. -/
structure Decimal (ds : List Char) : Prop where
  all : ∀ c ∈ ds, c.isDigit = true
  nonempty : ds ≠ []
  zero : ds.head? = some '0' → ds = ['0']

theorem Decimal.exists_cons (h : Decimal ds) : ∃ c cs, ds = c :: cs ∧ c.isDigit = true := by
  obtain ⟨c, cs, rfl⟩ := List.exists_cons_of_ne_nil h.nonempty
  exact ⟨c, cs, rfl, h.all c List.mem_cons_self⟩

theorem Decimal.decimalDigits?_eq (h : Decimal ds) :
    decimalDigits? (ds ++ '\n' :: rest) = some (ds, '\n' :: rest) := by
  obtain ⟨c, cs, rfl, hc⟩ := h.exists_cons
  by_cases hzero : c = '0'
  · subst hzero
    obtain rfl : cs = [] := (List.cons.inj (h.zero rfl)).2
    rfl
  · rw [List.cons_append, decimalDigits?.eq_2 _ (fun _ h => hzero (List.cons.inj h).1), digits,
      if_pos hc, more_digits fun d hd => h.all d (List.mem_cons_of_mem c hd)]
    rfl

theorem Decimal.sign_eq (h : Decimal ds) :
    sign (ds ++ '\n' :: rest) = (false, ds ++ '\n' :: rest) := by
  obtain ⟨c, cs, rfl, hc⟩ := h.exists_cons
  exact sign.eq_3 _ (fun _ h => ne_of_kind hc (by decide) (List.cons.inj h).1)
    fun _ h => ne_of_kind hc (by decide) (List.cons.inj h).1

/-- Digits alone have no fraction and no exponent. -/
theorem Decimal.real?_eq (h : Decimal ds) : real? (ds ++ '\n' :: rest) = none := by
  unfold real?
  rw [h.sign_eq]
  simp only [h.decimalDigits?_eq]
  rfl

/-- They are no word. -/
theorem Decimal.word?_eq (h : Decimal ds) : word? (ds ++ '\n' :: rest) = none := by
  obtain ⟨c, cs, rfl, hc⟩ := h.exists_cons
  have hword : ∀ w : String, w.toList.head?.any (fun d => !d.isDigit) = true →
      Json.word? w.toList (c :: cs ++ '\n' :: rest) = none := by
    intro w hw
    obtain ⟨d, hd, hdigit⟩ := (Option.any_eq_true _ _).1 hw
    obtain ⟨ds, hds⟩ := List.head?_eq_some_iff.1 hd
    rw [hds]
    exact if_neg fun h => ne_of_kind hc (by simpa using hdigit) h.symm
  unfold word?
  simp only [hword "true" rfl, hword "false" rfl, hword "inf" rfl, hword "nan" rfl,
    hword "+inf" rfl, hword "-inf" rfl, hword "+nan" rfl, hword "-nan" rfl, Option.map_none,
    Option.or_none]

theorem Decimal.integer?_eq (h : Decimal ds) (hbound : valueOf 10 ds < 0x8000000000000000) :
    integer? (ds ++ '\n' :: rest) = some (.integer (valueOf 10 ds), '\n' :: rest) := by
  have hnotRadix : ∀ {c : Char}, c ≠ '\n' → ∀ rest', ds ++ '\n' :: rest ≠ '0' :: c :: rest' := by
    intro c hc rest' heq
    have hzero : ds = ['0'] := by
      obtain ⟨d, cs, rfl, -⟩ := h.exists_cons
      exact h.zero (congrArg some (List.cons.inj heq).1)
    rw [hzero] at heq
    exact hc (List.cons.inj (List.cons.inj heq).2).1.symm
  have hof : integerOf? false (valueOf 10 ds) = some (.integer (valueOf 10 ds)) := if_pos hbound
  rw [integer?.eq_4 _ (hnotRadix (by decide)) (hnotRadix (by decide)) (hnotRadix (by decide)),
    h.sign_eq]
  simp only [h.decimalDigits?_eq, Option.bind_eq_bind, Option.bind_some, hof]
  rfl

/-- **A whole number is read.** -/
theorem Decimal.value?_eq (h : Decimal ds) (hbound : valueOf 10 ds < 0x8000000000000000)
    (fuel depth : Nat) :
    value? (fuel + 1) depth (ds ++ '\n' :: rest)
      = some (.integer (valueOf 10 ds), '\n' :: rest) := by
  obtain ⟨c, cs, hcons, hc⟩ := h.exists_cons
  have hne : ∀ {d : Char}, d.isDigit = false → ∀ rest', ds ++ '\n' :: rest ≠ d :: rest' := by
    intro d hd rest' heq
    rw [hcons] at heq
    exact ne_of_kind hc hd (List.cons.inj heq).1
  rw [value?.eq_6 _ _ _ (hne (by decide)) (hne (by decide)) (hne (by decide)) (hne (by decide)),
    h.word?_eq, Option.none_or]
  unfold number?
  rw [moment?_digits h.all]
  simp only [h.real?_eq]
  exact h.integer?_eq hbound

/-- The digits of a number begin with a zero only if it is zero. -/
theorem head?_toDigits {n : Nat} (hn : n ≠ 0) : (Nat.toDigits 10 n).head? ≠ some '0' := by
  have hdigit : ∀ n < 10, n ≠ 0 → Nat.digitChar n ≠ '0' := by decide
  induction n using Nat.strongRecOn with
  | _ n ih =>
    rw [Nat.toDigits_eq_if (by decide)]
    split_ifs with hlt
    · simpa using hdigit n hlt hn
    · have hnext := ih (n / 10) (Nat.div_lt_self (Nat.pos_of_ne_zero hn) (by decide)) (by omega)
      obtain ⟨c, cs, hcons⟩ := List.exists_cons_of_ne_nil (@Nat.toDigits_ne_nil (n / 10) 10)
      rw [hcons] at hnext ⊢
      exact hnext

theorem decimal_toDigits (n : Nat) : Decimal (Nat.toDigits 10 n) where
  all _ hc := Nat.isDigit_of_mem_toDigits (by decide) (by decide) hc
  nonempty := Nat.toDigits_ne_nil
  zero h := by
    by_cases hn : n = 0
    · subst hn
      rfl
    · exact absurd h (head?_toDigits hn)

theorem hexDigit?_of_isDigit {c : Char} (hc : c.isDigit = true) :
    Json.hexDigit? c = some (c.toNat - '0'.toNat) := by
  refine if_pos ?_
  simpa [Char.isDigit, Char.le_def] using hc

theorem valueOf_toDigits (n : Nat) : valueOf 10 (Nat.toDigits 10 n) = n := by
  have hvalue : ∀ (ds : List Char) (m : Nat), (∀ c ∈ ds, c.isDigit = true) →
      ds.foldl (fun n c => 10 * n + (Json.hexDigit? c).getD 0) m = Nat.ofDigitChars 10 ds m := by
    intro ds m hds
    rw [Nat.ofDigitChars_eq_foldl]
    induction ds generalizing m with
    | nil => rfl
    | cons c ds ih =>
      rw [List.forall_mem_cons] at hds
      rw [List.foldl_cons, List.foldl_cons, hexDigit?_of_isDigit hds.1]
      exact ih _ hds.2
  exact (hvalue _ 0 (decimal_toDigits n).all).trans Nat.ofDigitChars_ten_toDigits

/-- **A whole number of 63 bits is written by its digits.** -/
theorem written_number {n : Nat} (hn : n < 0x8000000000000000) :
    Written (toString n).toList (.integer n) := by
  have hdigits := decimal_toDigits n
  have hvalue := valueOf_toDigits n
  rw [Nat.toString_eq_ofList_toDigits, String.toList_ofList]
  refine ⟨?_, fun fuel hfuel rest => ?_⟩
  · obtain ⟨c, cs, hcons, hc⟩ := hdigits.exists_cons
    have hblank : ¬ (c = ' ' ∨ c = '\t') := by
      rintro (rfl | rfl) <;> exact absurd hc (by decide)
    exact ⟨c, cs, hcons, by simpa [isBlank] using hblank⟩
  · obtain ⟨fuel, rfl⟩ : ∃ k, fuel = k + 1 := ⟨fuel - 1, by omega⟩
    have hread := @Decimal.value?_eq _ rest hdigits (hvalue.symm ▸ hn) fuel 0
    rwa [hvalue] at hread

end Numbers

/-! ## Truth values and texts -/

theorem written_bool (b : Bool) : Written (if b then "true" else "false").toList (.bool b) := by
  refine ⟨?_, fun fuel hfuel rest => ?_⟩
  · cases b with
    | true => exact ⟨'t', "rue".toList, rfl, rfl⟩
    | false => exact ⟨'f', "alse".toList, rfl, rfl⟩
  · obtain ⟨fuel, rfl⟩ : ∃ k, fuel = k + 1 := ⟨fuel - 1, by omega⟩
    cases b <;> rfl

/-- A text begins with a quote, or it would not be read back. -/
theorem head_renderText (s : String) :
    ∃ c cs, (renderText s).toList = c :: cs ∧ (c = '"' ∨ c = '\'') := by
  have hread : text? ((renderText s).toList ++ ['\n']) = some (s, ['\n']) :=
    text?_renderText s (by decide) (by decide)
  cases hcs : (renderText s).toList with
  | nil =>
    rw [hcs] at hread
    exact absurd hread (by simp [text?, lineText?])
  | cons c cs =>
    refine ⟨c, cs, rfl, Decidable.byContradiction fun hc => ?_⟩
    obtain ⟨hdouble, hsingle⟩ := not_or.1 hc
    rw [hcs, List.cons_append, text?.eq_3 _ (fun _ h => hdouble (List.cons.inj h).1)
      (fun _ h => hsingle (List.cons.inj h).1), lineText?.eq_3 _
      (fun _ h => hdouble (List.cons.inj h).1) (fun _ h => hsingle (List.cons.inj h).1)] at hread
    exact absurd hread (by simp)

theorem value?_renderText (s : String) (fuel depth : Nat) {rest : List Char}
    (hdouble : rest.head? ≠ some '"') (hsingle : rest.head? ≠ some '\'') :
    value? (fuel + 1) depth ((renderText s).toList ++ rest) = some (.text s, rest) := by
  have htext := text?_renderText s hdouble hsingle
  obtain ⟨c, cs, hcons, rfl | rfl⟩ := head_renderText s
  · rw [hcons, List.cons_append] at htext ⊢
    rw [value?, htext]
    rfl
  · rw [hcons, List.cons_append] at htext ⊢
    rw [value?, htext]
    rfl

theorem written_text (s : String) : Written (renderText s).toList (.text s) := by
  refine ⟨?_, fun fuel hfuel rest => ?_⟩
  · obtain ⟨c, cs, hcons, hc⟩ := head_renderText s
    refine ⟨c, cs, hcons, ?_⟩
    obtain rfl | rfl := hc <;> rfl
  · obtain ⟨fuel, rfl⟩ : ∃ k, fuel = k + 1 := ⟨fuel - 1, by omega⟩
    exact value?_renderText s fuel 0 (by simp) (by simp)

/-! ## Lists of texts -/

/-- Blanks are passed over up to something that is neither a blank nor a comment nor
ends the line. -/
theorem skipLines_blanks {c : Char} (hblank : isBlank c = false) (hcomment : c ≠ '#')
    (hn : c ≠ '\n') (hr : c ≠ '\r') {blanks : List Char}
    (hblanks : ∀ b ∈ blanks, isBlank b = true) (fuel : Nat) (rest : List Char) :
    skipLines (fuel + 1) (blanks ++ c :: rest) = c :: rest := by
  have hskip : skip (blanks ++ c :: rest) = c :: rest := by
    unfold skip
    rw [List.dropWhile_append_of_pos hblanks, List.dropWhile_cons_of_neg (by simp [hblank])]
  have hkept : skipComment (c :: rest) = c :: rest :=
    skipComment.eq_2 _ fun _ h => hcomment (List.cons.inj h).1
  have hline : newline? (c :: rest) = none :=
    newline?.eq_3 _ (fun _ h => hn (List.cons.inj h).1) fun _ h => hr (List.cons.inj h).1
  rw [skipLines, hskip, hkept]
  simp only [hline]

/-- An empty line is passed over. -/
theorem skipLines_newline (fuel : Nat) (rest : List Char) :
    skipLines (fuel + 1) ('\n' :: rest) = skipLines fuel rest := rfl

/-- A text is not passed over. -/
theorem skipLines_text (s : String) {blanks : List Char} (hblanks : ∀ b ∈ blanks, isBlank b = true)
    (fuel : Nat) (left : List Char) :
    skipLines (fuel + 1) (blanks ++ ((renderText s).toList ++ left))
      = (renderText s).toList ++ left := by
  obtain ⟨c, cs, hcons, hc⟩ := head_renderText s
  have hquote : isBlank c = false ∧ c ≠ '#' ∧ c ≠ '\n' ∧ c ≠ '\r' := by
    obtain rfl | rfl := hc <;> decide
  obtain ⟨hblank, hcomment, hn, hr⟩ := hquote
  rw [hcons]
  exact skipLines_blanks hblank hcomment hn hr hblanks fuel _

/-- What follows a text decides how a list of texts goes on. -/
theorem items?_text (s : String) {cs left : List Char}
    (hskip : skipLines (cs.length + 1) cs = (renderText s).toList ++ left)
    (hdouble : left.head? ≠ some '"') (hsingle : left.head? ≠ some '\'') (fuel depth : Nat)
    (acc : List Data) :
    items? (fuel + 2) depth acc cs
      = match skipLines (left.length + 1) left with
        | ',' :: rest => items? (fuel + 1) depth (.text s :: acc) rest
        | ']' :: rest => some (.list (.text s :: acc).reverse, rest)
        | _ => none := by
  have hvalue := value?_renderText s fuel depth hdouble hsingle
  obtain ⟨c, cs, hcons, hc⟩ := head_renderText s
  rw [items?, hskip]
  rw [hcons, List.cons_append] at hvalue ⊢
  split
  next heq =>
    rw [(List.cons.inj heq).1] at hc
    exact absurd hc (by decide)
  next =>
    rw [hvalue]
    rfl

/-- An item of a list on a line of its own. -/
def itemLine (s : String) : List Char := '\n' :: ("    ".toList ++ ((renderText s).toList ++ [',']))

/-- **The items of a list are read back**, each from its line. -/
theorem items?_lines (ss : List String) {fuel : Nat} (hfuel : ss.length < fuel) (depth : Nat)
    (acc : List Data) (rest : List Char) :
    items? fuel depth acc (ss.flatMap itemLine ++ '\n' :: ']' :: rest)
      = some (.list (acc.reverse ++ ss.map .text), rest) := by
  induction ss generalizing fuel acc with
  | nil =>
    obtain ⟨fuel, rfl⟩ : ∃ k, fuel = k + 1 := ⟨fuel - 1, by omega⟩
    rw [List.flatMap_nil, List.nil_append, items?]
    simp [skipLines, skip, skipComment, newline?, isBlank]
  | cons s ss ih =>
    obtain ⟨fuel, rfl⟩ : ∃ k, fuel = k + 2 := ⟨fuel - 2, by simp at hfuel; omega⟩
    have hnext := @ih (fuel + 1) (by simpa using hfuel) (.text s :: acc)
    generalize hmore : ss.flatMap itemLine ++ '\n' :: ']' :: rest = more at hnext
    have hline : (s :: ss).flatMap itemLine ++ '\n' :: ']' :: rest
        = '\n' :: ("    ".toList ++ ((renderText s).toList ++ ',' :: more)) := by
      simp [itemLine, ← hmore]
    have hindent : ∀ b ∈ "    ".toList, isBlank b = true := List.all_eq_true.1 rfl
    have hskip : skipLines (((s :: ss).flatMap itemLine ++ '\n' :: ']' :: rest).length + 1)
        ((s :: ss).flatMap itemLine ++ '\n' :: ']' :: rest)
          = (renderText s).toList ++ ',' :: more := by
      rw [hline, List.length_cons, skipLines_newline]
      exact skipLines_text s hindent _ _
    have hcomma : skipLines ((',' :: more).length + 1) (',' :: more) = ',' :: more := rfl
    rw [items?_text s hskip (by simp) (by simp), hcomma]
    exact hnext.trans (by simp)

theorem length_le_flatMap_itemLine (ss : List String) :
    ss.length ≤ (ss.flatMap itemLine).length := by
  induction ss with
  | nil => exact Nat.le_refl _
  | cons s ss ih =>
    rw [List.flatMap_cons, List.length_append, itemLine, List.length_cons, List.length_cons]
    omega

/-- A list of several items has each on a line. -/
theorem toList_renderTexts_lines (s t : String) (ss : List String) :
    (renderTexts (s :: t :: ss)).toList
      = '[' :: ((s :: t :: ss).flatMap itemLine ++ ['\n', ']']) := by
  have hshift : ∀ ss : List String,
      '\n' :: ss.flatMap (fun s => "    ".toList ++ (renderText s).toList ++ [',', '\n'])
        = ss.flatMap itemLine ++ ['\n'] := by
    intro ss
    induction ss with
    | nil => rfl
    | cons s ss ih => simp [itemLine, ← ih]
  have hjoin := hshift (s :: t :: ss)
  simpa [renderTexts, String.toList_join, List.flatMap_map] using
    congrArg (fun l => '[' :: (l ++ [']'])) hjoin

/-- **A list of texts is written so**, also without items and with one. -/
theorem written_texts (ss : List String) :
    Written (renderTexts ss).toList (.list (ss.map .text)) := by
  suffices hopen : ∃ cs, (renderTexts ss).toList = '[' :: cs ∧ ∀ fuel, cs.length < fuel → ∀ rest,
      items? fuel 1 [] (cs ++ '\n' :: rest) = some (.list (ss.map .text), '\n' :: rest) by
    obtain ⟨cs, hcs, hitems⟩ := hopen
    refine ⟨⟨'[', cs, hcs, rfl⟩, fun fuel hfuel rest => ?_⟩
    rw [hcs] at hfuel ⊢
    obtain ⟨fuel, rfl⟩ : ∃ k, fuel = k + 1 := ⟨fuel - 1, by omega⟩
    rw [List.cons_append, value?, if_pos (by decide)]
    exact hitems fuel (by simpa using hfuel) rest
  match ss with
  | [] =>
    refine ⟨[']'], rfl, fun fuel hfuel rest => ?_⟩
    obtain ⟨fuel, rfl⟩ : ∃ k, fuel = k + 1 := ⟨fuel - 1, by omega⟩
    rfl
  | [s] =>
    refine ⟨(renderText s).toList ++ [']'], by simp [renderTexts], fun fuel hfuel rest => ?_⟩
    obtain ⟨c, cs, hcons, -⟩ := head_renderText s
    obtain ⟨fuel, rfl⟩ : ∃ k, fuel = k + 2 := ⟨fuel - 2, by simp [hcons] at hfuel; omega⟩
    have hclose : skipLines ((']' :: '\n' :: rest).length + 1) (']' :: '\n' :: rest)
        = ']' :: '\n' :: rest := rfl
    have hskip : skipLines (((renderText s).toList ++ ']' :: '\n' :: rest).length + 1)
        ((renderText s).toList ++ ']' :: '\n' :: rest)
          = (renderText s).toList ++ ']' :: '\n' :: rest :=
      @skipLines_text s [] (by simp) _ _
    rw [List.append_assoc, List.singleton_append, items?_text s hskip (by simp) (by simp), hclose]
    rfl
  | s :: t :: ss =>
    refine ⟨_, toList_renderTexts_lines s t ss, fun fuel hfuel rest => ?_⟩
    have hlength := length_le_flatMap_itemLine (s :: t :: ss)
    rw [List.length_append] at hfuel
    rw [List.append_assoc]
    exact items?_lines (s :: t :: ss) (Nat.lt_of_le_of_lt hlength (by omega)) 1 [] ('\n' :: rest)

end PcdCatalog.Toml

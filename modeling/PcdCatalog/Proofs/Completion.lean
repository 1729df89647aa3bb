import PcdCatalog.Proofs.Answerable

/-!
# Completions are exact

What is being typed in a text is its leftmost `Pcd` together with all the word
characters that directly follow it (`Text.Typed`), and the completions are the
indexed symbols that have it at their beginning, or anywhere. Neither is how the
answer is found: the search tries one place after the other, and the candidates
are filtered one by one, out of a list that was in order before.

`Text.findName_eq_some_iff` says what the search finds by the occurrences of `Pcd`
alone, and `CompletionMode.accepts_iff` what the filter keeps. Since completions
are a part of one and the same list of symbols, whatever text is asked for, a
weaker condition can only let more of them through; both laws about narrowing
are read off that (`Index.completions_sublist`).
-/

namespace PcdCatalog

/-! ## What is being typed -/

namespace Text

/-- What every PCD name begins with. -/
def pcd : List Char := ['P', 'c', 'd']

/-- **What is being typed in a text**: the leftmost `Pcd`, and all word characters
that directly follow it. -/
def Typed (text typed : List Char) : Prop :=
  ∃ before rest, text = before ++ (pcd ++ rest) ∧ typed = pcd ++ rest.takeWhile isWordChar
    ∧ ∀ earlier later, text = earlier ++ (pcd ++ later) → before.length ≤ earlier.length

theorem afterPcd_eq_some_iff {text rest : List Char} :
    afterPcd text = some rest ↔ text = pcd ++ rest := by
  unfold afterPcd
  split
  next rest' =>
    show some rest' = some rest ↔ 'P' :: 'c' :: 'd' :: rest' = 'P' :: 'c' :: 'd' :: rest
    simp
  next hno =>
    refine ⟨fun h => absurd h (by simp), fun h => absurd h (hno rest)⟩

/-- The name at the head of a text is there if `Pcd` is, with word characters
enough behind it. -/
theorem nameAtHead_eq_some_iff {least : Nat} {text name : List Char} :
    nameAtHead least text = some name
      ↔ ∃ rest, text = pcd ++ rest ∧ name = pcd ++ rest.takeWhile isWordChar
        ∧ least ≤ (rest.takeWhile isWordChar).length := by
  unfold nameAtHead
  rw [Option.bind_eq_some_iff]
  constructor
  · rintro ⟨rest, hrest, hname⟩
    dsimp only at hname
    split at hname
    next hleast =>
      exact ⟨rest, afterPcd_eq_some_iff.1 hrest, (Option.some.inj hname).symm, hleast⟩
    next => exact absurd hname (by simp)
  · rintro ⟨rest, htext, rfl, hleast⟩
    exact ⟨rest, afterPcd_eq_some_iff.2 htext, if_pos hleast⟩

/-- **The search finds the leftmost name** that has word characters enough behind
its `Pcd`. -/
theorem findName_eq_some_iff {least : Nat} {text name : List Char} :
    findName least text = some name
      ↔ ∃ before rest, text = before ++ (pcd ++ rest) ∧ name = pcd ++ rest.takeWhile isWordChar
        ∧ least ≤ (rest.takeWhile isWordChar).length
        ∧ ∀ earlier later, text = earlier ++ (pcd ++ later) →
            least ≤ (later.takeWhile isWordChar).length → before.length ≤ earlier.length := by
  induction text with
  | nil =>
    refine ⟨fun h => absurd h (by simp [findName]), ?_⟩
    rintro ⟨before, rest, htext, -⟩
    simp [pcd] at htext
  | cons c text ih =>
    rw [findName]
    cases hhead : nameAtHead least (c :: text) with
    | some found =>
      obtain ⟨rest, htext, rfl, hleast⟩ := nameAtHead_eq_some_iff.1 hhead
      rw [Option.some_or, Option.some.injEq]
      constructor
      · rintro rfl
        exact ⟨[], rest, htext, rfl, hleast, fun _ _ _ _ => Nat.zero_le _⟩
      · rintro ⟨before, rest', htext', rfl, -, hfirst⟩
        -- nothing stands to the left of the head
        obtain rfl := List.eq_nil_of_length_eq_zero (Nat.le_zero.1 (hfirst [] rest htext hleast))
        rw [List.append_cancel_left (htext.symm.trans htext')]
    | none =>
      have hno : ∀ rest, c :: text = pcd ++ rest →
          ¬ least ≤ (rest.takeWhile isWordChar).length := by
        intro rest htext hleast
        rw [nameAtHead_eq_some_iff.2 ⟨rest, htext, rfl, hleast⟩] at hhead
        exact absurd hhead (by simp)
      rw [Option.none_or, ih]
      constructor
      · rintro ⟨before, rest, rfl, rfl, hleast, hfirst⟩
        refine ⟨c :: before, rest, rfl, rfl, hleast, fun earlier later htext hlater => ?_⟩
        cases earlier with
        | nil => exact absurd hlater (hno later htext)
        | cons d earlier =>
          exact Nat.succ_le_succ (hfirst earlier later (List.cons.inj htext).2 hlater)
      · rintro ⟨before, rest, htext, rfl, hleast, hfirst⟩
        cases before with
        | nil => exact absurd hleast (hno rest htext)
        | cons d before =>
          obtain ⟨rfl, rfl⟩ := List.cons.inj htext
          refine ⟨before, rest, rfl, rfl, hleast, fun earlier later htext hlater => ?_⟩
          exact Nat.le_of_succ_le_succ (hfirst (c :: earlier) later (congrArg _ htext) hlater)

/-- It finds nothing only where there is no such name. -/
theorem findName_eq_none_iff {least : Nat} {text : List Char} :
    findName least text = none
      ↔ ∀ before rest, text = before ++ (pcd ++ rest) →
          ¬ least ≤ (rest.takeWhile isWordChar).length := by
  induction text with
  | nil =>
    refine ⟨fun _ before rest htext => ?_, fun _ => rfl⟩
    simp [pcd] at htext
  | cons c text ih =>
    rw [findName, Option.or_eq_none_iff, ih]
    constructor
    · rintro ⟨hhead, htail⟩ before rest htext hleast
      cases before with
      | nil =>
        rw [nameAtHead_eq_some_iff.2 ⟨rest, htext, rfl, hleast⟩] at hhead
        exact absurd hhead (by simp)
      | cons d before => exact htail before rest (List.cons.inj htext).2 hleast
    · intro hnone
      refine ⟨?_, fun before rest htext => hnone (c :: before) rest (congrArg _ htext)⟩
      rw [Option.eq_none_iff_forall_ne_some]
      intro name hname
      obtain ⟨rest, htext, -, hleast⟩ := nameAtHead_eq_some_iff.1 hname
      exact hnone [] rest htext hleast

/-- **The completion name of a text is what is being typed in it.** -/
theorem completionName_eq_some_iff {text typed : List Char} :
    completionName text = some typed ↔ Typed text typed := by
  unfold completionName Typed
  rw [findName_eq_some_iff]
  simp only [Nat.zero_le, true_and, true_implies]

/-- Nothing is being typed only where there is no `Pcd`. -/
theorem completionName_eq_none_iff {text : List Char} :
    completionName text = none ↔ ¬ pcd <:+: text := by
  unfold completionName
  rw [findName_eq_none_iff]
  constructor
  · rintro hnone ⟨before, rest, htext⟩
    rw [List.append_assoc] at htext
    exact hnone before rest htext.symm (Nat.zero_le _)
  · intro hno before rest htext
    exact absurd ⟨before, rest, by rw [htext, List.append_assoc]⟩ hno

end Text

/-! ## What completes it -/

namespace CompletionMode

/-- **What a mode asks of a candidate**: to begin with what was typed, or to have
it somewhere. -/
def Completes (typed candidate : List Char) : CompletionMode → Prop
  | leading => typed <+: candidate
  | anywhere => typed <:+: candidate

theorem occurs_iff {typed candidate : List Char} :
    occurs typed candidate = true ↔ typed <:+: candidate := by
  induction candidate with
  | nil => rw [occurs, List.isEmpty_iff, List.infix_nil]
  | cons c rest ih =>
    rw [occurs, Bool.or_eq_true, List.isPrefixOf_iff_prefix, ih, List.infix_cons_iff]

/-- The filter keeps what its mode asks for. -/
theorem accepts_iff (m : CompletionMode) {typed candidate : List Char} :
    m.accepts typed candidate = true ↔ m.Completes typed candidate := by
  cases m with
  | leading => exact List.isPrefixOf_iff_prefix
  | anywhere => exact occurs_iff

/-- What completes a name completes every beginning of it. -/
theorem Completes.of_begins {m : CompletionMode} {typed more candidate : List Char}
    (h : m.Completes more candidate) (hbegins : typed <+: more) : m.Completes typed candidate := by
  cases m with
  | leading => exact hbegins.trans h
  | anywhere => exact hbegins.isInfix.trans h

/-- What begins with a name has it somewhere. -/
theorem Completes.anywhere {typed candidate : List Char} (h : leading.Completes typed candidate) :
    CompletionMode.anywhere.Completes typed candidate :=
  List.IsPrefix.isInfix h

end CompletionMode

namespace Index

/-- **The completions of what is being typed** are the symbols that complete it. -/
theorem completions_of_typed (i : Index) {text : String} {typed : List Char}
    (h : Text.Typed text.toList typed) (mode : CompletionMode) :
    i.completions text mode = i.symbols.filter fun s => mode.accepts typed s.toList := by
  unfold completions
  rw [Text.completionName_eq_some_iff.2 h]

theorem completions_of_no_pcd (i : Index) {text : String} (h : ¬ Text.pcd <:+: text.toList)
    (mode : CompletionMode) : i.completions text mode = [] := by
  unfold completions
  rw [Text.completionName_eq_none_iff.2 h]

/-- Whatever is asked, completions are a part of the symbols, in their order. -/
theorem completions_sublist_symbols (i : Index) (text : String) (mode : CompletionMode) :
    (i.completions text mode).Sublist i.symbols := by
  unfold completions
  split
  · exact List.nil_sublist _
  · exact List.filter_sublist

/-- **A weaker question has more answers**, and the others among them in their
order. -/
theorem completions_sublist (i : Index) {text text' : String} {typed typed' : List Char}
    {mode mode' : CompletionMode} (h : Text.Typed text.toList typed)
    (h' : Text.Typed text'.toList typed')
    (hweaker : ∀ s : List Char, mode'.Completes typed' s → mode.Completes typed s) :
    (i.completions text' mode').Sublist (i.completions text mode) := by
  rw [i.completions_of_typed h, i.completions_of_typed h']
  refine List.monotone_filter_right i.symbols fun s hs => ?_
  exact mode.accepts_iff.2 (hweaker s.toList (mode'.accepts_iff.1 hs))

theorem mem_symbols {i : Index} {s : String} : s ∈ i.symbols ↔ ∃ span, i.get? s = some span :=
  Table.mem_keys

theorem mem_completions {i : Index} {text s : String} {mode : CompletionMode} :
    s ∈ i.completions text mode
      ↔ ∃ typed, Text.Typed text.toList typed ∧ (∃ span, i.get? s = some span)
        ∧ mode.Completes typed s.toList := by
  constructor
  · intro hs
    cases hname : Text.completionName text.toList with
    | none =>
      rw [i.completions_of_no_pcd (Text.completionName_eq_none_iff.1 hname)] at hs
      exact absurd hs List.not_mem_nil
    | some typed =>
      have htyped := Text.completionName_eq_some_iff.1 hname
      rw [i.completions_of_typed htyped, List.mem_filter, mem_symbols, mode.accepts_iff] at hs
      exact ⟨typed, htyped, hs⟩
  · rintro ⟨typed, htyped, hs⟩
    rw [i.completions_of_typed htyped, List.mem_filter, mem_symbols, mode.accepts_iff]
    exact hs

/-- **Completions are exact, in order, and narrow down.** They ascend strictly by
their code points, and are the indexed symbols that have what is being typed at
their beginning or, in the other mode, anywhere. What is being typed is the name
that the search finds; it finds one wherever there is a `Pcd`, and without one
there is no completion. So the answers in the first mode are among those in the
second, and typing on leaves some of the answers. -/
theorem completions_exact (i : Index) (text : String) (mode : CompletionMode) :
    (i.completions text mode).Pairwise (· < ·)
    ∧ (∀ s, s ∈ i.completions text mode
        ↔ ∃ typed, Text.Typed text.toList typed ∧ (∃ span, i.get? s = some span)
          ∧ mode.Completes typed s.toList)
    ∧ (∀ typed, Text.completionName text.toList = some typed ↔ Text.Typed text.toList typed)
    ∧ (Text.completionName text.toList = none ↔ ¬ Text.pcd <:+: text.toList)
    ∧ (¬ Text.pcd <:+: text.toList → i.completions text mode = [])
    ∧ (i.completions text .leading).Sublist (i.completions text .anywhere)
    ∧ ∀ (longer : String) (typed more : List Char), Text.Typed text.toList typed →
        Text.Typed longer.toList more → typed <+: more →
        (i.completions longer mode).Sublist (i.completions text mode) := by
  refine ⟨i.pairwise_symbols.sublist (i.completions_sublist_symbols text mode),
    fun s => mem_completions, fun typed => Text.completionName_eq_some_iff,
    Text.completionName_eq_none_iff, fun hno => i.completions_of_no_pcd hno mode, ?_, ?_⟩
  · cases hname : Text.completionName text.toList with
    | none =>
      rw [i.completions_of_no_pcd (Text.completionName_eq_none_iff.1 hname)]
      exact List.nil_sublist _
    | some typed =>
      have htyped := Text.completionName_eq_some_iff.1 hname
      exact i.completions_sublist htyped htyped fun s hs => hs.anywhere
  · intro longer typed more htyped hmore hbegins
    exact i.completions_sublist htyped hmore fun s hs => hs.of_begins hbegins

/-- Two symbols, of which one begins with what the other has at its end. -/
def bases : Index :=
  ((empty ordinaryLimit).merge ⟨"a.dec"⟩
    (Table.ofList [("PcdUsePcdBase", default), ("PcdBaseAddress", default)])).1

/-- Behind an opening bracket a name is typed on. -/
theorem completions_exact_bases :
    Text.Typed "get(PcdBase)".toList "PcdBase".toList
      ∧ Text.Typed "get(PcdBaseA".toList "PcdBaseA".toList
      ∧ "PcdBase".toList <+: "PcdBaseA".toList
      ∧ "PcdUsePcdBase" ∈ bases.completions "get(PcdBase)" .anywhere
      ∧ "PcdUsePcdBase" ∉ bases.completions "get(PcdBase)" .leading
      ∧ (bases.completions "get(PcdBaseA" .anywhere).Sublist
          (bases.completions "get(PcdBase)" .anywhere)
      ∧ ¬ Text.pcd <:+: "get(pcdBase)".toList
      ∧ bases.completions "get(pcdBase)" .anywhere = [] := by
  obtain ⟨-, hmem, htyped, -, -, -, hnarrow⟩ := completions_exact bases "get(PcdBase)" .anywhere
  obtain ⟨-, hlead, -⟩ := completions_exact bases "get(PcdBase)" .leading
  obtain ⟨-, -, hmore, -⟩ := completions_exact bases "get(PcdBaseA" .anywhere
  obtain ⟨-, -, -, hnone, hno, -⟩ := completions_exact bases "get(pcdBase)" .anywhere
  have htyped' : Text.Typed "get(PcdBase)".toList "PcdBase".toList := (htyped _).1 (by decide)
  have hmore' : Text.Typed "get(PcdBaseA".toList "PcdBaseA".toList := (hmore _).1 (by decide)
  have hbegins : "PcdBase".toList <+: "PcdBaseA".toList := by decide
  have hno' : ¬ Text.pcd <:+: "get(pcdBase)".toList := hnone.1 (by decide)
  have hspan : ∃ span, bases.get? "PcdUsePcdBase" = some span := ⟨default, by decide +kernel⟩
  have hinside : CompletionMode.anywhere.Completes "PcdBase".toList "PcdUsePcdBase".toList :=
    ⟨"PcdUse".toList, [], by decide⟩
  refine ⟨htyped', hmore', hbegins, (hmem _).2 ⟨_, htyped', hspan, hinside⟩, fun hmem' => ?_,
    hnarrow _ _ _ htyped' hmore' hbegins, hno', hno hno'⟩
  obtain ⟨typed, ht, -, hcompletes⟩ := (hlead _).1 hmem'
  have heq : some typed = some "PcdBase".toList := ((htyped _).2 ht).symm.trans (by decide)
  rw [Option.some.inj heq] at hcompletes
  exact absurd hcompletes (by unfold CompletionMode.Completes; decide)

end Index

end PcdCatalog

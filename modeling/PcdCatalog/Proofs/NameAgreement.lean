import PcdCatalog.Proofs.Completion

/-!
# What is found is also offered

Two searches look at the same text and ask for different things. A name to be
resolved needs a word character behind its `Pcd`, a name being typed needs none,
so the second search may stop at a bare `Pcd` to the left of the name that the
first one finds. `Text.Named` says what the first search finds, as `Text.Typed`
does for the second.

Both are about occurrences of `Pcd`, and the leftmost of all occurrences is either
followed by a word character or bare. In the first case both searches stop there
and find the same name; in the second what is being typed is just `Pcd`, with which
every name begins (`Text.Named.typed`). So a symbol that a text names completes
what is being typed in it, in either mode.
-/

namespace PcdCatalog

namespace Text

/-- **What is named in a text**: the leftmost `Pcd` that a word character directly
follows, and all word characters that do. -/
def Named (text name : List Char) : Prop :=
  ∃ before c rest, text = before ++ (pcd ++ c :: rest) ∧ isWordChar c = true
    ∧ name = pcd ++ (c :: rest).takeWhile isWordChar
    ∧ ∀ earlier d later, text = earlier ++ (pcd ++ d :: later) → isWordChar d = true →
        before.length ≤ earlier.length

/-- There is a word character to take if the first one is. -/
theorem one_le_length_takeWhile {rest : List Char} :
    1 ≤ (rest.takeWhile isWordChar).length
      ↔ ∃ c after, rest = c :: after ∧ isWordChar c = true := by
  cases rest with
  | nil => simp
  | cons c after => by_cases hc : isWordChar c = true <;> simp [hc]

/-- **The definition name of a text is what is named in it.** -/
theorem definitionName_eq_some_iff {text name : List Char} :
    definitionName text = some name ↔ Named text name := by
  unfold definitionName
  rw [findName_eq_some_iff]
  constructor
  · rintro ⟨before, rest, htext, rfl, hleast, hfirst⟩
    obtain ⟨c, after, rfl, hc⟩ := one_le_length_takeWhile.1 hleast
    refine ⟨before, c, after, htext, hc, rfl, fun earlier d later htext' hd => ?_⟩
    exact hfirst earlier (d :: later) htext' (one_le_length_takeWhile.2 ⟨d, later, rfl, hd⟩)
  · rintro ⟨before, c, after, htext, hc, rfl, hfirst⟩
    refine ⟨before, c :: after, htext, rfl, one_le_length_takeWhile.2 ⟨c, after, rfl, hc⟩, ?_⟩
    intro earlier later htext' hleast
    obtain ⟨d, later', rfl, hd⟩ := one_le_length_takeWhile.1 hleast
    exact hfirst earlier d later' htext' hd

/-- Nothing is named only where every `Pcd` is bare. -/
theorem definitionName_eq_none_iff {text : List Char} :
    definitionName text = none
      ↔ ∀ before c after, text = before ++ (pcd ++ c :: after) → isWordChar c = false := by
  unfold definitionName
  rw [findName_eq_none_iff]
  constructor
  · intro hnone before c after htext
    refine Bool.eq_false_iff.2 fun hc => ?_
    exact hnone before (c :: after) htext (one_le_length_takeWhile.2 ⟨c, after, rfl, hc⟩)
  · intro hbare before rest htext hleast
    obtain ⟨c, after, rfl, hc⟩ := one_le_length_takeWhile.1 hleast
    exact absurd hc (Bool.eq_false_iff.1 (hbare before c after htext))

/-- Every name begins with `Pcd`. -/
theorem Named.begins {text name : List Char} (h : Named text name) : pcd <+: name := by
  obtain ⟨_, c, rest, -, -, rfl, -⟩ := h
  exact ⟨(c :: rest).takeWhile isWordChar, rfl⟩

/-- **Where something is named, something is being typed**: the name itself, or a
bare `Pcd`. -/
theorem Named.typed {text name : List Char} (h : Named text name) :
    ∃ typed, Typed text typed ∧ (typed = name ∨ typed = pcd) := by
  obtain ⟨before, c, rest, htext, hc, rfl, hfirst⟩ := h
  have hsome : completionName text ≠ none := fun hnone =>
    completionName_eq_none_iff.1 hnone ⟨before, c :: rest, by rw [htext, List.append_assoc]⟩
  obtain ⟨typed, htyped⟩ := Option.ne_none_iff_exists'.1 hsome
  have htyped := completionName_eq_some_iff.1 htyped
  refine ⟨typed, htyped, ?_⟩
  obtain ⟨front, later, htext', rfl, hleast⟩ := htyped
  by_cases hbare : later.takeWhile isWordChar = []
  · right
    rw [hbare, List.append_nil]
  · -- The leftmost `Pcd` is followed by a word character: both searches stop there.
    left
    obtain ⟨d, after, rfl, hd⟩ :=
      one_le_length_takeWhile.1 (List.length_pos_iff.2 hbare)
    have hlength : front.length = before.length :=
      Nat.le_antisymm (hleast before (c :: rest) htext) (hfirst front d after htext' hd)
    obtain ⟨-, hrest⟩ := List.append_inj (htext'.symm.trans htext) hlength
    rw [List.append_cancel_left hrest]

/-- What is being typed begins what is named. -/
theorem Named.exists_completionName {text name : List Char} (h : Named text name) :
    ∃ typed, completionName text = some typed ∧ (typed = name ∨ typed = pcd) ∧ typed <+: name := by
  obtain ⟨typed, htyped, heq⟩ := h.typed
  refine ⟨typed, completionName_eq_some_iff.2 htyped, heq, ?_⟩
  rcases heq with rfl | rfl
  · exact List.prefix_rfl
  · exact h.begins

end Text

namespace Index

/-- A definition is the declaration of the symbol that is named. -/
theorem definition_eq_some_iff {i : Index} {text : String} {span : Span} :
    i.definition text = some span
      ↔ ∃ s, Text.definitionName text.toList = some s.toList ∧ i.get? s = some span := by
  unfold definition
  rw [Option.bind_eq_some_iff]
  constructor
  · rintro ⟨name, hname, hget⟩
    exact ⟨String.ofList name, by rw [hname, String.toList_ofList], hget⟩
  · rintro ⟨s, hname, hget⟩
    exact ⟨s.toList, hname, by rw [String.ofList_toList, hget]⟩

/-- **Definition and completion agree on a text.** The name to be resolved is the
leftmost `Pcd` that a word character follows, with all that do, and is missing only
where every `Pcd` is bare. Wherever there is one, something is being typed: the
same name or just `Pcd`, in any case its beginning. So the symbol whose declaration
is found is offered as a completion, in both modes. -/
theorem definition_offered (i : Index) (text : String) :
    (∀ name, Text.definitionName text.toList = some name ↔ Text.Named text.toList name)
    ∧ (∀ name, Text.definitionName text.toList = some name →
        ∃ typed, Text.completionName text.toList = some typed
          ∧ (typed = name ∨ typed = Text.pcd) ∧ typed <+: name)
    ∧ (Text.definitionName text.toList = none
        ↔ ∀ before c after, text.toList = before ++ (Text.pcd ++ c :: after) →
            Text.isWordChar c = false)
    ∧ (∀ span, i.definition text = some span
        ↔ ∃ s, Text.definitionName text.toList = some s.toList ∧ i.get? s = some span)
    ∧ ∀ s span, Text.definitionName text.toList = some s.toList → i.get? s = some span →
        ∀ mode, s ∈ i.completions text mode := by
  have hoffered : ∀ name, Text.definitionName text.toList = some name →
      ∃ typed, Text.completionName text.toList = some typed
        ∧ (typed = name ∨ typed = Text.pcd) ∧ typed <+: name :=
    fun name hname => (Text.definitionName_eq_some_iff.1 hname).exists_completionName
  refine ⟨fun name => Text.definitionName_eq_some_iff, hoffered,
    Text.definitionName_eq_none_iff, fun span => definition_eq_some_iff, ?_⟩
  intro s span hname hget mode
  obtain ⟨typed, htyped, -, hbegins⟩ := hoffered s.toList hname
  exact mem_completions_of_begins (mem_symbols.2 ⟨span, hget⟩) htyped hbegins mode

/-- A bare `Pcd` stands to the left of a name: it is what is being typed, and the
name is offered all the same. -/
theorem definition_offered_bare :
    Text.definitionName "Pcd, set(PcdBaseAddress|0)".toList = some "PcdBaseAddress".toList
      ∧ Text.completionName "Pcd, set(PcdBaseAddress|0)".toList = some Text.pcd
      ∧ bases.definition "Pcd, set(PcdBaseAddress|0)" = some default
      ∧ "PcdBaseAddress" ∈ bases.completions "Pcd, set(PcdBaseAddress|0)" .leading
      ∧ "PcdBaseAddress" ∈ bases.completions "Pcd, set(PcdBaseAddress|0)" .anywhere
      ∧ ∀ before c after, "Pcd, pcdBase".toList = before ++ (Text.pcd ++ c :: after) →
          Text.isWordChar c = false := by
  have hname : Text.definitionName "Pcd, set(PcdBaseAddress|0)".toList
      = some "PcdBaseAddress".toList := by decide
  have hget : bases.get? "PcdBaseAddress" = some default := by decide +kernel
  obtain ⟨-, -, -, hdefinition, hcompletes⟩ :=
    definition_offered bases "Pcd, set(PcdBaseAddress|0)"
  obtain ⟨-, -, hnone, -⟩ := definition_offered bases "Pcd, pcdBase"
  exact ⟨hname, by decide, (hdefinition _).2 ⟨_, hname, hget⟩, hcompletes _ _ hname hget .leading,
    hcompletes _ _ hname hget .anywhere, hnone.1 (by decide)⟩

end Index

end PcdCatalog

import PcdCatalog.Proofs.TomlValue

/-!
# Documents are read back as they were written

A document is a line after the other, and its reader goes from one to the next with
the tables so far and the header it is under. `Passes` says where some lines take it,
whatever follows them; what is known of lines is put together from there
(`Passes.trans`). A header opens a table that has not been there, and a line puts a
value under a key that has not been there. So a `Section`, whose lines have different
names, comes to its table (`passes_section`), and a document of sections says what
they say (`parse?_sections`).
-/

namespace PcdCatalog.Toml

/-! ## Keys -/

/-- A name that needs no quotes as a key. -/
structure Bare (name : String) : Prop where
  nonempty : name.toList ≠ []
  all : ∀ c ∈ name.toList, isBareKeyChar c = true

instance (name : String) : Decidable (Bare name) :=
  decidable_of_iff (name.toList ≠ [] ∧ name.toList.all isBareKeyChar = true)
    ⟨fun h => ⟨h.1, List.all_eq_true.1 h.2⟩, fun h => ⟨h.nonempty, List.all_eq_true.2 h.all⟩⟩

variable {name : String}

theorem Bare.exists_cons (h : Bare name) :
    ∃ c cs, name.toList = c :: cs ∧ isBareKeyChar c = true := by
  obtain ⟨c, cs, hcons⟩ := List.exists_cons_of_ne_nil h.nonempty
  exact ⟨c, cs, hcons, h.all c (hcons ▸ List.mem_cons_self)⟩

/-- Nothing is passed over before a name. -/
theorem Bare.skip_eq (h : Bare name) (rest : List Char) :
    skip (name.toList ++ rest) = name.toList ++ rest := by
  obtain ⟨c, cs, hcons, hc⟩ := h.exists_cons
  rw [hcons, List.cons_append]
  refine List.dropWhile_cons_of_neg ?_
  have hspace := ne_of_kind hc (d := ' ') (by decide)
  have htab := ne_of_kind hc (d := '\t') (by decide)
  simp [isBlank, hspace, htab]

/-- **A name is read as a key**, up to something that does not belong to it. -/
theorem Bare.key?_eq (h : Bare name) {c : Char} {rest left : List Char}
    (hskip : skip rest = c :: left) (hdot : c ≠ '.')
    (hend : ∀ d, rest.head? = some d → isBareKeyChar d = false) :
    key? (name.toList ++ rest) = some ([name], c :: left) := by
  have hbehind : rest.takeWhile isBareKeyChar = [] ∧ rest.dropWhile isBareKeyChar = rest := by
    cases rest with
    | nil => exact ⟨rfl, rfl⟩
    | cons d rest =>
      have hd : ¬ isBareKeyChar d = true := by simp [hend d rfl]
      exact ⟨List.takeWhile_cons_of_neg hd, List.dropWhile_cons_of_neg hd⟩
  have hpart : keyPart? (name.toList ++ rest) = some (name, rest) := by
    obtain ⟨d, ds, hcons, hd⟩ := h.exists_cons
    rw [keyPart?.eq_3, List.takeWhile_append_of_pos h.all, List.dropWhile_append_of_pos h.all,
      hbehind.1, hbehind.2, List.append_nil, String.ofList_toList]
    · exact if_neg (by simpa using h.nonempty)
    · rw [hcons]
      exact fun _ heq => ne_of_kind hd (by decide) (List.cons.inj heq).1
    · rw [hcons]
      exact fun _ heq => ne_of_kind hd (by decide) (List.cons.inj heq).1
  have hparts : keyParts? ((name.toList ++ rest).length + 1) [] (name.toList ++ rest)
      = some ([name], c :: left) := by
    rw [keyParts?, h.skip_eq, hpart]
    simp only [Option.bind_eq_bind, Option.bind_some, hskip]
    split
    next heq => exact absurd (List.cons.inj heq).1 hdot
    next => rfl
  unfold key?
  rw [hparts]
  rfl

/-! ## Lines -/

/-- **Some lines take the reader of a document further**, from the tables and the header
it had to others, whatever follows them. -/
def Passes (path : List String) (root : Tree) (written : List Char) (path' : List String)
    (root' : Tree) : Prop :=
  ∀ fuel rest, written.length < fuel → ∃ left, fuel - written.length ≤ left
    ∧ lines? fuel path root (written ++ rest) = lines? left path' root' rest

theorem passes_nil (path : List String) (root : Tree) : Passes path root [] path root :=
  fun fuel _ _ => ⟨fuel, Nat.le_refl _, rfl⟩

theorem Passes.trans {path path' path'' : List String} {root root' root'' : Tree}
    {written written' : List Char} (h : Passes path root written path' root')
    (h' : Passes path' root' written' path'' root'') :
    Passes path root (written ++ written') path'' root'' := by
  intro fuel rest hfuel
  rw [List.length_append] at hfuel ⊢
  obtain ⟨left, hleft, hfirst⟩ := h fuel (written' ++ rest) (by omega)
  obtain ⟨left', hleft', hsecond⟩ := h' left rest (by omega)
  exact ⟨left', by omega, by rw [List.append_assoc, hfirst, hsecond]⟩

/-- What takes one step and ends its line takes the reader further. -/
theorem passes_of_step {path path' : List String} {root root' : Tree} {written : List Char}
    (hne : written ≠ [])
    (hstep : ∀ fuel rest,
      lines? (fuel + 1) path root (written ++ rest) = lines? fuel path' root' rest) :
    Passes path root written path' root' := by
  intro fuel rest hfuel
  have hlength := List.length_pos_iff.2 hne
  obtain ⟨fuel, rfl⟩ : ∃ k, fuel = k + 1 := ⟨fuel - 1, by omega⟩
  exact ⟨fuel, by omega, hstep fuel rest⟩

/-- An empty line changes nothing. -/
theorem passes_blank (path : List String) (root : Tree) : Passes path root ['\n'] path root :=
  passes_of_step (by simp) fun _ _ => rfl

/-- **A header opens its table.** -/
theorem passes_header (hname : Bare name) {root root' : Tree}
    (hroot : root.header [name] = some root') (path : List String) :
    Passes path root ('[' :: (name.toList ++ [']', '\n'])) [name] root' := by
  refine passes_of_step (by simp) fun fuel rest => ?_
  have hkey : key? (name.toList ++ ']' :: '\n' :: rest) = some ([name], ']' :: '\n' :: rest) :=
    hname.key?_eq rfl (by decide) (by rintro d ⟨⟩; rfl)
  have hskip : skip ('[' :: (name.toList ++ ']' :: '\n' :: rest))
      = '[' :: (name.toList ++ ']' :: '\n' :: rest) := rfl
  rw [List.cons_append, List.append_assoc, List.cons_append, List.singleton_append, lines?, hskip]
  split
  next heq => exact absurd heq (by simp)
  next heq => exact absurd (List.cons.inj heq).1 (by decide)
  next heq =>
    obtain ⟨c, cs, hcons, hc⟩ := hname.exists_cons
    rw [hcons] at heq
    exact absurd (List.cons.inj (List.cons.inj heq).2).1 (ne_of_kind hc (by decide))
  next heq =>
    obtain ⟨-, rfl⟩ := List.cons.inj heq
    rw [hkey]
    simp only [Option.bind_eq_bind, Option.bind_some, hroot]
    rfl
  next hother => exact absurd rfl (hother _)

/-- A line is read as its key and its value. -/
theorem pairLine?_line (hname : Bare name) {value : List Char} {d : Data} (hvalue : Written value d)
    (rest : List Char) :
    pairLine? (name.toList ++ (' ' :: '=' :: ' ' :: (value ++ '\n' :: rest)))
      = some ([name], d, rest) := by
  have hkey := @Bare.key?_eq _ hname '=' (' ' :: '=' :: ' ' :: (value ++ '\n' :: rest))
    (' ' :: (value ++ '\n' :: rest)) rfl (by decide) (by rintro d ⟨⟩; rfl)
  have hskip : skip (' ' :: (value ++ '\n' :: rest)) = value ++ '\n' :: rest := by
    obtain ⟨c, cs, rfl, hc⟩ := hvalue.head
    unfold skip
    rw [List.dropWhile_cons_of_pos (by decide), List.cons_append,
      List.dropWhile_cons_of_neg (by simp [hc])]
  have hread := hvalue.value (2 * (' ' :: (value ++ '\n' :: rest)).length + 2)
    (by simp; omega) rest
  unfold pairLine?
  rw [hkey]
  simp only [Option.bind_eq_bind, Option.bind_some, hskip, hread]
  rfl

/-- **A line puts its value under its key.** -/
theorem passes_line (hname : Bare name) {value : String} {d : Data}
    (hvalue : Written value.toList d) {path : List String} {root root' : Tree}
    (hroot : root.within false (Tree.putKey [name] (.leaf d)) path = some root') :
    Passes path root (line name value).toList path root' := by
  have htext : (line name value).toList
      = name.toList ++ (' ' :: '=' :: ' ' :: (value.toList ++ ['\n'])) := by
    simp [line]
  obtain ⟨c, cs, hcons, hc⟩ := hname.exists_cons
  rw [htext]
  refine passes_of_step (by simp) fun fuel rest => ?_
  have hpair := pairLine?_line hname hvalue rest
  have hskip := hname.skip_eq (' ' :: '=' :: ' ' :: (value.toList ++ '\n' :: rest))
  simp only [List.append_assoc, List.cons_append, List.nil_append]
  rw [lines?, hskip]
  rw [hcons] at hpair ⊢
  have hne : ∀ {d : Char}, isBareKeyChar d = false → c ≠ d := ne_of_kind hc
  split
  next heq => exact absurd heq (by simp)
  next heq => exact absurd (List.cons.inj heq).1 (hne (by decide))
  next heq => exact absurd (List.cons.inj heq).1 (hne (by decide))
  next heq => exact absurd (List.cons.inj heq).1 (hne (by decide))
  next =>
    rw [List.cons_append, newline?.eq_3 _ (fun _ heq => hne (by decide) (List.cons.inj heq).1)
      (fun _ heq => hne (by decide) (List.cons.inj heq).1)]
    rw [List.cons_append] at hpair
    simp only [hpair, Option.bind_eq_bind, Option.bind_some, hroot]

/-! ## Tables -/

namespace Tree

variable {fields : List (String × Tree)}

theorem find?_eq_none (h : name ∉ fields.map Prod.fst) : find? name fields = none := by
  unfold find?
  rw [Option.map_eq_none_iff, List.find?_eq_none]
  rintro ⟨other, t⟩ hmem
  simp only [beq_iff_eq]
  rintro rfl
  exact h (List.mem_map_of_mem hmem)

theorem find?_concat (h : name ∉ fields.map Prod.fst) (t : Tree) :
    find? name (fields ++ [(name, t)]) = some t := by
  have hnone := find?_eq_none h
  unfold find? at hnone ⊢
  rw [Option.map_eq_none_iff] at hnone
  rw [List.find?_append, hnone]
  simp

/-- A table that has not been there is added. -/
theorem set_of_notMem (h : name ∉ fields.map Prod.fst) (t : Tree) :
    set name t fields = fields ++ [(name, t)] := by
  induction fields with
  | nil => rfl
  | cons f fields ih =>
    rw [List.map_cons, List.mem_cons, not_or] at h
    have hne : (f.1 == name) = false := by simpa using fun heq => h.1 heq.symm
    rw [set, hne, if_neg Bool.false_ne_true, ih h.2]
    rfl

/-- The last table is exchanged. -/
theorem set_concat (h : name ∉ fields.map Prod.fst) (t t' : Tree) :
    set name t' (fields ++ [(name, t)]) = fields ++ [(name, t')] := by
  induction fields with
  | nil => simp [set]
  | cons f fields ih =>
    rw [List.map_cons, List.mem_cons, not_or] at h
    have hne : (f.1 == name) = false := by simpa using fun heq => h.1 heq.symm
    rw [List.cons_append, set, hne, if_neg Bool.false_ne_true, ih h.2]
    rfl

theorem header_of_notMem (h : name ∉ fields.map Prod.fst) :
    header [name] (.table false false fields)
      = some (.table false false (fields ++ [(name, .table false false [])])) := by
  simp only [header, List.getLast?_singleton, List.dropLast_singleton, within, find?_eq_none h,
    set_of_notMem h]

/-- A table with these values. -/
def ofFields (fields : List (String × Data)) : Tree :=
  .table false false (fields.map fun f => (f.1, .leaf f.2))

/-- **A value is put under a name that has not been there**, in the last table. -/
theorem within_putKey {key : String} {values : List (String × Data)}
    (h : name ∉ fields.map Prod.fst) (hkey : key ∉ values.map Prod.fst) (d : Data) :
    within false (putKey [key] (.leaf d)) [name]
        (.table false false (fields ++ [(name, ofFields values)]))
      = some (.table false false (fields ++ [(name, ofFields (values ++ [(key, d)]))])) := by
  have hnone : find? key (values.map fun f => (f.1, Tree.leaf f.2)) = none := by
    refine find?_eq_none ?_
    rwa [List.map_map]
  have hput : putKey [key] (.leaf d) (ofFields values)
      = some (ofFields (values ++ [(key, d)])) := by
    simp [putKey, put, ofFields, within, hnone]
  unfold ofFields at hput ⊢
  simp only [within, find?_concat h, hput, Bool.false_and, if_neg Bool.false_ne_true,
    Option.map_some, set_concat h]

theorem data_ofFields (values : List (String × Data)) :
    (ofFields values).data = .record values := by
  have hfields : dataFields (values.map fun f => (f.1, Tree.leaf f.2)) = values := by
    induction values with
    | nil => rfl
    | cons f values ih => rw [List.map_cons, dataFields, ih, data]
  rw [ofFields, data, hfields]

end Tree

/-! ## Sections -/

/-- **A line of a section**: a name, what is written behind it, and the value that it
means. -/
structure Line where
  name : String
  value : String
  data : Data
  bare : Bare name
  written : Written value.toList data

namespace Line

/-- The line as it is written. -/
def text (l : Line) : List Char := (line l.name l.value).toList

/-- What the line says. -/
def field (l : Line) : String × Data := (l.name, l.data)

end Line

/-- **The lines of a section fill its table.** -/
theorem passes_lines {fields : List (String × Tree)} (hname : name ∉ fields.map Prod.fst)
    (values : List (String × Data)) (ls : List Line)
    (hnodup : (values.map Prod.fst ++ ls.map Line.name).Nodup) :
    Passes [name] (.table false false (fields ++ [(name, .ofFields values)])) (ls.flatMap Line.text)
      [name] (.table false false
        (fields ++ [(name, .ofFields (values ++ ls.map Line.field))])) := by
  induction ls generalizing values with
  | nil =>
    rw [List.map_nil, List.append_nil]
    exact passes_nil _ _
  | cons l ls ih =>
    have hkey : l.name ∉ values.map Prod.fst := by
      intro hmem
      exact (List.nodup_append.1 hnodup).2.2 _ hmem _ List.mem_cons_self rfl
    have hrest := ih (values ++ [l.field]) (by simpa [Line.field] using hnodup)
    rw [List.append_assoc] at hrest
    exact (passes_line l.bare l.written (Tree.within_putKey hname hkey l.data)).trans hrest

/-- The header of a section. -/
def headerLine (name : String) : List Char := '[' :: (name.toList ++ [']', '\n'])

/-- **A section**: a name, and lines under different names. -/
structure Section where
  name : String
  lines : List Line
  bare : Bare name
  nodup : (lines.map Line.name).Nodup

namespace Section

/-- The section as it is written. -/
def text (t : Section) : List Char := headerLine t.name ++ t.lines.flatMap Line.text

/-- The table of the section. -/
def table (t : Section) : String × Tree := (t.name, .ofFields (t.lines.map Line.field))

/-- What the section says. -/
def field (t : Section) : String × Data := (t.name, .record (t.lines.map Line.field))

end Section

/-- **A section comes to a table.** -/
theorem passes_section (t : Section) {fields : List (String × Tree)}
    (hname : t.name ∉ fields.map Prod.fst) (path : List String) :
    Passes path (.table false false fields) t.text [t.name]
      (.table false false (fields ++ [t.table])) :=
  (passes_header t.bare (Tree.header_of_notMem hname) path).trans
    (passes_lines hname [] t.lines t.nodup)

/-- **Sections come to their tables**, with an empty line before each. -/
theorem exists_passes_sections (ts : List Section) {fields : List (String × Tree)}
    (hnodup : (fields.map Prod.fst ++ ts.map Section.name).Nodup) (path : List String) :
    ∃ path', Passes path (.table false false fields) (ts.flatMap fun t => '\n' :: t.text) path'
      (.table false false (fields ++ ts.map Section.table)) := by
  induction ts generalizing fields path with
  | nil =>
    refine ⟨path, ?_⟩
    rw [List.map_nil, List.append_nil]
    exact passes_nil _ _
  | cons t ts ih =>
    have hname : t.name ∉ fields.map Prod.fst := by
      intro hmem
      exact (List.nodup_append.1 hnodup).2.2 _ hmem _ List.mem_cons_self rfl
    have hnodup' : ((fields ++ [t.table]).map Prod.fst ++ ts.map Section.name).Nodup := by
      simpa [Section.table] using hnodup
    obtain ⟨path', hrest⟩ := ih hnodup' [t.name]
    rw [List.append_assoc] at hrest
    exact ⟨path', ((passes_blank path _).trans (passes_section t hname path)).trans hrest⟩

/-- **What lines come to from the beginning is what a document says.** -/
theorem parse?_of_passes {s : String} {path : List String} {root : Tree}
    (h : Passes [] (.table false false []) s.toList path root)
    (hmark : s.toList.head? ≠ some '\ufeff') : parse? s = some root.data := by
  obtain ⟨left, hleft, hlines⟩ := h (s.toList.length + 1) [] (Nat.lt_succ_self _)
  obtain ⟨left, rfl⟩ : ∃ k, left = k + 1 := ⟨left - 1, by omega⟩
  rw [List.append_nil] at hlines
  unfold parse?
  dsimp only
  split
  next heq => exact absurd (by rw [heq]; rfl) hmark
  next =>
    rw [hlines]
    rfl

/-- **A document of sections says what they say.** -/
theorem parse?_sections (t : Section) (ts : List Section)
    (hnodup : ((t :: ts).map Section.name).Nodup) {s : String}
    (hs : s.toList = t.text ++ ts.flatMap fun t => '\n' :: t.text) :
    parse? s = some (.record ((t :: ts).map Section.field)) := by
  obtain ⟨path, hrest⟩ := @exists_passes_sections ts [t.table] hnodup [t.name]
  have hfirst := @passes_section t [] List.not_mem_nil []
  have hall := hfirst.trans hrest
  rw [← hs] at hall
  have hmark : s.toList.head? ≠ some '\ufeff' := by
    rw [hs]
    simp [Section.text, headerLine]
  have hdata : ∀ ts : List Section,
      Tree.dataFields (ts.map Section.table) = ts.map Section.field := by
    intro ts
    induction ts with
    | nil => rfl
    | cons t ts ih =>
      rw [List.map_cons, List.map_cons, Section.table, Tree.dataFields, ih, Tree.data_ofFields]
      rfl
  rw [parse?_of_passes hall hmark, ← hdata (t :: ts)]
  rfl

end PcdCatalog.Toml

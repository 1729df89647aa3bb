import PcdCatalog.Proofs.TableLaws
import PcdCatalog.Workspace

/-!
# Laws of sources and of what their documents declare

A document is named by its path, and one place has many spellings. This
module says what does not depend on the spelling. Reading a shelf goes by the
key of the path (`Shelf.read_congr`), and the spans extracted from one text
under two spellings differ in nothing but that spelling
(`Extractor.get?_extract_respell`). The part of a span that is left when the
spelling is taken away is its `Site`.

A shelf that came about by putting documents on it and taking them away is
`Shelf.Tidy`: every text is filed under the key of its own spelling. Only
then does listing the shelf name the documents that can be read
(`Shelf.mem_documents`).
-/

namespace PcdCatalog

/-! ## Reading and extracting -/

namespace Source

/-- Whether reading a document fails. -/
def unreadable (src : Source) (doc : Path) : Bool :=
  match src.read doc with
  | .ok _ => false
  | .error _ => true

end Source

namespace Extractor

/-- The declaration of a symbol in a document as it reads now. -/
def declared? (x : Extractor) (src : Source) (doc : Path) (s : String) : Option Span :=
  (x.look src doc).bind (·.get? s)

/-- The symbols that a document declares, none if it cannot be read. -/
def symbolsIn (x : Extractor) (src : Source) (doc : Path) : List String :=
  ((x.look src doc).getD ∅).keys

theorem look_eq_none_iff (x : Extractor) (src : Source) (doc : Path) :
    x.look src doc = none ↔ src.unreadable doc = true := by
  unfold look Source.unreadable
  cases src.read doc <;> simp

/-- What a document declares is what is extracted from its text. -/
theorem declared?_eq_some_iff {x : Extractor} {src : Source} {doc : Path} {s : String}
    {span : Span} :
    x.declared? src doc s = some span
      ↔ ∃ text, src.read doc = .ok text ∧ (x.extract doc text).get? s = some span := by
  unfold declared? look
  cases src.read doc <;> simp

theorem mem_symbolsIn {x : Extractor} {src : Source} {doc : Path} {s : String} :
    s ∈ x.symbolsIn src doc ↔ ∃ span, x.declared? src doc s = some span := by
  unfold symbolsIn Table.keys declared?
  rw [List.mem_map, ← Table.get?_getD_empty]
  constructor
  · rintro ⟨⟨s', span⟩, hm, rfl⟩
    exact ⟨span, (Table.get?_eq_some_iff _).2 hm⟩
  · rintro ⟨span, hg⟩
    exact ⟨(s, span), (Table.get?_eq_some_iff _).1 hg, rfl⟩

/-- **What is extracted belongs to the document it is extracted from.** -/
theorem document_of_get?_extract {x : Extractor} {doc : Path} {text : String} {s : String}
    {span : Span} (h : (x.extract doc text).get? s = some span) : span.document = doc := by
  have hm := Table.mem_of_get?_ofList h
  obtain ⟨m, -, hd⟩ := List.mem_filterMap.1 hm
  unfold declaration? at hd
  split at hd
  · exact absurd hd (by simp)
  · split at hd
    · exact absurd hd (by simp)
    · rw [Option.some.injEq, Prod.mk.injEq] at hd
      rw [← hd.2]

/-- What a document declares is its own. -/
theorem document_of_declared? {x : Extractor} {src : Source} {doc : Path} {s : String}
    {span : Span} (h : x.declared? src doc s = some span) : span.document = doc := by
  obtain ⟨text, -, hg⟩ := declared?_eq_some_iff.1 h
  exact document_of_get?_extract hg

/-- What a document declares is extracted from its text, if it has one. -/
theorem look_eq_map (x : Extractor) (src : Source) (doc : Path) :
    x.look src doc = (src.read doc).toOption.map (x.extract doc) := by
  unfold look
  cases src.read doc <;> rfl

/-- It depends on nothing but that text. -/
theorem look_congr (x : Extractor) {src src' : Source} {doc : Path}
    (h : (src.read doc).toOption = (src'.read doc).toOption) : x.look src doc = x.look src' doc := by
  rw [look_eq_map, look_eq_map, h]

end Extractor

/-- What an update finds belongs to its document. -/
theorem Update.document_of_look {u : Update} {x : Extractor} {src : Source} {doc : Path}
    {s : String} {span : Span} (h : (u.look x src doc).bind (·.get? s) = some span) :
    span.document = doc := by
  cases u with
  | created => exact Extractor.document_of_declared? h
  | changed => exact Extractor.document_of_declared? h
  | deleted => exact absurd h (by simp [Update.look])

/-! ## Spans without their spelling -/

/-- **A span up to the spelling of its document.** -/
structure Site where
  document : Path.Key
  start : Position
  stop : Position
  first : Nat
  past : Nat
deriving DecidableEq

/-- The site of a span. -/
def Span.site (s : Span) : Site := ⟨s.document.key, s.start, s.stop, s.first, s.past⟩

/-- A span under another spelling of its document. -/
def Span.respell (doc : Path) (s : Span) : Span := { s with document := doc }

/-- **The entries of an index, documents compared as paths.** -/
def Index.sites (i : Index) : Table String Site := i.table.map fun _ => Span.site

theorem Index.get?_sites (i : Index) (s : String) :
    i.sites.get? s = (i.get? s).map Span.site :=
  Table.get?_map _ i.table s

namespace Extractor

/-- Under another spelling of its document a match declares the same. -/
theorem declaration?_respell (doc doc' : Path) (text : List Char) (m : Pattern.Match) :
    declaration? doc' text m
      = (declaration? doc text m).map (fun e => (e.1, e.2.respell doc')) := by
  unfold declaration?
  split
  · rfl
  · split <;> rfl

/-- **Extraction under another spelling** differs in the spelling only. -/
theorem get?_extract_respell (x : Extractor) (doc doc' : Path) (text s : String) :
    (x.extract doc' text).get? s
      = ((x.extract doc text).get? s).map (Span.respell doc') := by
  have hlist : declarationsOf x.pattern doc' text
      = (declarationsOf x.pattern doc text).map (fun e => (e.1, e.2.respell doc')) := by
    unfold declarationsOf
    rw [List.map_filterMap]
    exact congrArg (fun f => List.filterMap f _) (funext (declaration?_respell doc doc' _))
  unfold extract extractBy
  rw [Table.get?_ofList, Table.get?_ofList, hlist, ← List.map_reverse,
    Table.lookup_map (Span.respell doc')]

/-- Two spellings of one document declare the same sites. -/
theorem site_extract_congr (x : Extractor) {doc doc' : Path} (h : doc.key = doc'.key)
    (text s : String) :
    ((x.extract doc' text).get? s).map Span.site
      = ((x.extract doc text).get? s).map Span.site := by
  rw [get?_extract_respell x doc doc']
  cases hs : (x.extract doc text).get? s with
  | none => rfl
  | some span =>
    have hdoc := document_of_get?_extract hs
    simp [Span.site, Span.respell, hdoc, h]

/-- Two spellings of one document that have one text declare the same sites. -/
theorem site_declared?_of_text (x : Extractor) {src : Source} {doc doc' : Path}
    (h : doc.key = doc'.key) (htext : (src.read doc).toOption = (src.read doc').toOption)
    (s : String) :
    (x.declared? src doc s).map Span.site = (x.declared? src doc' s).map Span.site := by
  unfold declared?
  rw [look_eq_map, look_eq_map, htext]
  cases (src.read doc').toOption with
  | none => rfl
  | some text => exact (x.site_extract_congr h text s).symm

end Extractor

/-! ## Shelves -/

namespace Shelf

/-- **A tidy shelf**: texts are filed under the keys of their spellings, and no
document was made unreadable. -/
structure Tidy (s : Shelf) : Prop where
  filed : ∀ k e, s.texts.get? k = some e → e.1.key = k
  whole : s.broken = ∅

theorem tidy_empty : Tidy empty where
  filed k e h := absurd h (by rw [show empty.texts.get? k = none from rfl]; simp)
  whole := rfl

theorem Tidy.insert {s : Shelf} (h : s.Tidy) (doc : Path) (text : String) :
    (s.insert doc text).Tidy where
  whole := h.whole
  filed k e he := by
    have hput : (s.texts.insert doc.key
        (((s.texts.get? doc.key).map Prod.fst).getD doc, text)).get? k = some e := he
    rw [Table.get?_insert] at hput
    split at hput
    next hk =>
      obtain rfl := Std.LawfulEqCmp.eq_of_compare hk
      rw [← Option.some.inj hput]
      cases hd : s.texts.get? doc.key with
      | none => rfl
      | some old => exact h.filed _ old hd
    next => exact h.filed k e hput

theorem Tidy.remove {s : Shelf} (h : s.Tidy) (doc : Path) : (s.remove doc).Tidy where
  whole := h.whole
  filed k e he := by
    have hkept : (s.texts.erase doc.key).get? k = some e := he
    rw [Table.get?_erase] at hkept
    split at hkept
    · exact absurd hkept (by simp)
    · exact h.filed k e hkept

/-- **Every shelf of a list of documents is tidy.** -/
theorem tidy_ofList (docs : List (Path × String)) : (ofList docs).Tidy := by
  unfold ofList
  generalize empty = s, tidy_empty = h
  induction docs generalizing s with
  | nil => exact h
  | cons d docs ih => exact ih (s.insert d.1 d.2) (h.insert d.1 d.2)

/-- Reading goes by the key of a path. -/
theorem read_congr (s : Shelf) {doc doc' : Path} (h : doc.key = doc'.key) :
    s.read doc = s.read doc' := by
  unfold read isBroken
  rw [h]

/-- On a tidy shelf exactly the documents with a text can be read. -/
theorem Tidy.read_eq_ok_iff {s : Shelf} (h : s.Tidy) {doc : Path} {text : String} :
    s.read doc = .ok text ↔ ∃ spelling, s.texts.get? doc.key = some (spelling, text) := by
  have hb : s.isBroken doc = false := by
    unfold isBroken Table.contains
    rw [h.whole]
    rfl
  unfold read
  rw [hb]
  cases s.texts.get? doc.key with
  | none => simp
  | some e =>
    obtain ⟨spelling, text'⟩ := e
    simp

/-- A tidy shelf lists the spellings under which its texts are filed, in the
order of their keys. -/
theorem Tidy.documents_eq {s : Shelf} (h : s.Tidy) :
    s.documents = s.texts.toList.map fun e => e.2.1 := by
  have htable : (s.texts.toList.map fun e => (e.1, e.2.1)).foldl
      (fun t e => t.insert e.1 e.2) s.broken = s.texts.map fun _ e => e.1 := by
    refine Table.ext_get? fun k => ?_
    have hsorted : (s.texts.toList.map fun e => (e.1, e.2.1)).Pairwise
        (fun a b => compare a.1 b.1 = .lt) := (s.texts.map fun _ e => e.1).ascending
    rw [Table.get?_foldl_insert, Table.lookup_reverse k hsorted, h.whole]
    exact Option.or_none
  show ((s.texts.toList.map fun e => (e.1, e.2.1)).foldl
    (fun t e => t.insert e.1 e.2) s.broken).values = _
  rw [htable]
  simp [Table.values, Table.map]

/-- **The listed documents are those with a text**, in the spelling under which
it is filed. -/
theorem Tidy.mem_documents {s : Shelf} (h : s.Tidy) {doc : Path} :
    doc ∈ s.documents ↔ ∃ text, s.texts.get? doc.key = some (doc, text) := by
  rw [h.documents_eq, List.mem_map]
  constructor
  · rintro ⟨⟨k, spelling, text⟩, hm, rfl⟩
    have hget := (Table.get?_eq_some_iff _).2 hm
    exact ⟨text, by rw [h.filed k _ hget]; exact hget⟩
  · rintro ⟨text, he⟩
    exact ⟨(doc.key, doc, text), (Table.get?_eq_some_iff _).1 he, rfl⟩

/-- It leaves the other documents alone. -/
theorem read_insert_of_ne (s : Shelf) {doc doc' : Path} (text : String)
    (hk : doc'.key ≠ doc.key) : (s.insert doc text).read doc' = s.read doc' := by
  have hget : (s.insert doc text).texts.get? doc'.key = s.texts.get? doc'.key := by
    refine (Table.get?_insert _ _ _ _).trans (if_neg ?_)
    exact fun hc => hk (Std.LawfulEqCmp.eq_of_compare hc)
  unfold read
  rw [hget]
  rfl

/-- A document that is taken away cannot be read. -/
theorem Tidy.read_remove_self {s : Shelf} (h : s.Tidy) {doc doc' : Path} {text : String}
    (hk : doc'.key = doc.key) : (s.remove doc).read doc' ≠ .ok text := by
  intro hr
  obtain ⟨spelling, hg⟩ := (h.remove doc).read_eq_ok_iff.1 hr
  have hkept : (s.texts.erase doc.key).get? doc'.key = some (spelling, text) := hg
  rw [Table.get?_erase, hk, if_pos Std.ReflCmp.compare_self] at hkept
  exact absurd hkept (by simp)

/-- The other documents stay. -/
theorem read_remove_of_ne (s : Shelf) {doc doc' : Path} (hk : doc'.key ≠ doc.key) :
    (s.remove doc).read doc' = s.read doc' := by
  have hget : (s.remove doc).texts.get? doc'.key = s.texts.get? doc'.key := by
    refine (Table.get?_erase _ _ _).trans (if_neg ?_)
    exact fun hc => hk (Std.LawfulEqCmp.eq_of_compare hc).symm
  unfold read
  rw [hget]
  rfl

end Shelf

end PcdCatalog

import Mathlib.Algebra.BigOperators.Group.List.Basic
import Mathlib.Algebra.GroupWithZero.Nat
import PcdCatalog.Proofs.Traffic

/-!
# Builds step by step

`Workspace.build` reads and merges one document after the other. A build may
have several reads under way at once, up to a width; they end in any order, and
yet their documents are merged in the order in which they were listed. `Build`
is such a build under way, and `Build.step` is what it does next: begin a read,
end one, or merge what the first of them has found.

Over a source that nobody edits the width and the order of the reads do not
show. Whatever has been merged so far is a front of the listed documents, with
the index and the counts that reading just these one after the other gives
(`Fronted`); so a build that is done has done what `Workspace.build` does
(`Build.run_eq_build`). And every build can be done: while it is not, some step
can be taken (`Build.exists_move`), and every step that is taken leaves less to
do (`Build.work_lt`).
-/

namespace PcdCatalog

/-- A read of a build: of which document, and what it has found once it has
ended. -/
structure Fetch where
  document : Path
  found : Option Found

/-- What is left to do for a read. -/
def Fetch.work (f : Fetch) : Nat := if f.found.isSome then 1 else 2

/-- **A build under way.** -/
structure Build where
  /-- How many reads may be under way at once. -/
  width : Nat
  /-- The documents whose reads have not begun, in the order listed. -/
  waiting : List Path
  /-- The reads under way, in the order listed. A read that has ended stays until
  it is merged. -/
  fetches : List Fetch
  /-- What has been merged, document by document. -/
  log : List Effect

namespace Build

/-- The counts of what has been merged so far; those of a build that is done are
what it returns. -/
def counts (b : Build) : UpdateCounts := b.log.foldl (fun n e => n + e.counts) {}

/-- Whether every document has been merged. -/
def isDone (b : Build) : Bool := b.waiting.isEmpty && b.fetches.isEmpty

/-- A build lists the documents as they are when it begins. At least one is read
at a time. -/
def start (width : Nat) (src : Source) : Build := ⟨max width 1, src.documents, [], []⟩

/-! ## Steps -/

/-- What a build does next. -/
inductive Step where
  /-- The read of the next document begins. -/
  | fetch
  /-- A read under way ends, counted from the first. -/
  | look (n : Nat)
  /-- What the first read has found is merged. -/
  | merge

/-- What merging a document does. -/
def effect (b : Build) (i : Index) (doc : Path) (found : Found) : Effect :=
  ⟨⟨b.log.length, .created, doc⟩, found, (i.mergedOrFailed doc found).2⟩

/-- The index and the build after a step, with the documents as they are then. A
step that cannot be taken changes nothing. -/
def step (x : Extractor) (src : Source) (s : Index × Build) : Step → Index × Build
  | .fetch =>
    match s.2.waiting with
    | [] => s
    | doc :: rest =>
      if s.2.fetches.length < s.2.width then
        (s.1, { s.2 with waiting := rest, fetches := s.2.fetches ++ [⟨doc, none⟩] })
      else s
  | .look n =>
    match s.2.fetches[n]? with
    | some ⟨doc, none⟩ =>
      (s.1, { s.2 with fetches := s.2.fetches.set n ⟨doc, some (x.look src doc)⟩ })
    | _ => s
  | .merge =>
    match s.2.fetches with
    | ⟨doc, some found⟩ :: rest =>
      ((s.1.mergedOrFailed doc found).1,
        { s.2 with fetches := rest, log := s.2.log ++ [s.2.effect s.1 doc found] })
    | _ => s

/-- The index and the build after some steps over one source. -/
def run (x : Extractor) (src : Source) (s : Index × Build) (steps : List Step) : Index × Build :=
  steps.foldl (step x src) s

/-- **What a step does that can be taken.** -/
inductive Move (x : Extractor) (src : Source) (i : Index) (b : Build) :
    Step → Index × Build → Prop where
  | fetch {doc : Path} {rest : List Path} (hwaiting : b.waiting = doc :: rest)
      (hwidth : b.fetches.length < b.width) :
      Move x src i b .fetch
        (i, { b with waiting := rest, fetches := b.fetches ++ [⟨doc, none⟩] })
  | look {front back : List Fetch} {doc : Path} (hfetches : b.fetches = front ++ ⟨doc, none⟩ :: back) :
      Move x src i b (.look front.length)
        (i, { b with fetches := front ++ ⟨doc, some (x.look src doc)⟩ :: back })
  | merge {doc : Path} {found : Found} {rest : List Fetch}
      (hfetches : b.fetches = ⟨doc, some found⟩ :: rest) :
      Move x src i b .merge
        ((i.mergedOrFailed doc found).1,
          { b with fetches := rest, log := b.log ++ [b.effect i doc found] })

variable {x : Extractor} {src : Source} {i : Index} {b : Build}

/-- A place in a list splits it, and what is put there stands in the same
split. -/
theorem exists_split_set {α : Type} {l : List α} {n : Nat} {a : α} (h : l[n]? = some a) :
    ∃ front back, l = front ++ a :: back ∧ front.length = n
      ∧ ∀ c, l.set n c = front ++ c :: back := by
  obtain ⟨hlt, hget⟩ := List.getElem?_eq_some_iff.1 h
  refine ⟨l.take n, l.drop (n + 1), ?_, List.length_take_of_le (Nat.le_of_lt hlt), fun c => ?_⟩
  · rw [← hget, ← List.drop_eq_getElem_cons hlt, List.take_append_drop]
  · rw [List.set_eq_take_append_cons_drop, if_pos hlt]

/-- **A step changes nothing or moves.** -/
theorem step_cases (x : Extractor) (src : Source) (i : Index) (b : Build) (a : Step) :
    step x src (i, b) a = (i, b) ∨ Move x src i b a (step x src (i, b) a) := by
  cases a with
  | fetch =>
    simp only [step]
    split
    next => exact Or.inl rfl
    next doc rest hwaiting =>
      split
      next hwidth => exact Or.inr (.fetch hwaiting hwidth)
      next => exact Or.inl rfl
  | look n =>
    simp only [step]
    split
    next doc h =>
      obtain ⟨front, back, hfetches, rfl, hset⟩ := exists_split_set h
      rw [hset]
      exact Or.inr (.look hfetches)
    next => exact Or.inl rfl
  | merge =>
    simp only [step]
    split
    next doc found rest hfetches => exact Or.inr (.merge hfetches)
    next => exact Or.inl rfl

/-- A step that can be taken is taken. -/
theorem Move.step_eq {a : Step} {s : Index × Build} (h : Move x src i b a s) :
    step x src (i, b) a = s := by
  cases h with
  | fetch hwaiting hwidth => simp only [step, hwaiting, hwidth, if_true]
  | @look front back doc hfetches => simp [step, hfetches]
  | merge hfetches => simp only [step, hfetches]

/-! ## A build over a source that nobody edits -/

/-- **What has been merged is a front of the documents**, with the index and the
counts of reading these one after the other; and what has been read is what the
documents say. -/
structure Fronted (x : Extractor) (src : Source) (i : Index) (s : Index × Build) : Prop where
  front : ∃ merged, src.documents = merged ++ s.2.fetches.map Fetch.document ++ s.2.waiting
    ∧ (s.1, s.2.counts) = merged.foldl (Workspace.absorb x src) (i, {})
  found : ∀ f ∈ s.2.fetches, ∀ found, f.found = some found → found = x.look src f.document

theorem fronted_start (x : Extractor) (src : Source) (i : Index) (width : Nat) :
    Fronted x src i (i, start width src) where
  front := ⟨[], rfl, rfl⟩
  found _ hf := absurd hf List.not_mem_nil

/-- **Every move keeps the front.** -/
theorem Fronted.move {j : Index} {a : Step} {s : Index × Build} (hs : Fronted x src i (j, b))
    (h : Move x src j b a s) : Fronted x src i s := by
  obtain ⟨merged, hdocs, hmerged⟩ := hs.front
  cases h with
  | @fetch doc rest hwaiting hwidth =>
    refine ⟨⟨merged, ?_, hmerged⟩, fun f hf found hfound => ?_⟩
    · simp only [hdocs, hwaiting, List.map_append, List.map_cons, List.map_nil, List.append_assoc,
        List.cons_append, List.nil_append]
    · rcases List.mem_append.1 hf with hf | hf
      · exact hs.found f hf found hfound
      · rw [List.mem_singleton.1 hf] at hfound
        exact absurd hfound (by simp)
  | @look front back doc hfetches =>
    have hfound := hs.found
    simp only [hfetches] at hdocs hfound
    refine ⟨⟨merged, ?_, hmerged⟩, fun f hf found hf' => ?_⟩
    · simp only [hdocs, List.map_append, List.map_cons]
    · rcases List.mem_append.1 hf with hf | hf
      · exact hfound f (List.mem_append_left _ hf) found hf'
      · rcases List.mem_cons.1 hf with rfl | hf
        · exact (Option.some.inj hf').symm
        · exact hfound f (List.mem_append_right _ (List.mem_cons_of_mem _ hf)) found hf'
  | @merge doc found rest hfetches =>
    have hfound := hs.found
    simp only [hfetches] at hdocs hfound
    refine ⟨⟨merged ++ [doc], ?_, ?_⟩, fun f hf => hfound f (List.mem_cons_of_mem _ hf)⟩
    · simp only [hdocs, List.map_cons, List.append_assoc, List.cons_append, List.nil_append]
    · rw [List.foldl_concat, ← hmerged, hfound _ List.mem_cons_self found rfl]
      simp only [Workspace.absorb, counts, List.foldl_concat, effect]

theorem Fronted.run {s : Index × Build} (hs : Fronted x src i s) (steps : List Step) :
    Fronted x src i (run x src s steps) := by
  refine List.foldlRecOn steps _ hs fun s hs a _ => ?_
  obtain ⟨j, b⟩ := s
  obtain h | h := step_cases x src j b a
  · rw [h]
    exact hs
  · exact hs.move h

/-- A build that is done has merged every document. -/
theorem Fronted.eq_build {w : Workspace} {s : Index × Build} (hs : Fronted w.extractor src w.index s)
    (hdone : s.2.isDone = true) :
    s.1 = (w.build src).1.index ∧ s.2.counts = (w.build src).2 := by
  obtain ⟨merged, hdocs, hmerged⟩ := hs.front
  obtain ⟨hwaiting, hfetches⟩ : s.2.waiting = [] ∧ s.2.fetches = [] := by
    simpa [isDone] using hdone
  rw [hwaiting, hfetches, List.map_nil, List.append_nil, List.append_nil] at hdocs
  rw [← hdocs] at hmerged
  exact Prod.mk.inj hmerged

/-! ## Every build can be done -/

/-- What is left to do for a build. -/
def work (b : Build) : Nat := 3 * b.waiting.length + (b.fetches.map Fetch.work).sum

/-- **Every step that is taken leaves less to do.** -/
theorem work_lt {a : Step} {s : Index × Build} (h : Move x src i b a s) : s.2.work < b.work := by
  unfold work
  cases h with
  | fetch hwaiting hwidth =>
    simp only [hwaiting, List.length_cons, List.map_append, List.map_cons, List.map_nil,
      List.sum_append, List.sum_cons, List.sum_nil, Fetch.work, Option.isSome_none]
    simp only [Bool.false_eq_true, if_false]
    omega
  | look hfetches => simp [hfetches, Fetch.work]
  | merge hfetches => simp [hfetches, Fetch.work]

/-- **A build that is not done can go on**: its first read ends or is merged, or
the next one begins. -/
theorem exists_move (x : Extractor) (src : Source) (i : Index) (hwidth : 0 < b.width)
    (hdone : b.isDone = false) : ∃ a s, Move x src i b a s := by
  cases hfetches : b.fetches with
  | cons f rest =>
    obtain ⟨doc, found⟩ := f
    cases found with
    | none => exact ⟨_, _, @Move.look x src i b [] rest doc hfetches⟩
    | some found => exact ⟨_, _, .merge hfetches⟩
  | nil =>
    cases hwaiting : b.waiting with
    | nil => simp [isDone, hfetches, hwaiting] at hdone
    | cons doc rest => exact ⟨_, _, .fetch hwaiting (by simpa [hfetches] using hwidth)⟩

/-- The width stays. -/
theorem Move.width_eq {a : Step} {s : Index × Build} (h : Move x src i b a s) :
    s.2.width = b.width := by
  cases h <;> rfl

/-- **Every build can be done.** -/
theorem exists_run_done (x : Extractor) (src : Source) (i : Index) (hwidth : 0 < b.width) :
    ∃ steps, (run x src (i, b) steps).2.isDone = true := by
  induction hn : b.work using Nat.strong_induction_on generalizing i b with
  | _ n ih =>
    cases hdone : b.isDone with
    | true => exact ⟨[], hdone⟩
    | false =>
      obtain ⟨a, s, hmove⟩ := exists_move x src i hwidth hdone
      obtain ⟨steps, hsteps⟩ := ih s.2.work (hn ▸ work_lt hmove) s.1
        (by rw [hmove.width_eq]; exact hwidth) rfl
      refine ⟨a :: steps, ?_⟩
      show (run x src (step x src (i, b) a) steps).2.isDone = true
      rw [hmove.step_eq]
      exact hsteps

theorem width_run (x : Extractor) (src : Source) (s : Index × Build) (steps : List Step) :
    (run x src s steps).2.width = s.2.width := by
  induction steps generalizing s with
  | nil => rfl
  | cons a steps ih =>
    refine (ih (step x src s a)).trans ?_
    obtain h | h := step_cases x src s.1 s.2 a
    · exact congrArg (fun s => s.2.width) h
    · exact h.width_eq

/-- **A build reads at any width what `Workspace.build` reads.** Whatever steps it
has taken, it can be done; and when it is, its index and its counts are those of
reading the documents one after the other. -/
theorem run_eq_build (w : Workspace) (src : Source) (width : Nat) (steps : List Step) :
    (∃ more, (run w.extractor src (w.index, start width src) (steps ++ more)).2.isDone = true)
      ∧ ((run w.extractor src (w.index, start width src) steps).2.isDone = true →
        (run w.extractor src (w.index, start width src) steps).1 = (w.build src).1.index
          ∧ (run w.extractor src (w.index, start width src) steps).2.counts = (w.build src).2) := by
  refine ⟨?_, ((fronted_start w.extractor src w.index width).run steps).eq_build⟩
  have hwidth : 0 < (run w.extractor src (w.index, start width src) steps).2.width := by
    rw [width_run]
    exact Nat.lt_of_lt_of_le Nat.zero_lt_one (Nat.le_max_right width 1)
  obtain ⟨more, hmore⟩ := exists_run_done w.extractor src
    (run w.extractor src (w.index, start width src) steps).1 hwidth
  refine ⟨more, ?_⟩
  unfold run at hmore ⊢
  rw [List.foldl_append]
  exact hmore

end Build

end PcdCatalog

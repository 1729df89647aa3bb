import Mathlib.Algebra.Group.Nat.Defs
import PcdCatalog.Config.Storage
import PcdCatalog.Proofs.DiskLaws
import PcdCatalog.Proofs.TomlDocument

/-!
# Saved configurations

A configuration that is saved is loaded as it was (`Config.load_save`). That takes
two things, which have nothing to do with each other.

The one is about texts. A configuration is written section by section and line by
line, and the layout of its sections (`IndexConfig.layout` and the like) says which
keys there are and which data. Data of that layout decode to the configuration,
field by field, so no ordinary value takes the place of one that was written: an
empty list is written as such, and only the pattern, whose ordinary value is none,
is left out when there is none. What cannot be written is a number of more than 63
bits (`Config.render?_isSome_iff`).

The other is about disks. Where a workspace has no directory of its own yet
(`Config.Vacant`), saving makes it and puts the file into it, and loading finds the
file there.
-/

namespace PcdCatalog

open Toml

/-! ## What is written -/

/-- The lines about the index. -/
def IndexConfig.lines (c : IndexConfig) (hreads : c.maxConcurrentReads < 0x8000000000000000)
    (hlimit : c.collisionLogLimit < 0x8000000000000000) : List Line :=
  [⟨"extensions", _, _, by decide, written_texts c.extensions⟩,
    ⟨"ignore_patterns", _, _, by decide, written_texts c.ignorePatterns⟩,
    ⟨"completion_mode", _, _, by decide, written_text c.completionMode.name⟩,
    ⟨"max_concurrent_reads", _, _, by decide, written_number hreads⟩,
    ⟨"collision_log_limit", _, _, by decide, written_number hlimit⟩]
  ++ (c.declarationPattern.map fun p =>
    ⟨"declaration_pattern", _, _, by decide, written_text p⟩).toList

/-- The section of the index. -/
def IndexConfig.layout (c : IndexConfig) (hreads : c.maxConcurrentReads < 0x8000000000000000)
    (hlimit : c.collisionLogLimit < 0x8000000000000000) : Section where
  name := "index"
  lines := c.lines hreads hlimit
  bare := by decide
  nodup := by
    unfold lines
    cases c.declarationPattern <;> simp

/-- The section of watching. -/
def WatchConfig.layout (c : WatchConfig) (hdebounce : c.debounce < 0x8000000000000000) :
    Section where
  name := "watcher"
  lines := [⟨"debounce_ms", _, _, by decide, written_number hdebounce⟩]
  bare := by decide
  nodup := by simp

/-- The lines about the log. -/
def LoggingConfig.lines (c : LoggingConfig) : List Line :=
  [⟨"enabled", _, _, by decide, written_bool c.enabled⟩,
    ⟨"stderr", _, _, by decide, written_bool c.stderr⟩,
    ⟨"level", _, _, by decide, written_text c.level⟩,
    ⟨"directory", _, _, by decide, written_text c.directory⟩,
    ⟨"file_prefix", _, _, by decide, written_text c.filePrefix⟩,
    ⟨"rotation", _, _, by decide, written_text c.rotation⟩]

/-- The section of the log. -/
def LoggingConfig.layout (c : LoggingConfig) : Section where
  name := "logging"
  lines := c.lines
  bare := by decide
  nodup := by simp [lines]

theorem IndexConfig.render?_eq (c : IndexConfig)
    (hreads : c.maxConcurrentReads < 0x8000000000000000)
    (hlimit : c.collisionLogLimit < 0x8000000000000000) :
    ∃ s, c.render? = some s ∧ s.toList = (c.layout hreads hlimit).text := by
  unfold IndexConfig.render? renderNumber?
  rw [if_pos hreads, if_pos hlimit]
  refine ⟨_, rfl, ?_⟩
  obtain ⟨extensions, ignored, mode, reads, limit, pattern⟩ := c
  cases pattern with
  | none => simp [layout, lines, Section.text, Line.text, headerLine]
  | some p => simp [layout, lines, Section.text, Line.text, headerLine]

theorem WatchConfig.render?_eq (c : WatchConfig) (hdebounce : c.debounce < 0x8000000000000000) :
    ∃ s, c.render? = some s ∧ s.toList = (c.layout hdebounce).text := by
  unfold WatchConfig.render? renderNumber?
  rw [if_pos hdebounce]
  exact ⟨_, rfl, by simp [layout, Section.text, Line.text, headerLine]⟩

theorem LoggingConfig.toList_render (c : LoggingConfig) : c.render.toList = c.layout.text := by
  have hheader : "[logging]\n".toList = headerLine "logging" := by decide
  unfold render
  rw [String.toList_append, String.toList_append, String.toList_append, String.toList_append,
    String.toList_append, String.toList_append, hheader]
  show _ = headerLine "logging" ++ c.lines.flatMap Line.text
  unfold lines
  simp only [List.flatMap_cons, List.flatMap_nil, List.append_nil, List.append_assoc]
  rfl

/-! ## What it says -/

theorem CompletionMode.ofName?_name (m : CompletionMode) : ofName? m.name = some m := by
  cases m <;> rfl

theorem Data.listOf?_map_text (ss : List String) :
    Data.listOf? Data.text? (.list (ss.map .text)) = some ss := by
  unfold Data.listOf?
  induction ss with
  | nil => rfl
  | cons s ss ih => simp [Data.text?, ih]

/-- A number of 63 bits is below the bound of every field. -/
theorem Data.natBelow?_number {n : Nat} (hn : n < 0x8000000000000000) :
    Data.natBelow? numberBound (.integer n) = some n :=
  if_pos (Nat.lt_trans hn (by decide))

theorem IndexConfig.ofData?_layout (c : IndexConfig)
    (hreads : c.maxConcurrentReads < 0x8000000000000000)
    (hlimit : c.collisionLogLimit < 0x8000000000000000) :
    ofData? .toml (c.layout hreads hlimit).field.2 = some c := by
  have hr := Data.natBelow?_number hreads
  have hl := Data.natBelow?_number hlimit
  obtain ⟨extensions, ignored, mode, reads, limit, pattern⟩ := c
  cases pattern with
  | none =>
    simp [IndexConfig.ofData?, layout, lines, Section.field, Line.field, Data.fields?, Data.field?,
      Data.orElse?, Data.listOf?_map_text, CompletionMode.ofData?, CompletionMode.ofName?_name, hr,
      hl]
  | some p =>
    simp [IndexConfig.ofData?, layout, lines, Section.field, Line.field, Data.fields?, Data.field?,
      Data.orElse?, Data.listOf?_map_text, CompletionMode.ofData?, CompletionMode.ofName?_name, hr,
      hl, Data.orNull?, Data.text?]

theorem WatchConfig.ofData?_layout (c : WatchConfig) (hdebounce : c.debounce < 0x8000000000000000) :
    ofData? .toml (c.layout hdebounce).field.2 = some c := by
  have hd := Data.natBelow?_number hdebounce
  simp [WatchConfig.ofData?, layout, Section.field, Line.field, Data.fields?, Data.field?,
    Data.orElse?, hd]

theorem LoggingConfig.ofData?_layout (c : LoggingConfig) :
    ofData? .toml c.layout.field.2 = some c := by
  simp [LoggingConfig.ofData?, layout, lines, Section.field, Line.field, Data.fields?, Data.field?,
    Data.orElse?, Data.bool?, Data.text?]

namespace Config

/-- A configuration whose numbers have 63 bits. -/
structure Renderable (c : Config) : Prop where
  reads : c.index.maxConcurrentReads < 0x8000000000000000
  limit : c.index.collisionLogLimit < 0x8000000000000000
  debounce : c.watcher.debounce < 0x8000000000000000

theorem renderable_iff {c : Config} :
    c.Renderable
      ↔ c.index.maxConcurrentReads ≤ 2 ^ 63 - 1 ∧ c.index.collisionLogLimit ≤ 2 ^ 63 - 1
        ∧ c.watcher.debounce ≤ 2 ^ 63 - 1 := by
  constructor
  · rintro ⟨hreads, hlimit, hdebounce⟩
    omega
  · rintro ⟨hreads, hlimit, hdebounce⟩
    exact ⟨by omega, by omega, by omega⟩

/-- **Only such a configuration can be written.** -/
theorem renderable_of_render? {c : Config} {s : String} (h : c.render? = some s) :
    c.Renderable := by
  have hnumber : ∀ {n : Nat} {t : String}, renderNumber? n = some t → n < 0x8000000000000000 := by
    intro n t hn
    unfold renderNumber? at hn
    split at hn
    next hlt => exact hlt
    next => exact absurd hn (by simp)
  unfold render? IndexConfig.render? WatchConfig.render? at h
  simp only [Option.bind_eq_bind, Option.bind_eq_some_iff] at h
  obtain ⟨index, ⟨reads, hreads, limit, hlimit, -⟩, watcher, ⟨debounce, hdebounce, -⟩, -⟩ := h
  exact ⟨hnumber hreads, hnumber hlimit, hnumber hdebounce⟩

/-- **Such a configuration is written**, and what is written is read back as it was:
every field, with every text and every list, and the pattern that is absent. -/
theorem Renderable.exists_render? {c : Config} (h : c.Renderable) :
    ∃ s, c.render? = some s ∧ parse? s = some c := by
  obtain ⟨index, hindex, hindexText⟩ := c.index.render?_eq h.reads h.limit
  obtain ⟨watcher, hwatcher, hwatcherText⟩ := c.watcher.render?_eq h.debounce
  refine ⟨index ++ "\n" ++ watcher ++ "\n" ++ c.logging.render, ?_, ?_⟩
  · unfold render?
    rw [hindex, hwatcher]
    rfl
  · have htext : (index ++ "\n" ++ watcher ++ "\n" ++ c.logging.render).toList
        = (c.index.layout h.reads h.limit).text
          ++ [c.watcher.layout h.debounce, c.logging.layout].flatMap fun t => '\n' :: t.text := by
      simp [hindexText, hwatcherText, c.logging.toList_render]
    have hnames : ([c.index.layout h.reads h.limit, c.watcher.layout h.debounce,
        c.logging.layout].map Section.name).Nodup := by
      show ["index", "watcher", "logging"].Nodup
      decide
    have hfields : Data.fields? Dialect.toml.exactLists ["index", "watcher", "logging"]
          (.record ([c.index.layout h.reads h.limit, c.watcher.layout h.debounce,
            c.logging.layout].map Section.field))
        = some [some (c.index.layout h.reads h.limit).field.2,
          some (c.watcher.layout h.debounce).field.2, some c.logging.layout.field.2] := rfl
    unfold parse?
    rw [parse?_sections _ _ hnames htext, Option.bind_some]
    unfold Config.ofData?
    simp only [hfields, Option.bind_eq_bind, Option.bind_some, Data.orElse?,
      c.index.ofData?_layout h.reads h.limit, c.watcher.ofData?_layout h.debounce,
      c.logging.ofData?_layout]
    rfl

/-- **A configuration is written exactly if its numbers have 63 bits.** -/
theorem render?_isSome_iff {c : Config} : c.render?.isSome = true ↔ c.Renderable := by
  constructor
  · intro h
    obtain ⟨s, hs⟩ := Option.isSome_iff_exists.1 h
    exact renderable_of_render? hs
  · intro h
    obtain ⟨s, hs, -⟩ := h.exists_render?
    exact Option.isSome_iff_exists.2 ⟨s, hs⟩

/-! ## Where it is kept -/

/-- **A root with nothing of its own in it yet**: it leads to a directory without the
entry for it, and its path leaves room for the names below. -/
structure Vacant (d : Disk) (cwd : Location) (root : Path) (base : Location) : Prop where
  tree : d.Tree
  resolves : d.resolve cwd root = .ok base
  isDirectory : d.isDirectoryAt base = true
  absent : d.at? (base ++ [".pcdindex"]) = none
  short : ¬ (file root).text.utf8ByteSize ≥ Disk.pathLimit

namespace Vacant

variable {d : Disk} {cwd base : Location} {root : Path}

/-- The disk with the directory made. -/
def made (d : Disk) (base : Location) : Disk := d.put (base ++ [".pcdindex"]) .directory

/-- The place of the directory. -/
theorem directorySlot (h : Vacant d cwd root base) : d.Slot cwd root base ".pcdindex" where
  resolves := h.resolves
  directory := h.isDirectory
  isName := by decide
  nonnull := by decide
  piece := by decide
  short := by
    have hle : (directory root).text.utf8ByteSize ≤ (file root).text.utf8ByteSize :=
      Disk.utf8ByteSize_le_join (by decide)
    exact fun hlong => h.short (Nat.le_trans hlong hle)

/-- The place of the file, once the directory is made. -/
theorem fileSlot (h : Vacant d cwd root base) :
    (made d base).Slot cwd (directory root) (base ++ [".pcdindex"]) "config.toml" := by
  have hmade : (made d base).at? (base ++ [".pcdindex"]) = some .directory := by
    rw [made, Disk.at?_put (by simp), if_pos rfl]
  have hslot : (made d base).Slot cwd root base ".pcdindex" :=
    h.directorySlot.extend (Disk.extends_put (by simp) h.absent)
  exact
    { resolves := hslot.resolve_eq hmade (by simp)
      directory := Disk.isDirectoryAt_iff.2 hmade
      isName := by decide
      nonnull := by decide
      piece := by decide
      short := h.short }

/-- Nothing is below a directory that was not there. -/
theorem file_absent (h : Vacant d cwd root base) :
    (made d base).at? (base ++ [".pcdindex"] ++ ["config.toml"]) = none := by
  have hbare : (made d base).Bare (base ++ [".pcdindex"]) :=
    (h.tree.bare_of_absent h.absent).put (by simp)
  exact hbare ["config.toml"] (by simp)

/-- The disk with the file in the directory. -/
def written (d : Disk) (base : Location) (text : String) : Disk :=
  (made d base).put (base ++ [".pcdindex"] ++ ["config.toml"]) (.file text.toUTF8)

/-- **Saving makes the directory**, and the file too if the configuration can be
written. -/
theorem save_eq (h : Vacant d cwd root base) (c : Config) :
    c.save d cwd root
      = match c.render? with
        | none => (made d base, .error .notRenderable)
        | some text => (written d base text, .ok ()) := by
  have hmade : d.makeDirectories cwd (directory root) = .ok (made d base) :=
    h.directorySlot.makeDirectories_eq h.absent
  have hwritten : ∀ text : String,
      (made d base).write cwd (file root) text.toUTF8 = .ok (written d base text) :=
    fun text => h.fileSlot.write_eq h.file_absent text.toUTF8
  unfold save
  rw [hmade]
  cases c.render? with
  | none => rfl
  | some text => simp only [hwritten]

/-- **Loading reads the file** that was saved. -/
theorem load_written (h : Vacant d cwd root base) {text : String} {c : Config}
    (htext : parse? text = some c) : load (written d base text) cwd root = .ok c := by
  have hat : (written d base text).at? (base ++ [".pcdindex"] ++ ["config.toml"])
      = some (.file text.toUTF8) := by
    rw [written, Disk.at?_put (by simp), if_pos rfl]
  have hslot : (written d base text).Slot cwd (directory root) (base ++ [".pcdindex"])
      "config.toml" := h.fileSlot.extend (Disk.extends_put (by simp) h.file_absent)
  have hresolve : (written d base text).resolve cwd (file root) = .ok _ :=
    hslot.resolve_eq hat (by simp)
  have hread : (written d base text).readText cwd (file root) = .ok text := hslot.readText_eq hat
  unfold load Disk.present
  rw [hresolve, hread]
  simp only [htext]
  rfl

end Vacant

/-- **A saved configuration is loaded as it was.** Below a root that has no
directory of its own yet, saving succeeds exactly if none of the three numbers has
more than 63 bits, and then loading gives back every field. -/
theorem load_save {d : Disk} {cwd base : Location} {root : Path} (h : Vacant d cwd root base)
    (c : Config) :
    ((c.save d cwd root).2 = .ok ()
        ↔ c.index.maxConcurrentReads ≤ 2 ^ 63 - 1 ∧ c.index.collisionLogLimit ≤ 2 ^ 63 - 1
          ∧ c.watcher.debounce ≤ 2 ^ 63 - 1)
      ∧ ((c.save d cwd root).2 = .ok () → load (c.save d cwd root).1 cwd root = .ok c) := by
  rw [h.save_eq, ← renderable_iff, ← render?_isSome_iff]
  cases hrender : c.render? with
  | none => simp
  | some text =>
    obtain ⟨text', hrender', hparse⟩ := (renderable_of_render? hrender).exists_render?
    obtain rfl : text = text' := Option.some.inj (hrender.symm.trans hrender')
    exact ⟨by simp, fun _ => h.load_written hparse⟩

/-- A root to which a link leads from elsewhere. -/
def linked : Disk where
  nodes :=
    { toList := [(["home"], .directory), (["home", "ws"], .directory), (["ws"], .link "home/ws")]
      ascending := by decide +kernel }

/-- A configuration with texts that need quoting, each in a way of its own, and with
the largest number that can be written. -/
def awkward : Config where
  index :=
    { extensions := []
      ignorePatterns := ["", "\"", "'", "\\", "'\"\\", "a\nb", "\r\n", "\t\x00\x7f", "é漢",
        "'''\"\"\"\n"]
      maxConcurrentReads := 2 ^ 63 - 1
      declarationPattern := some "^(?<name>\\w+)$" }
  logging := { level := "", directory := "a 'b' \"c\"\nd" }

theorem vacant_linked : Vacant linked [] ⟨"/ws/"⟩ ["home", "ws"] where
  tree := ⟨by decide +kernel, by decide +kernel⟩
  resolves := by
    have hpieces : Disk.pieces "/ws/" = ["ws", "."] ∧ Disk.pieces "home/ws" = ["home", "ws"] := by
      decide +kernel
    have hpiece : ∀ name ∈ ["ws", "home"], Disk.Piece name := by decide +kernel
    rw [Disk.resolve_eq_ok_iff, hpieces.1]
    refine ⟨by decide +kernel, .follow rfl (hpiece _ (by simp)) rfl ?_⟩
    rw [hpieces.2]
    exact .enter rfl (hpiece _ (by simp)) rfl (by simp)
      (.enter rfl (hpiece _ (by simp)) rfl (by simp) (.dot rfl (.done _ _)))
  isDirectory := rfl
  absent := rfl
  short := by decide +kernel

theorem load_save_awkward :
    Vacant linked [] ⟨"/ws/"⟩ ["home", "ws"]
      ∧ load (awkward.save linked [] ⟨"/ws/"⟩).1 [] ⟨"/ws/"⟩ = .ok awkward
      ∧ ({ awkward with watcher := ⟨2 ^ 63⟩ }.save linked [] ⟨"/ws/"⟩).2 ≠ .ok () := by
  refine ⟨vacant_linked, ?_, ?_⟩
  · have hsaved := load_save vacant_linked awkward
    exact hsaved.2 (hsaved.1.2 (by decide))
  · intro hok
    have hnumbers := (load_save vacant_linked { awkward with watcher := ⟨2 ^ 63⟩ }).1.1 hok
    exact absurd hnumbers (by decide)

end Config

end PcdCatalog

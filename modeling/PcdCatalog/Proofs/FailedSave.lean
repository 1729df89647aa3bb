import PcdCatalog.Proofs.MadeDirectories
import PcdCatalog.Proofs.SavedConfig
import PcdCatalog.Run

/-!
# Saves that fail

A configuration with a number of more than 63 bits cannot be written. Saving it finds
that out when the directory for it is made already, and the directory stays
(`Config.save_eq_notRenderable_iff`).

So a failed save leaves a trace, if a slight one. What was on the disk is there as before,
and only directories are new. They have no file in them, so what is loaded is what was
loaded before, the ordinary configuration. But the workspace counts as initialized from
then on, and setting it up is refused (`Config.failed_save_leaves_directory`). Only where it
was initialized to begin with is the disk the same.
-/

namespace PcdCatalog.Config

open Disk (Leads origin pieces named)

variable {d made : Disk} {cwd l : Location} {root : Path} {c : Config}

/-! ## The paths below a root -/

theorem named_directory (root : Path) :
    named (directory root).text = named root.text ++ [".pcdindex"] :=
  Disk.named_join (by decide)

theorem pieces_directory (root : Path) :
    pieces (directory root).text = named root.text ++ [".pcdindex"] :=
  Disk.pieces_join (by decide)

theorem origin_directory (cwd : Location) (root : Path) :
    origin cwd (directory root) = origin cwd root :=
  Disk.origin_join (by decide) cwd

theorem directory_nonempty (root : Path) : (directory root).text.isEmpty = false := by
  refine eq_false_of_ne_true fun hempty => ?_
  rw [String.isEmpty_iff] at hempty
  have hnamed := named_directory root
  have hnone : named "" = [] := by decide
  rw [hempty, hnone] at hnamed
  exact absurd hnamed (by simp)

/-- **A file of the configuration lies in a directory for it.** -/
theorem exists_resolve_directory (h : d.resolve cwd (file root) = .ok l) :
    ∃ base, d.resolve cwd (directory root) = .ok base
      ∧ Leads d Disk.linkLimit base ["config.toml"] l := by
  obtain ⟨hpath, hleads⟩ := Disk.resolve_eq_ok_iff.1 h
  have hname : Path.IsName "config.toml" := by decide
  rw [file, Disk.origin_join hname, Disk.pieces_join hname, named_directory,
    ← pieces_directory] at hleads
  obtain ⟨base, hfront, hback⟩ := hleads.split
  have hdirectory : Disk.Followable (directory root) :=
    hpath.of_join (by simpa using directory_nonempty root) hname
  exact ⟨base, Disk.resolve_eq_ok_iff.2 ⟨hdirectory, hfront⟩, hback⟩

theorem isInitialized_iff :
    isInitialized d cwd root = true ↔ ∃ l, d.resolve cwd (directory root) = .ok l :=
  Disk.present_iff

/-- Without a file the ordinary configuration holds. -/
theorem load_of_not_present (h : ¬ ∃ l, d.resolve cwd (file root) = .ok l) :
    load d cwd root = .ok {} := by
  unfold load
  rw [if_neg (mt Disk.present_iff.1 h)]

/-- So it does in a workspace that is not initialized. -/
theorem load_of_not_isInitialized (h : ¬ isInitialized d cwd root = true) :
    load d cwd root = .ok {} := by
  refine load_of_not_present ?_
  rintro ⟨l, hl⟩
  obtain ⟨base, hbase, -⟩ := exists_resolve_directory hl
  exact h (isInitialized_iff.2 ⟨base, hbase⟩)

/-- So it does where the directory is empty. -/
theorem load_of_bare {base : Location} (hbase : d.resolve cwd (directory root) = .ok base)
    (hbare : d.Bare base) : load d cwd root = .ok {} := by
  refine load_of_not_present ?_
  rintro ⟨l, hl⟩
  obtain ⟨base', hbase', hleads⟩ := exists_resolve_directory hl
  obtain rfl : base = base' := Except.ok.inj (hbase.symm.trans hbase')
  exact hbare.not_leads (by decide) hleads

/-! ## What a failed save leaves -/

/-- **When a save fails because the configuration cannot be written.** By then the
directory is made. -/
theorem save_eq_notRenderable_iff :
    c.save d cwd root = (made, .error .notRenderable)
      ↔ d.makeDirectories cwd (directory root) = .ok made ∧ ¬ c.Renderable := by
  rw [← render?_isSome_iff, Bool.not_eq_true, Option.isSome_eq_false_iff, Option.isNone_iff_eq_none]
  unfold save
  cases hmade : d.makeDirectories cwd (directory root) with
  | error fault => simp
  | ok made' =>
    cases c.render? with
    | none => simp
    | some text =>
      dsimp only
      split <;> simp

/-- **A root whose path does not go up** from where it leaves what is on the disk. Every
path that leads somewhere is one (`straight_of_resolve`), and so is every path without two
dots, by an empty `front`. -/
def Straight (d : Disk) (cwd : Location) (root : Path) : Prop :=
  ∃ front back mid, named root.text = front ++ back
    ∧ Leads d Disk.linkLimit (origin cwd root) front mid ∧ ".." ∉ back

theorem straight_of_resolve (h : d.resolve cwd root = .ok l) : Straight d cwd root := by
  obtain ⟨-, hleads⟩ := Disk.resolve_eq_ok_iff.1 h
  exact ⟨named root.text, [], l, by simp, hleads.of_pieces, by simp⟩

theorem isInitialized_of_makeDirectories
    (h : d.makeDirectories cwd (directory root) = .ok made) : isInitialized made cwd root = true :=
  isInitialized_iff.2 (Disk.of_makeDirectories (directory_nonempty root) h).2

theorem eq_iff_isInitialized (h : d.makeDirectories cwd (directory root) = .ok made) :
    made = d ↔ isInitialized d cwd root = true := by
  constructor
  · rintro rfl
    exact isInitialized_of_makeDirectories h
  · intro hinit
    obtain ⟨l, hl⟩ := isInitialized_iff.1 hinit
    exact Disk.eq_of_makeDirectories (directory_nonempty root) hl h

theorem load_of_makeDirectories (hd : d.Tree) (hroot : Straight d cwd root)
    (h : d.makeDirectories cwd (directory root) = .ok made) :
    load made cwd root = load d cwd root := by
  by_cases hinit : isInitialized d cwd root = true
  · rw [(eq_iff_isInitialized h).2 hinit]
  · obtain ⟨front, back, mid, hnamed, hfront, hup⟩ := hroot
    have hpieces : pieces (directory root).text = front ++ (back ++ [".pcdindex"]) := by
      rw [pieces_directory, hnamed, List.append_assoc]
    rw [← origin_directory] at hfront
    obtain hsame | ⟨base, hbase, hbare⟩ := Disk.eq_or_exists_bare_of_makeDirectories hd
      (directory_nonempty root) hpieces hfront (by simpa using hup) h
    · rw [hsame]
    · rw [load_of_not_isInitialized hinit, load_of_bare hbase hbare]

/-- Setting up is refused where the directory is. -/
theorem run_init_of_isInitialized {s : Surroundings}
    (h : isInitialized s.disk s.cwd s.root = true) :
    Command.run .init s = s.failed (.initialized (directory s.root)) := by
  unfold Command.run Command.runInit
  rw [if_pos h]

/-- **A failed save leaves the directory.** Saving a configuration that cannot be written
changes nothing that was on the disk and adds nothing but directories. It adds none exactly
if the workspace was initialized before. It is initialized after it in any case, and setting
it up is refused. What is loaded is the same, unless the path of the root goes up by two
dots from a directory that was made for it. -/
theorem failed_save_leaves_directory (hd : d.Tree)
    (h : c.save d cwd root = (made, .error .notRenderable)) :
    made.AddsDirectories d
      ∧ (made = d ↔ isInitialized d cwd root = true)
      ∧ isInitialized made cwd root = true
      ∧ (Straight d cwd root → load made cwd root = load d cwd root)
      ∧ ∀ s : Surroundings, s.disk = made → s.cwd = cwd → s.root = root →
          Command.run .init s = s.failed (.initialized (directory root)) := by
  obtain ⟨hmade, -⟩ := save_eq_notRenderable_iff.1 h
  have hinit := isInitialized_of_makeDirectories hmade
  refine ⟨Disk.addsDirectories_of_makeDirectories (directory_nonempty root) hmade,
    eq_iff_isInitialized hmade, hinit, fun hroot => load_of_makeDirectories hd hroot hmade, ?_⟩
  rintro s rfl rfl rfl
  exact run_init_of_isInitialized hinit

/-! ## Setting up after a failed save -/

/-- A workspace without its directory is not initialized. -/
theorem Vacant.isInitialized_eq_false {base : Location} (h : Vacant d cwd root base) :
    isInitialized d cwd root = false := by
  have hresolve : d.resolve cwd (directory root) = .error .notFound :=
    h.directorySlot.resolve_of_absent h.absent
  rw [← Bool.not_eq_true, isInitialized_iff, hresolve]
  simp

/-- A program in a workspace without its directory. -/
def atLinked : Surroundings := { disk := linked, cwd := ["home", "ws"], elapsed := "0.00" }

/-- The program in the same workspace with the directory made. -/
def atMade : Surroundings := { atLinked with disk := Vacant.made linked ["home", "ws"] }

/-- The ordinary configuration but for a number of 64 bits. -/
def patient : Config := { watcher := ⟨2 ^ 63⟩ }

theorem vacant_atLinked : Vacant atLinked.disk atLinked.cwd atLinked.root ["home", "ws"] where
  tree := vacant_linked.tree
  resolves := by
    have hroot : atLinked.root = ⟨"/home/ws"⟩ := by decide +kernel
    have hpieces : pieces "/home/ws" = ["home", "ws"] := by decide +kernel
    have hpiece : ∀ name ∈ ["home", "ws"], Disk.Piece name := by decide +kernel
    rw [Disk.resolve_eq_ok_iff, hroot, hpieces]
    exact ⟨by decide +kernel, .enter rfl (hpiece _ (by simp)) rfl (by simp)
      (.enter rfl (hpiece _ (by simp)) rfl (by simp) (.done _ _))⟩
  isDirectory := rfl
  absent := rfl
  short := by decide +kernel

theorem save_patient :
    patient.save atLinked.disk atLinked.cwd atLinked.root
      = (atMade.disk, .error .notRenderable) := by
  refine save_eq_notRenderable_iff.2 ⟨?_, fun h => absurd h.debounce (by decide)⟩
  exact vacant_atLinked.directorySlot.makeDirectories_eq vacant_atLinked.absent

theorem failed_save_leaves_directory_atLinked :
    atLinked.disk.Tree
      ∧ patient.save atLinked.disk atLinked.cwd atLinked.root
        = (atMade.disk, .error .notRenderable)
      ∧ atMade.disk ≠ atLinked.disk
      ∧ load atMade.disk atMade.cwd atMade.root = .ok {}
      ∧ Command.run .init atMade = atMade.failed (.initialized (directory atMade.root)) := by
  obtain ⟨-, hsame, -, hload, hrefused⟩ :=
    failed_save_leaves_directory vacant_atLinked.tree save_patient
  have hnew : ¬ isInitialized atLinked.disk atLinked.cwd atLinked.root = true := by
    rw [vacant_atLinked.isInitialized_eq_false]
    exact Bool.false_ne_true
  refine ⟨vacant_atLinked.tree, save_patient, mt hsame.1 hnew, ?_, hrefused atMade rfl rfl rfl⟩
  have hroot := straight_of_resolve vacant_atLinked.resolves
  exact (hload hroot).trans (load_of_not_isInitialized hnew)

/-- **A failed save stands in the way of setting up.** Before it the workspace is not
initialized and can be set up. After it neither holds any more. -/
theorem failed_save_prevents_init :
    (patient.save atLinked.disk atLinked.cwd atLinked.root).2 = .error .notRenderable
      ∧ isInitialized atLinked.disk atLinked.cwd atLinked.root = false
      ∧ (Command.run .init atLinked).failure = none
      ∧ (patient.save atLinked.disk atLinked.cwd atLinked.root).1 = atMade.disk
      ∧ isInitialized atMade.disk atMade.cwd atMade.root = true
      ∧ (Command.run .init atMade).failure = some (.initialized (directory atMade.root)) := by
  have hbefore := vacant_atLinked.isInitialized_eq_false
  have hafter : isInitialized atMade.disk atMade.cwd atMade.root = true :=
    isInitialized_of_makeDirectories (save_eq_notRenderable_iff.1 save_patient).1
  have hsetUp : (Command.run .init atLinked).failure = none := by
    obtain ⟨text, htext, -⟩ := Renderable.exists_render? (c := {})
      ⟨by decide, by decide, by decide⟩
    unfold Command.run Command.runInit
    rw [hbefore, if_neg Bool.false_ne_true, vacant_atLinked.save_eq, htext]
  rw [save_patient, run_init_of_isInitialized hafter]
  exact ⟨rfl, hbefore, hsetUp, rfl, hafter, rfl⟩

end PcdCatalog.Config

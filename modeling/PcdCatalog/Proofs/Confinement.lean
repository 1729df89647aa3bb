import PcdCatalog.Proofs.DiskLaws
import PcdCatalog.Server.Protocol

/-!
# Lookups tell nothing about files outside the root

Whoever asks for a definition by a cursor names the file as they please: by an
absolute path, with any number of steps up, through links, or in a neighbour of the
root whose name begins as that of the root does. Whether such a file may be read is
decided once the path has been followed to its end, by the place it leads to.

Where a path leads depends on the directories and the links of a disk and not on
what is in its files (`Disk.Outlined.resolve_eq`). So the decision is the same on two
disks that differ in nothing else, and where it is to read, the text comes from
below the root. A server can therefore not tell two disks apart that differ only in
files outside its root (`Server.answers_eq_of_alikeInside`): neither the definitions
it finds nor the faults it reports say anything about them.
-/

namespace PcdCatalog

/-! ## Outlines of disks -/

/-- What is at a place, with the contents of a file left out. -/
def Inode.outline : Inode → Inode
  | .file _ => .file .empty
  | node => node

namespace Inode

theorem outline_eq_directory {node : Inode} : node.outline = .directory ↔ node = .directory := by
  cases node <;> simp [outline]

theorem outline_eq_link {node : Inode} {target : String} :
    node.outline = .link target ↔ node = .link target := by
  cases node <;> simp [outline]

end Inode

namespace Disk

/-- **Two disks with one outline**: the same directories, the same links, and files
at the same places, whatever is in them. -/
def Outlined (d e : Disk) : Prop :=
  ∀ l, (d.at? l).map Inode.outline = (e.at? l).map Inode.outline

variable {d e : Disk}

theorem Outlined.at?_eq_none (h : d.Outlined e) {l : Location} (hd : d.at? l = none) :
    e.at? l = none := by
  have hl := h l
  rw [hd] at hl
  exact Option.map_eq_none_iff.1 hl.symm

theorem Outlined.at?_eq_some (h : d.Outlined e) {l : Location} {node : Inode}
    (hd : d.at? l = some node) : ∃ node', e.at? l = some node' ∧ node'.outline = node.outline := by
  have hl := h l
  rw [hd] at hl
  exact Option.map_eq_some_iff.1 hl.symm

theorem Outlined.symm (h : d.Outlined e) : e.Outlined d := fun l => (h l).symm

theorem Outlined.isDirectoryAt_eq (h : d.Outlined e) (l : Location) :
    d.isDirectoryAt l = e.isDirectoryAt l := by
  have hdir : ∀ {d e : Disk}, d.Outlined e → d.isDirectoryAt l = true →
      e.isDirectoryAt l = true := by
    intro d e h hd
    obtain ⟨node, hnode, houtline⟩ := h.at?_eq_some (isDirectoryAt_iff.1 hd)
    rw [isDirectoryAt_iff, hnode, Inode.outline_eq_directory.1 houtline]
  exact Bool.eq_iff_iff.2 ⟨hdir h, hdir h.symm⟩

/-- **Where a path leads is a matter of the outline.** -/
theorem Outlined.pursue_eq (h : d.Outlined e) (p : Pursuit) (links : Nat) (here : Location)
    (ps : List String) : d.pursue p links here ps = e.pursue p links here ps := by
  -- A link costs one of the links left, any other piece one of the pieces.
  induction links using Nat.strong_induction_on generalizing here ps with
  | _ links ihl =>
    induction ps generalizing here with
    | nil => rw [pursue, pursue]
    | cons piece rest ih =>
      rw [pursue, pursue]
      simp only [h.isDirectoryAt_eq, ih]
      cases hd : d.at? (here ++ [piece]) with
      | none => rw [h.at?_eq_none hd]
      | some node =>
        obtain ⟨node', he, houtline⟩ := h.at?_eq_some hd
        rw [he]
        cases node with
        | link target =>
          rw [Inode.outline_eq_link.1 houtline]
          cases links with
          | zero => rfl
          | succ links => simp only [ihl links (Nat.lt_succ_self links)]
        | directory => rw [Inode.outline_eq_directory.1 houtline]
        | file content =>
          cases node' with
          | file content' => rfl
          | link target => exact absurd houtline (by simp [Inode.outline])
          | directory => exact absurd houtline (by simp [Inode.outline])

theorem Outlined.resolve_eq (h : d.Outlined e) (cwd : Location) (path : Path) :
    d.resolve cwd path = e.resolve cwd path := by
  unfold resolve locate
  rw [h.pursue_eq]

/-- A file may be given other contents. -/
theorem outlined_put {l : Location} {content : ByteArray} (hl : l ≠ [])
    (h : d.at? l = some (.file content)) (other : ByteArray) :
    d.Outlined (d.put l (.file other)) := by
  intro k
  rw [at?_put hl]
  by_cases hk : k = l
  · rw [hk, h, if_pos rfl]
    rfl
  · rw [if_neg hk]

end Disk

/-! ## What a server reads -/

namespace Server

/-- **Another disk that differs from that of a server at most outside its root**: the
two have one outline, and below the place that the root leads to they are the
same. -/
structure AlikeInside (s : Server) (e : Disk) : Prop where
  outlined : s.disk.Outlined e
  inside : ∀ base, s.disk.resolve s.cwd s.root = .ok base →
    ∀ l, Location.isBelow l base = true → s.disk.at? l = e.at? l

variable {s : Server} {e : Disk}

/-- The steps in which the file of a cursor is read, from one to the next. -/
theorem consumer_eq (s : Server) (file : String) :
    s.consumer file =
      if (ConsumerKind.ofPath? (s.root.join ⟨file⟩)).isNone then .error (.notConsumer file)
      else match s.disk.resolve s.cwd (s.root.join ⟨file⟩), s.disk.resolve s.cwd s.root with
        | .error fault, _ => .error (.badPath file fault)
        | .ok _, .error fault => .error (.noRoot fault)
        | .ok place, .ok base =>
          if Location.isBelow place base then (s.disk.textAt place).mapError (.unreadable file)
          else .error (.outside file) := by
  simp only [consumer]
  split
  next => rfl
  next =>
    cases s.disk.resolve s.cwd (s.root.join ⟨file⟩) with
    | error fault => rfl
    | ok place =>
      cases s.disk.resolve s.cwd s.root with
      | error fault => rfl
      | ok base =>
        show (if (!Location.isBelow place base) = true then _ else _)
          = if Location.isBelow place base = true then _ else _
        cases Location.isBelow place base <;> rfl

/-- **The text of a file is read only below the root**, where the disks are the
same. -/
theorem AlikeInside.consumer_eq (h : s.AlikeInside e) (file : String) :
    { s with disk := e }.consumer file = s.consumer file := by
  rw [Server.consumer_eq, Server.consumer_eq]
  simp only [← h.outlined.resolve_eq]
  split
  next => rfl
  next =>
    split
    next => rfl
    next => rfl
    next place base hplace hroot =>
      split
      next hbelow =>
        unfold Disk.textAt Disk.bytesAt
        rw [h.inside base hroot place hbelow]
      next => rfl

theorem AlikeInside.findDefinition_eq (h : s.AlikeInside e) (q : DefinitionQuery) :
    { s with disk := e }.findDefinition q = s.findDefinition q := by
  unfold findDefinition
  rw [funext h.consumer_eq]

theorem AlikeInside.call_eq (h : s.AlikeInside e) (tool : String) (arguments : Data) :
    { s with disk := e }.call tool arguments = s.call tool arguments := by
  unfold call
  rw [funext h.findDefinition_eq]
  rfl


/-- **Nothing outside the root is told.** On two disks with the same directories and
links, which differ only in the contents of files that do not lie below the place of
the root, a server gives the same answers: to every query for a definition the same
text or the same fault, and to every message the same response. -/
theorem answers_eq_of_alikeInside (s : Server) (e : Disk) (h : s.AlikeInside e) :
    (∀ q, { s with disk := e }.findDefinition q = s.findDefinition q)
      ∧ ∀ message, { s with disk := e }.respond message = s.respond message := by
  refine ⟨h.findDefinition_eq, fun message => ?_⟩
  unfold respond answerCall
  simp only [h.call_eq]

/-- A server whose root has a link that leads out of it. Next to the root lies a
directory whose name goes on where that of the root ends. -/
def tempted : Server where
  workspace := default
  disk :=
    { nodes :=
      { toList := [(["ws"], .directory), (["ws", "main.c"], .file "PcdA".toUTF8),
          (["ws", "out.c"], .link "../wsx/key.c"), (["wsx"], .directory),
          (["wsx", "key.c"], .file "PcdA".toUTF8)]
        ascending := by decide +kernel } }
  cwd := []
  root := ⟨"/ws"⟩

/-- The file next to the root with something else in it. -/
def tampered : Disk := tempted.disk.put ["wsx", "key.c"] (.file "PcdB".toUTF8)

theorem resolve_tempted :
    tempted.disk.resolve [] ⟨"/ws"⟩ = .ok ["ws"]
      ∧ tempted.disk.resolve [] ⟨"/ws/main.c"⟩ = .ok ["ws", "main.c"]
      ∧ tempted.disk.resolve [] ⟨"/ws/out.c"⟩ = .ok ["wsx", "key.c"] := by
  have hpiece : ∀ name ∈ ["ws", "wsx", "main.c", "out.c", "key.c"], Disk.Piece name := by
    decide +kernel
  have hpieces : Disk.pieces "/ws" = ["ws"] ∧ Disk.pieces "/ws/main.c" = ["ws", "main.c"]
      ∧ Disk.pieces "/ws/out.c" = ["ws", "out.c"]
      ∧ Disk.pieces "../wsx/key.c" = ["..", "wsx", "key.c"] := by decide +kernel
  have hws : ∀ {links rest l}, Disk.Leads tempted.disk links ["ws"] rest l →
      Disk.Leads tempted.disk links [] ("ws" :: rest) l := by
    intro links rest l h
    exact .enter rfl (hpiece _ (by simp)) rfl (by simp) h
  refine ⟨?_, ?_, ?_⟩ <;> rw [Disk.resolve_eq_ok_iff]
  · refine ⟨by decide +kernel, ?_⟩
    rw [hpieces.1]
    exact hws (.done _ _)
  · refine ⟨by decide +kernel, ?_⟩
    rw [hpieces.2.1]
    exact hws (.enter rfl (hpiece _ (by simp)) rfl (by simp) (.done _ _))
  · refine ⟨by decide +kernel, ?_⟩
    rw [hpieces.2.2.1]
    refine hws (.follow rfl (hpiece _ (by simp)) rfl ?_)
    rw [hpieces.2.2.2]
    exact .up rfl (.enter rfl (hpiece _ (by simp)) rfl (by simp)
      (.enter rfl (hpiece _ (by simp)) rfl (by simp) (.done _ _)))

theorem answers_eq_of_alikeInside_tempted :
    tempted.AlikeInside tampered
      ∧ tempted.disk.textAt ["wsx", "key.c"] = .ok "PcdA"
      ∧ tampered.textAt ["wsx", "key.c"] = .ok "PcdB"
      ∧ tempted.consumer "main.c" = .ok "PcdA"
      ∧ tempted.consumer "out.c" = .error (.outside "out.c")
      ∧ ∀ q, { tempted with disk := tampered }.findDefinition q = tempted.findDefinition q := by
  obtain ⟨hroot, hmain, hout⟩ := resolve_tempted
  have halike : tempted.AlikeInside tampered := by
    refine ⟨Disk.outlined_put (by simp) rfl _, fun base hbase l hl => ?_⟩
    obtain rfl : ["ws"] = base := Except.ok.inj (hroot.symm.trans hbase)
    refine ((Disk.at?_put (by simp) _ l).trans (if_neg ?_)).symm
    rintro rfl
    exact absurd hl (by decide +kernel)
  have hjoin : tempted.root.join ⟨"main.c"⟩ = ⟨"/ws/main.c"⟩
      ∧ tempted.root.join ⟨"out.c"⟩ = ⟨"/ws/out.c"⟩ := by decide +kernel
  have hkind : (ConsumerKind.ofPath? ⟨"/ws/main.c"⟩).isNone = false
      ∧ (ConsumerKind.ofPath? ⟨"/ws/out.c"⟩).isNone = false := by decide +kernel
  refine ⟨halike, rfl, rfl, ?_, ?_, (answers_eq_of_alikeInside tempted tampered halike).1⟩
  · rw [consumer_eq, hjoin.1, hkind.1, show tempted.cwd = [] from rfl, hmain,
      show tempted.root = ⟨"/ws"⟩ from rfl, hroot]
    decide +kernel
  · rw [consumer_eq, hjoin.2, hkind.2, show tempted.cwd = [] from rfl, hout,
      show tempted.root = ⟨"/ws"⟩ from rfl, hroot]
    rfl

end Server

end PcdCatalog

import PcdCatalog.Config.Text
import PcdCatalog.Disk
import PcdCatalog.Text.Quoted

/-!
# Where a configuration is kept

The configuration of a workspace is a file in a directory of its own below the
root. A workspace counts as initialized as soon as that directory is there;
without the file the ordinary configuration holds.

Saving takes three steps: make the directory, write the configuration as a
text, write the file. The disk that a failed step leaves is an answer as well
(`Config.save`).
-/

namespace PcdCatalog

/-- Why a configuration cannot be loaded or saved. -/
inductive StorageFault where
  | unreadable (file : Path)
  | malformed (file : Path)
  | noDirectory (directory : Path)
  /-- A number is too large for the format. -/
  | notRenderable
  | unwritable (file : Path)
deriving DecidableEq, Inhabited

/-- The fault in words. -/
def StorageFault.message : StorageFault → String
  | unreadable file => "Failed to read config from " ++ Text.quoted file.text
  | malformed file => "Failed to parse config from " ++ Text.quoted file.text
  | noDirectory directory => "Failed to create config directory " ++ Text.quoted directory.text
  | notRenderable => "Failed to serialize config"
  | unwritable file => "Failed to write config to " ++ Text.quoted file.text

namespace Config

/-- The directory of what belongs to a workspace. -/
def directory (root : Path) : Path := root.join ⟨".pcdindex"⟩

/-- The file of the configuration. -/
def file (root : Path) : Path := (directory root).join ⟨"config.toml"⟩

/-- Whether a workspace has been set up. -/
def isInitialized (d : Disk) (cwd : Location) (root : Path) : Bool :=
  d.present cwd (directory root)

/-- **The configuration of a workspace**, the ordinary one if there is no file. -/
def load (d : Disk) (cwd : Location) (root : Path) : Except StorageFault Config :=
  if d.present cwd (file root) then
    match d.readText cwd (file root) with
    | .error _ => .error (.unreadable (file root))
    | .ok text =>
      match parse? text with
      | none => .error (.malformed (file root))
      | some c => .ok c
  else .ok {}

/-- **Save a configuration.** What was done before a step failed stays done. -/
def save (c : Config) (d : Disk) (cwd : Location) (root : Path) : Disk × Except StorageFault Unit :=
  match d.makeDirectories cwd (directory root) with
  | .error _ => (d, .error (.noDirectory (directory root)))
  | .ok made =>
    match c.render? with
    | none => (made, .error .notRenderable)
    | some text =>
      match made.write cwd (file root) text.toUTF8 with
      | .error _ => (made, .error (.unwritable (file root)))
      | .ok written => (written, .ok ())

end Config

end PcdCatalog

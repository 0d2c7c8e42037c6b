import Handover.Environment
import Handover.Error

/-! # The base directory

The private directory is made under a base directory: the runtime directory of the environment, else its directory for
temporary files, else `/tmp`. A variable that is set but empty counts as unset. A relative base is anchored in the
current directory, so a resolved base is absolute.
-/
namespace Handover

def runtimeDirVariable : Bytes := Bytes.ofString "XDG_RUNTIME_DIR"

def tempDirVariable : Bytes := Bytes.ofString "TMPDIR"

def defaultBase : Path := Path.ofString "/tmp"

/-- What is replaced by characters that make the name of a new directory unique. -/
def templateSuffix : Bytes := Bytes.ofString "XXXXXX"

inductive BaseSource where
  | runtimeDir | tempDir | builtin
deriving DecidableEq, Repr

def BaseSource.text : BaseSource → String
  | .runtimeDir => "XDG_RUNTIME_DIR"
  | .tempDir => "TMPDIR"
  | .builtin => "default"

structure Config where
  baseDir : Path
  source : BaseSource
deriving DecidableEq, Repr

namespace Config

def nonEmpty (e : Environment) (key : Bytes) : Option Bytes := (e key).filter fun value => decide (value ≠ [])

/-- The base as the environment gives it, and where it came from. -/
def select (e : Environment) : Path × BaseSource :=
  match nonEmpty e runtimeDirVariable, nonEmpty e tempDirVariable with
  | some dir, _ => (⟨dir⟩, .runtimeDir)
  | none, some dir => (⟨dir⟩, .tempDir)
  | none, none => (defaultBase, .builtin)

def anchor (currentDir : Except IoError Path) (base : Path) : Except Error Path :=
  if base.isAbsolute then .ok base
  else match currentDir with
    | .ok dir => .ok (dir.join base.bytes)
    | .error cause => .error (.resolveBase cause)

def resolve (e : Environment) (currentDir : Except IoError Path) : Except Error Config :=
  (anchor currentDir (select e).1).map fun dir => ⟨dir, (select e).2⟩

/-- Takes `base` for the runtime directory, whatever the environment. -/
def ofBase (base : Path) (currentDir : Except IoError Path) : Except Error Config :=
  resolve (Environment.empty.set runtimeDirVariable base.bytes) currentDir

def template (c : Config) : Path := c.baseDir.join templateSuffix

end Config

end Handover

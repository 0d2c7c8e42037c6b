import Handover.Config

/-! # Launch settings

How a consumer launches its helper: which program, under which base directory, with which variables beside those it
inherits. The base directory is handed over as the runtime directory and beats every variable of that name, and every
text that the helper could take for it.
-/
namespace Handover

/-- Looked up in the search path, as it has no slash. -/
def defaultProgram : Path := Path.ofString "socket-binder"

structure Launch where
  program : Path
  baseDir : Option Path
  bindings : List (Bytes × Bytes)
deriving DecidableEq, Repr

namespace Launch

def default : Launch := ⟨defaultProgram, none, []⟩

def withProgram (l : Launch) (program : Path) : Launch := { l with program := program }

def withBaseDir (l : Launch) (dir : Path) : Launch := { l with baseDir := some dir }

/-- A later value of the same variable wins. -/
def withVariable (l : Launch) (key value : Bytes) : Launch := { l with bindings := l.bindings ++ [(key, value)] }

def handed (l : Launch) (parent : Environment) : Environment :=
  let e := parent.setAll l.bindings
  match l.baseDir with
  | some dir => e.set runtimeDirVariable dir.bytes
  | none => e

/-- What the helper finds in its environment. -/
def environment (l : Launch) (parent : Environment) : Environment :=
  (l.handed parent).handedOver (l.bindings.map Prod.fst)

def holdsNul (l : Launch) : Bool :=
  decide (Bytes.nul ∈ l.program.bytes) || l.bindings.any (fun (k, v) => decide (Bytes.nul ∈ k ∨ Bytes.nul ∈ v)) ||
    (l.baseDir.map fun dir => decide (Bytes.nul ∈ dir.bytes)).getD false

theorem handed_runtimeDir {l : Launch} {dir : Path} (h : l.baseDir = some dir) (parent : Environment) :
    l.handed parent runtimeDirVariable = some dir.bytes := by
  simp [handed, h]

theorem handed_other (l : Launch) (parent : Environment) {k : Bytes} (h : k ≠ runtimeDirVariable) :
    l.handed parent k = parent.setAll l.bindings k := by
  unfold handed
  cases l.baseDir with
  | none => rfl
  | some dir => exact Environment.set_other _ _ h

end Launch

end Handover

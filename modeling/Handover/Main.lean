import Handover.Host.Rehearsal
import Handover.LogFilter

/-! # The command line

Rehearses a handover with the variables and the current directory of the caller. The announcement goes to the standard
output, logs and the report of a failure to the standard error, and the exit code is that of the helper.
-/
namespace Handover

def lookedAt : List Bytes := [runtimeDirVariable, tempDirVariable, LogFilter.variableName]

def readVariable (key : Bytes) : IO (Option (Bytes × Bytes)) := do
  return (← IO.getEnv (Text.lossy key)).map fun value => (key, Bytes.ofString value)

def writeAll (stream : IO.FS.Stream) (bytes : Bytes) : IO Unit := do
  stream.write ⟨bytes.toArray⟩
  stream.flush

/-- Rehearses with the settings of the caller. -/
def rehearseHere : IO UInt32 := do
  let bindings ← lookedAt.filterMapM readVariable
  let currentDir := Path.ofString (← IO.currentDir).toString
  let rehearsal := Host.rehearse (Environment.empty.setAll bindings) currentDir
  writeAll (← IO.getStdout) rehearsal.output
  writeAll (← IO.getStderr) rehearsal.errors
  return UInt32.ofNat (rehearsal.status.code?.getD 1)

end Handover

def main : IO UInt32 := Handover.rehearseHere

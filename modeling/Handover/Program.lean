import Handover.Report
import Handover.Session

/-! # The helper program

The program resolves its base directory from the environment, sets up the meeting place, announces it and serves one
consumer. Each phase that fails ends the program with a report that says which phase it was. `start` goes as far as the
announcement, after which the program waits; `finish` is the rest.
-/
namespace Handover.Program

variable {σ α : Type}

abbrev Phase (σ : Type) := EStateM Report σ

/-- The report of a failure names the phase. -/
def phase (context : String) (action : Action σ α) : Phase σ α := fun s =>
  match action s with
  | .ok a s => .ok a s
  | .error e s => .error (Report.ofError context e) s

def resolve (P : Platform σ) (e : Environment) (currentDir : Except IoError Path) : Action σ Config := do
  let base := (Config.select e).1
  unless base.isAbsolute do P.log (.anchoring base)
  Action.ofExcept (Config.resolve e currentDir)

def start (P : Platform σ) (e : Environment) (currentDir : Except IoError Path) : Phase σ Session := do
  let config ← phase "Failed to resolve base directory" (resolve P e currentDir)
  phase "Failed to resolve base directory" (P.log (.starting config.baseDir config.source))
  let session ← phase "Failed to set up private directory and listeners" (P.establish config)
  let _ ← phase "Failed to publish socket paths" (P.holding session.handles (P.publish session))
  return session

def finish (P : Platform σ) (session : Session) : Phase σ Transfer.State :=
  phase "Failed to hand over data socket" (P.serve session)

/-- The whole program, if a consumer comes at all. -/
def run (P : Platform σ) (e : Environment) (currentDir : Except IoError Path) : Phase σ Transfer.State := do
  finish P (← start P e currentDir)

def errorText (r : Report) : String := "Error: " ++ r.text ++ "\n"

end Handover.Program

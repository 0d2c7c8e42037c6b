import Handover.Host.Platform
import Handover.Program

/-! # Helpers at work

A helper that has announced its sockets waits. As soon as a consumer has connected it hands over and ends, before
anybody else gets to act.
-/
namespace Handover.Host

def fail (pid : Nat) (report : Report) (m : Machine) : Machine :=
  (run (Kernel.write pid standardError (Bytes.ofString (Program.errorText report))) m).finish pid (.exited 1)

def serve (pid : Nat) (session : Session) (m : Machine) : Machine :=
  match Program.finish (platform pid) session m with
  | .ok _ m => m.finish pid (.exited 0)
  | .error report m => fail pid report m

def advanceProcess (m : Machine) (pid : Nat) : Machine :=
  match (m.process? pid).map Process.task with
  | some (.serving session) => if Kernel.isReady m pid session.pass.handle then serve pid session m else m
  | _ => m

/-- Lets every helper go on as far as it can without waiting. -/
def advance (m : Machine) : Machine := (m.processes.map Process.id).foldl advanceProcess m

end Handover.Host

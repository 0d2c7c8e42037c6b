import Handover.Host.Shell.Execution

/-! # Shell scripts

A script is run as a whole when it is started, as nothing it looks at changes while it pauses. What is kept is when it
printed something and when it paused, how it ended, and what it did to files.
-/
namespace Handover.Host.Shell

/-- Commands in more than this many others are not run. -/
def maxDepth : Nat := 1000

structure Run where
  beats : List Beat
  ending : WaitStatus
  tree : FileTree

/-- The run of a script as a process. A script that comes to its end exits with the status of its last command. -/
def run (process : Nat) (name : Bytes) (view : FileTree.View) (tree : FileTree) (e : Environment) (script : String) : Run :=
  let runner := Execution.runUpTo maxDepth
  let s := Execution.concluded runner (Execution.ofScript runner false script (State.begin process name view tree e))
  let ending := match s.flow with
    | .ended status => status
    | _ => .exited s.status
  ⟨s.closeOutput.beats.reverse, ending, s.tree⟩

end Handover.Host.Shell

import Handover.Consumer.Connection
import Handover.Host.Layout

/-! # Rehearsals

A rehearsal runs the helper on a fresh host, in the environment and directory of a real one, and lets a consumer take
over the listener at once.
-/
namespace Handover.Host

structure Rehearsal where
  output : Bytes
  errors : Bytes
  status : WaitStatus
deriving Repr

/-- A fresh host with a directory to make private directories in. -/
def Machine.prepared (e : Environment) (currentDir : Path) : Machine :=
  let base := match Config.resolve e (.ok currentDir) with
    | .ok config => config.baseDir
    | .error _ => currentDir
  [currentDir, base].foldl (fun m dir => run (Kernel.makePath Layout.user dir) m)
    (Machine.fresh Environment.empty)

def rehearse (e : Environment) (currentDir : Path) : Rehearsal :=
  let m := Machine.prepared e currentDir
  let dir := match m.tree.locate (m.view Layout.user) currentDir with
    | .ok inode => inode
    | .error _ => FileTree.root
  let (recorded, m) := startHelper m e dir
  let m := match Announcement.ofBytes (content m recorded.output) with
    | .error _ => m
    | .ok announcement => match Consumer.receiveListener Layout.user announcement m with
      | .ok _ m | .error _ m => m
  ⟨content m recorded.output, content m recorded.errors, (status? m recorded.process).getD (.exited 1)⟩

end Handover.Host

import Handover.Environment
import Handover.Host.FileTree

/-! # Finding programs

A program with a slash in its name is a path; any other is looked for in a list of directories.
-/
namespace Handover.Host.ProgramSearch

def variableName : Bytes := Bytes.ofString "PATH"

def standardPath : Bytes := Bytes.ofString "/bin:/usr/bin"

def directories (e : Environment) : List Path :=
  (((e variableName).getD standardPath).splitOn 58).map fun dir => ⟨if dir = [] then [Bytes.dot] else dir⟩

def executable (t : FileTree) (view : FileTree.View) (path : Path) : Except Errno Executable := do
  let inode ← t.locate view path
  match t.node? inode with
  | some (.file _ (some run)) => .ok run
  | _ => .error .permissionDenied

def isMiss (cause : Errno) : Bool := [Errno.noEntry, .notDirectory, .permissionDenied].contains cause

/-- The first of several programs that can be run, after the cause of the last miss. One that was there but could not be
run outweighs later misses. -/
def firstRunnable (missed : Errno) : List (Except Errno Executable) → Except Errno Executable
  | [] => .error missed
  | .ok run :: _ => .ok run
  | .error cause :: rest =>
    if isMiss cause then firstRunnable (if missed = .permissionDenied then missed else cause) rest else .error cause

def findIn (t : FileTree) (view : FileTree.View) (directories : List Path) (program : Path) : Except Errno Executable :=
  if program.bytes = [] then .error .noEntry
  else if Bytes.slash ∈ program.bytes then executable t view program
  else firstRunnable .noEntry (directories.map fun dir => executable t view (dir.join program.bytes))

def find (t : FileTree) (view : FileTree.View) (e : Environment) (program : Path) : Except Errno Executable :=
  findIn t view (directories e) program

end Handover.Host.ProgramSearch

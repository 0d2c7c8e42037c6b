import Handover.Host.DescriptorTable

/-! # File trees

Directories, files, socket entries and devices under numbered inodes. A path is looked up from a starting directory name
by name. Whoever has a removed directory still open can leave it upward, but finds nothing in it and makes nothing there.
-/
namespace Handover.Host

inductive Executable where
  /-- A shell script, without its first line. -/
  | script (text : String)
  | helper
  | utility (name : String)
deriving DecidableEq, Repr

inductive Node where
  | directory (parent : Nat) (entries : List (Bytes × Nat)) (removed : Bool)
  | file (content : Bytes) (run : Option Executable)
  | socket
  | device (device : Device)
deriving DecidableEq, Repr

structure FileTree where
  nodes : List (Nat × Node)
  next : Nat
deriving Repr

namespace FileTree

def root : Nat := 0

def empty : FileTree := ⟨[(root, .directory root [] false)], root + 1⟩

def node? (t : FileTree) (inode : Nat) : Option Node := t.nodes.lookup inode

def setNode (t : FileTree) (inode : Nat) (node : Node) : FileTree :=
  { t with nodes := t.nodes.map fun (i, old) => (i, if i = inode then node else old) }

def add (t : FileTree) (node : Node) : Nat × FileTree := (t.next, ⟨t.nodes ++ [(t.next, node)], t.next + 1⟩)

def isDirectory (t : FileTree) (inode : Nat) : Bool :=
  match t.node? inode with
  | some (.directory _ _ _) => true
  | _ => false

def upward : Bytes := [Bytes.dot, Bytes.dot]

def maxName : Nat := 255

def maxPath : Nat := 4096

/-- What a directory has under a name, which is neither `.` nor `..`. -/
def entry? (t : FileTree) (dir : Nat) (name : Bytes) : Except Errno (Option Nat) :=
  match t.node? dir with
  | some (.directory _ entries removed) =>
    if removed then .error .noEntry
    else if maxName < name.length then .error .nameTooLong
    else .ok (entries.lookup name)
  | some _ => .error .notDirectory
  | none => .error .noEntry

def entry (t : FileTree) (dir : Nat) (name : Bytes) : Except Errno Nat := do
  match ← t.entry? dir name with
  | some inode => .ok inode
  | none => .error .noEntry

def child (t : FileTree) (dir : Nat) (name : Bytes) : Except Errno Nat :=
  match t.node? dir with
  | some (.directory parent _ _) =>
    if name = [Bytes.dot] then .ok dir
    else if name = upward then .ok parent
    else t.entry dir name
  | some _ => .error .notDirectory
  | none => .error .noEntry

def walk (t : FileTree) (start : Nat) (names : List Bytes) : Except Errno Nat := names.foldlM t.child start

/-- Where a process stands: its current directory and what its descriptors refer to. -/
structure View where
  currentDir : Nat
  descriptors : DescriptorTable

/-- A path split into its names, and where their lookup starts. -/
structure Route where
  start : Nat
  names : List Bytes
  /-- Whether a slash at the end asks for a directory. -/
  directoryOnly : Bool

def descriptorNames : List Bytes := [Bytes.ofString "proc", Bytes.ofString "self", Bytes.ofString "fd"]

/-- The inode behind the link that stands for an open descriptor. -/
def linkTarget (view : View) (name : Bytes) : Except Errno Nat :=
  match view.descriptors.slots.find? fun slot => decide (Bytes.ofString (Text.decimal slot.descriptor) = name) with
  | none => .error .noEntry
  | some slot => match slot.object with
    | .directory inode | .file inode => .ok inode
    | .device _ | .socket _ => .error .notDirectory

def route (view : View) (path : Path) : Except Errno Route :=
  let bytes := path.bytes
  let names := (Path.segments bytes).filter (· ≠ [])
  let directoryOnly := decide (bytes.getLast? = some Bytes.slash)
  if bytes = [] then .error .noEntry
  else if maxPath ≤ bytes.length then .error .nameTooLong
  else if path.isAbsolute && decide (names.take 3 = descriptorNames) then
    match names.drop 3 with
    | name :: rest => (linkTarget view name).map fun start => ⟨start, rest, directoryOnly⟩
    | [] => .ok ⟨root, names, directoryOnly⟩
  else .ok ⟨if path.isAbsolute then root else view.currentDir, names, directoryOnly⟩

def locate (t : FileTree) (view : View) (path : Path) : Except Errno Nat := do
  let route ← route view path
  let inode ← t.walk route.start route.names
  if route.directoryOnly && !t.isDirectory inode then .error .notDirectory else .ok inode

/-- The last step of a path: a name in a directory, or a way of naming the directory itself, its parent or the root. -/
inductive Final where
  | entry (dir : Nat) (name : Bytes) (directoryOnly : Bool)
  | special (name : Bytes)
deriving DecidableEq, Repr

def final (t : FileTree) (view : View) (path : Path) : Except Errno Final := do
  let route ← route view path
  match route.names.getLast? with
  | none => .ok (.special [])
  | some name =>
    let dir ← t.walk route.start route.names.dropLast
    if !t.isDirectory dir then .error .notDirectory
    else if name = [Bytes.dot] ∨ name = upward then .ok (.special name)
    else .ok (.entry dir name route.directoryOnly)

def entries (t : FileTree) (dir : Nat) : List (Bytes × Nat) :=
  match t.node? dir with
  | some (.directory _ entries _) => entries
  | _ => []

def list (t : FileTree) (view : View) (path : Path) : Except Errno (List (Bytes × Node)) := do
  let inode ← t.locate view path
  if !t.isDirectory inode then .error .notDirectory
  else .ok ((t.entries inode).filterMap fun entry => (t.node? entry.2).map fun node => (entry.1, node))

/-- The absolute path of a directory, found by climbing; `fuel` bounds the climb. -/
def climb (t : FileTree) : Nat → Nat → Option Bytes
  | 0, _ => none
  | fuel + 1, dir =>
    if dir = root then some []
    else match t.node? dir with
      | some (.directory parent _ _) => do
        let entry ← (t.entries parent).find? fun entry => decide (entry.2 = dir)
        return (← t.climb fuel parent) ++ Bytes.slash :: entry.1
      | _ => none

def pathOf (t : FileTree) (dir : Nat) : Option Path :=
  (t.climb (t.nodes.length + 1) dir).map fun bytes => ⟨if bytes = [] then [Bytes.slash] else bytes⟩

end FileTree

end Handover.Host

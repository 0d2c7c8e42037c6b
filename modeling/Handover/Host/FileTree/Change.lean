import Handover.Host.FileTree

/-! # Changes of a file tree

A single change happens as a whole or not at all. Work on whole trees takes several steps; it stops at the first that
fails, and keeps what the earlier ones have done.
-/
namespace Handover.Host.FileTree

def setEntries (t : FileTree) (dir : Nat) (entries : List (Bytes × Nat)) : FileTree :=
  match t.node? dir with
  | some (.directory parent _ removed) => t.setNode dir (.directory parent entries removed)
  | _ => t

def setParent (t : FileTree) (inode parent : Nat) : FileTree :=
  match t.node? inode with
  | some (.directory _ entries removed) => t.setNode inode (.directory parent entries removed)
  | _ => t

def setRemoved (t : FileTree) (inode : Nat) : FileTree :=
  match t.node? inode with
  | some (.directory parent entries _) => t.setNode inode (.directory parent entries true)
  | _ => t

def link (t : FileTree) (dir : Nat) (name : Bytes) (inode : Nat) : FileTree :=
  t.setEntries dir (t.entries dir ++ [(name, inode)])

def unlink (t : FileTree) (dir : Nat) (name : Bytes) : FileTree :=
  t.setEntries dir ((t.entries dir).filter fun entry => decide (entry.1 ≠ name))

def insert (t : FileTree) (dir : Nat) (name : Bytes) (node : Node) : Nat × FileTree :=
  let (inode, t) := t.add node
  (inode, t.link dir name inode)

def newDirectory (parent : Nat) : Node := .directory parent [] false

/-! ## Single changes -/

/-- Makes a new entry where there is none yet; only a directory may be asked for with a slash at the end. -/
def create (view : View) (path : Path) (node : Nat → Node) (t : FileTree) : Except Errno (Nat × FileTree) := do
  match ← t.final view path with
  | .special _ => .error .alreadyExists
  | .entry dir name directoryOnly =>
    match ← t.entry? dir name with
    | some _ => .error .alreadyExists
    | none =>
      if directoryOnly && !(node dir matches .directory _ _ _) then .error .noEntry
      else .ok (t.insert dir name (node dir))

/-- The inode of a file that is opened for writing: emptied if it is there, made otherwise. A path that ends in a slash
asks for a directory, whatever it leads to. -/
def openForWriting (view : View) (path : Path) (t : FileTree) : Except Errno (Nat × FileTree) := do
  match ← t.final view path with
  | .special _ => .error .isDirectory
  | .entry dir name directoryOnly =>
    if directoryOnly then .error .isDirectory
    else match ← t.entry? dir name with
      | none => .ok (t.insert dir name (.file [] none))
      | some inode => match t.node? inode with
        | some (.file _ run) => .ok (inode, t.setNode inode (.file [] run))
        | some (.device _) => .ok (inode, t)
        | some .socket => .error .noDevice
        | _ => .error .isDirectory

def removeEntry (view : View) (path : Path) (t : FileTree) : Except Errno FileTree := do
  match ← t.final view path with
  | .special _ => .error .isDirectory
  | .entry dir name directoryOnly =>
    let inode ← t.entry dir name
    if t.isDirectory inode then .error .isDirectory
    else if directoryOnly then .error .notDirectory
    else .ok (t.unlink dir name)

def removeDirectory (view : View) (path : Path) (t : FileTree) : Except Errno FileTree := do
  match ← t.final view path with
  | .special name => .error (if name = [Bytes.dot] then .invalid else if name = upward then .notEmpty else .busy)
  | .entry dir name _ =>
    let inode ← t.entry dir name
    if !t.isDirectory inode then .error .notDirectory
    else if !(t.entries inode).isEmpty then .error .notEmpty
    else .ok ((t.unlink dir name).setRemoved inode)

/-- Whether `inode` is `dir` or stands above it; `fuel` bounds the climb to the root. -/
def isAbove (t : FileTree) (inode : Nat) : Nat → Nat → Bool
  | 0, _ => false
  | fuel + 1, dir =>
    if dir = inode then true
    else match t.node? dir with
      | some (.directory parent _ _) => decide (dir ≠ parent) && isAbove t inode fuel parent
      | _ => false

/-- Whether an entry may take the place of another: one of its own kind, and of a directory only an empty one. -/
def checkReplaced (t : FileTree) (inode old : Nat) : Except Errno Unit :=
  if t.isDirectory inode then
    if !t.isDirectory old then .error .notDirectory
    else if (t.entries old).isEmpty then .ok ()
    else .error .notEmpty
  else if t.isDirectory old then .error .isDirectory
  else .ok ()

/-- Moves an entry. It goes neither below itself nor in place of a directory that it is in. -/
def rename (view : View) (source target : Path) (t : FileTree) : Except Errno FileTree := do
  match ← t.final view source, ← t.final view target with
  | .entry dir name slash, .entry newDir newName newSlash =>
    let inode ← t.entry dir name
    let replaced ← t.entry? newDir newName
    let depth := t.nodes.length
    if (slash || newSlash) && !t.isDirectory inode then .error .notDirectory
    else if t.isAbove inode depth newDir then .error .invalid
    else if replaced.any fun old => t.isAbove old depth dir then .error .notEmpty
    else if replaced = some inode then .ok t
    else
      if let some old := replaced then t.checkReplaced inode old
      let t := replaced.elim t t.setRemoved
      .ok ((((t.unlink dir name).unlink newDir newName).link newDir newName inode).setParent inode newDir)
  | _, _ => .error .busy

/-! ## Whole trees -/

abbrev Change := EStateM Errno FileTree

def Change.ofExcept {α : Type} (f : FileTree → Except Errno (α × FileTree)) : Change α := fun t =>
  match f t with
  | .ok (a, t) => .ok a t
  | .error cause => .error cause t

def Change.ofUpdate (f : FileTree → Except Errno FileTree) : Change Unit :=
  Change.ofExcept fun t => (f t).map fun t => ((), t)

/-- Empties a directory and removes the directories below it; `fuel` bounds the depth. -/
def clear (t : FileTree) : Nat → Nat → FileTree
  | 0, _ => t
  | fuel + 1, inode =>
    ((t.entries inode).foldl (fun t entry => (clear t fuel entry.2).setRemoved entry.2) t).setEntries inode []

/-- Removes an entry with everything below it. A directory is emptied before it is removed itself, and no harm is done
if its path leads nowhere after that. -/
def removeAll (view : View) (path : Path) : Change Unit := do
  let t ← get
  let inode ← ofExcept (t.locate view path)
  if t.isDirectory inode then
    set (t.clear t.nodes.length inode)
    match removeDirectory view path (← get) with
    | .ok t => set t
    | .error cause => if cause ≠ .noEntry then throw cause
  else Change.ofUpdate (removeEntry view path)

def isDirectoryAt (t : FileTree) (view : View) (path : Path) : Bool :=
  match t.locate view path with
  | .ok inode => t.isDirectory inode
  | .error _ => false

def ensureDirectory (view : View) (path : Path) : Change Unit := fun t =>
  match create view path newDirectory t with
  | .ok (_, t) => .ok () t
  | .error cause => if t.isDirectoryAt view path then .ok () t else .error cause t

/-- Makes the first of several paths a directory, of which each has the next one for its parent. Only where an entry is
missing on the way are the parents made. -/
def ensureChain (view : View) : List Path → Change Unit
  | [] => return
  | path :: above => do
    try ensureDirectory view path
    catch cause =>
      if cause ≠ .noEntry then throw cause
      ensureChain view above
      ensureDirectory view path

/-- Makes a directory with every directory above it that is missing; the empty path needs none. -/
def createPath (view : View) (path : Path) : Change Unit :=
  if path.bytes = [] then return else ensureChain view path.ancestors

end Handover.Host.FileTree

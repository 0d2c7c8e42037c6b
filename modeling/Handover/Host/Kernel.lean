import Handover.Host.Machine
import Handover.Receipt

/-! # Calls to the host

What each system call does to the host, for the process that makes it. No call waits: one that would have to fails with
`Errno.again`, and `isReady` tells beforehand.
-/
namespace Handover.Host

abbrev Kernel := EStateM Errno Machine

namespace Kernel

def object (pid : Nat) (d : Descriptor) : Kernel Object := do
  match ((← get).descriptors pid).object? d with
  | some object => return object
  | none => throw .badDescriptor

def socket (pid : Nat) (d : Descriptor) : Kernel Socket := do
  match ← object pid d with
  | .socket id => match (← get).socket? id with
    | some s => return s
    | none => throw .badDescriptor
  | _ => throw .notSocket

/-- Gives the process a descriptor for `object`, the lowest that is free. -/
def install (pid : Nat) (object : Object) : Kernel Descriptor := do
  let (d, t) := ((← get).descriptors pid).install object true
  modify (·.setDescriptors pid t)
  return d

def installAll (pid : Nat) (objects : List Object) : Kernel (List Descriptor) := do
  let (ds, t) := ((← get).descriptors pid).installAll objects true
  modify (·.setDescriptors pid t)
  return ds

def close (pid : Nat) (d : Descriptor) : Kernel Unit := do
  let _ ← object pid d
  modify fun m => (m.setDescriptors pid ((m.descriptors pid).remove d)).sweep

def setTree (tree : FileTree) : Kernel Unit := modify fun m => { m with tree := tree }

def changeTree {α : Type} (pid : Nat) (change : FileTree.View → FileTree.Change α) : Kernel α := fun m =>
  match change (m.view pid) m.tree with
  | .ok a tree => .ok a { m with tree := tree }
  | .error cause tree => .error cause { m with tree := tree }

def makeEntry (pid : Nat) (path : Path) (node : Nat → Node) : Kernel Nat :=
  changeTree pid fun view => .ofExcept (FileTree.create view path node)

def makePath (pid : Nat) (path : Path) : Kernel Unit := changeTree pid fun view => FileTree.createPath view path

def rename (pid : Nat) (source target : Path) : Kernel Unit :=
  changeTree pid fun view => .ofUpdate (FileTree.rename view source target)

def removeAll (pid : Nat) (path : Path) : Kernel Unit := changeTree pid fun view => FileTree.removeAll view path

def openInode (tree : FileTree) (directoryOnly : Bool) (inode : Nat) : Except Errno Object :=
  match tree.node? inode with
  | some (.directory _ _ _) => .ok (.directory inode)
  | some node =>
    if directoryOnly then .error .notDirectory
    else match node with
      | .device device => .ok (.device device)
      | .socket => .error .noDevice
      | _ => .ok (.file inode)
  | none => .error .noEntry

def openPath (pid : Nat) (path : Path) (directoryOnly : Bool) : Kernel Descriptor := do
  let m ← get
  let inode ← ofExcept (m.tree.locate (m.view pid) path)
  install pid (← ofExcept (openInode m.tree directoryOnly inode))

def padded (width n : Nat) : String := String.ofList (List.replicate (width - n.repr.length) '0') ++ n.repr

/-- Makes a directory named after the template, whose last six bytes give way to a name that is new. -/
def makeTemporaryDirectory (pid : Nat) (template : Path) : Kernel Path := do
  let m ← get
  let stem := template.bytes.take (template.bytes.length - templateSuffix.length)
  if Bytes.nul ∈ template.bytes ∨ template.bytes ≠ stem ++ templateSuffix then throw .invalid
  let path := Path.mk (stem ++ Bytes.ofString ("x" ++ padded 5 m.nextName))
  let _ ← makeEntry pid path FileTree.newDirectory
  modify fun m => { m with nextName := m.nextName + 1 }
  return path

def createFile (pid : Nat) (path : Path) : Kernel Object := do
  let inode ← changeTree pid fun view => .ofExcept (FileTree.openForWriting view path)
  ofExcept (openInode (← get).tree false inode)

def unlinkAt (pid : Nat) (d : Descriptor) (name : Path) : Kernel Unit := do
  if Bytes.nul ∈ name.bytes then throw .invalid
  match ← object pid d with
  | .directory inode => changeTree pid fun view => .ofUpdate (FileTree.removeEntry { view with currentDir := inode } name)
  | _ => throw .notDirectory

/-! ## Sockets -/

def backlog : Nat := 10

def peerOf (pid : Nat) : Peer := ⟨pid, 0⟩

def addSocket (phase : Phase) (peer : Peer) (entry : Option Nat) : Kernel Nat := do
  let m ← get
  let s : Socket := ⟨m.nextSocket, phase, [], false, none, peer, entry⟩
  set { m with sockets := m.sockets ++ [s], nextSocket := m.nextSocket + 1 }
  return s.id

def addPair (first second : Peer) : Kernel (Nat × Nat) := do
  let next := (← get).nextSocket
  let a ← addSocket (.connected (next + 1)) first none
  let b ← addSocket (.connected next) second none
  return (a, b)

def socketPair (pid : Nat) : Kernel (Descriptor × Descriptor) := do
  let (a, b) ← addPair (peerOf pid) (peerOf pid)
  return (← install pid (.socket a), ← install pid (.socket b))

/-- Enters a socket under `address`; the empty address stands for a name outside the file tree. -/
def bind (pid : Nat) (address : Path) : Kernel (Option Nat) := do
  if address.bytes = [] then return none
  try return some (← makeEntry pid address fun _ => .socket)
  catch cause => throw (if cause = .alreadyExists then .addressInUse else cause)

def listen (pid : Nat) (entry : Option Nat) : Kernel Descriptor := do
  install pid (.socket (← addSocket (.listening []) (peerOf pid) entry))

def listenerAt (m : Machine) (inode : Nat) : Option Socket :=
  m.sockets.find? fun s => decide (s.entry = some inode) && match s.phase with
    | .listening _ => true
    | .connected _ => false

/-- Queues a connection; it is usable at this end before the other accepts it. -/
def connect (pid : Nat) (address : Path) : Kernel Descriptor := do
  let m ← get
  let inode ← ofExcept (m.tree.locate (m.view pid) address)
  match listenerAt m inode with
  | none => throw .connectionRefused
  | some listener =>
    if backlog < listener.pending.length then throw .again
    let (near, far) ← addPair listener.peer (peerOf pid)
    modify (·.updateSocket listener.id fun s => { s with phase := .listening (s.pending ++ [far]) })
    install pid (.socket near)

def accept (pid : Nat) (d : Descriptor) : Kernel Descriptor := do
  let s ← socket pid d
  match s.phase with
  | .connected _ => throw .invalid
  | .listening [] => throw .again
  | .listening (first :: rest) =>
    modify (·.updateSocket s.id fun s => { s with phase := .listening rest })
    install pid (.socket first)

/-- As many descriptors can travel with one send. -/
def rightsLimit : Nat := 253

/-- Sends bytes together with duplicates of descriptors; without a byte nothing is sent at all. -/
def send (pid : Nat) (d : Descriptor) (payload : Bytes) (rights : List Descriptor) : Kernel Nat := do
  let s ← socket pid d
  if rightsLimit < rights.length then throw .invalid
  let objects ← rights.mapM (object pid)
  match s.phase with
  | .listening _ => throw .notConnected
  | .connected peer =>
    if s.hungUp then throw .brokenPipe
    if payload ≠ [] then
      modify (·.updateSocket peer fun p => { p with inbox := p.inbox ++ [⟨payload, objects⟩] })
    return payload.length

/-- Takes at most `n` bytes off a queue. Nothing is read past bytes that descriptors came with. -/
def drain : Nat → List Packet → Packet × List Packet
  | _, [] => (⟨[], []⟩, [])
  | n, p :: rest =>
    if n = 0 then (⟨[], []⟩, p :: rest)
    else if n < p.payload.length then (⟨p.payload.take n, p.rights⟩, ⟨p.payload.drop n, []⟩ :: rest)
    else if p.rights ≠ [] then (p, rest)
    else
      let (more, left) := drain (n - p.payload.length) rest
      (⟨p.payload ++ more.payload, more.rights⟩, left)

/-- Receives at most `n` bytes and what came with them; nothing at all at the end of the stream. -/
def receive (pid : Nat) (d : Descriptor) (n : Nat) : Kernel Packet := do
  let s ← socket pid d
  match s.phase, s.inbox, s.fault with
  | .listening _, _, _ => throw .invalid
  | .connected _, [], some cause =>
    modify (·.updateSocket s.id fun s => { s with fault := none })
    throw cause
  | .connected _, [], none => if s.hungUp then return ⟨[], []⟩ else throw .again
  | .connected _, inbox, _ =>
    let (taken, left) := drain n inbox
    modify (·.updateSocket s.id fun s => { s with inbox := left })
    return taken

/-- Receives bytes alone: descriptors that came with them are lost. -/
def receiveBytes (pid : Nat) (d : Descriptor) (n : Nat) : Kernel Bytes := do
  let taken ← receive pid d n
  modify Machine.sweep
  return taken.payload

/-- A receiver that asks for one descriptor has room for two, as the room is rounded up. -/
def controlCapacity : Nat := 2

/-- Receives one byte and the descriptors that came with it, as far as there is room for them. -/
def receiveMessage (pid : Nat) (d : Descriptor) : Kernel ReceivedMessage := do
  let taken ← receive pid d 1
  let installed ← installAll pid (taken.rights.take controlCapacity)
  modify Machine.sweep
  return ⟨if installed = [] then [] else [.rights installed], decide (controlCapacity < taken.rights.length)⟩

def isReady (m : Machine) (pid : Nat) (d : Descriptor) : Bool :=
  match (m.descriptors pid).object? d with
  | some (.socket id) => match m.socket? id with
    | some s => match s.phase with
      | .listening pending => !pending.isEmpty
      | .connected _ => !s.inbox.isEmpty || s.hungUp || s.fault.isSome
    | none => true
  | _ => true

/-! ## Streams -/

def write (pid : Nat) (d : Descriptor) (bytes : Bytes) : Kernel Nat := do
  match ← object pid d with
  | .socket _ => send pid d bytes []
  | .directory _ => throw .badDescriptor
  | .device .full => throw .noSpace
  | .device .null => return bytes.length
  | .file inode =>
    let m ← get
    match m.tree.node? inode with
    | some (.file content run) =>
      setTree (m.tree.setNode inode (.file (content ++ bytes) run))
      return bytes.length
    | _ => throw .badDescriptor

def peer (m : Machine) (pid : Nat) (d : Descriptor) : Except Errno Peer :=
  match (socket pid d m : EStateM.Result Errno Machine Socket) with
  | .ok s _ => .ok s.peer
  | .error cause _ => .error cause

end Kernel

end Handover.Host

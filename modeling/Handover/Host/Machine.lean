import Handover.Announcement.Reader
import Handover.Environment
import Handover.Host.FileTree.Change
import Handover.Session

/-! # The host

A small model of a Unix host: a file tree, stream sockets with their queues, and processes with their descriptors. A
socket lives as long as a descriptor refers to it, or a descriptor in flight to a socket that lives; then it is swept
away and its peer learns of it.
-/
namespace Handover.Host

/-- What one send puts into the peer's queue: bytes, and the objects whose descriptors travel with the first of them. -/
structure Packet where
  payload : Bytes
  rights : List Object
deriving DecidableEq, Repr

inductive Phase where
  | listening (pending : List Nat)
  | connected (peer : Nat)
deriving DecidableEq, Repr

structure Socket where
  id : Nat
  phase : Phase
  inbox : List Packet
  /-- The peer is gone: the stream ends after what is queued, and nothing can be sent. -/
  hungUp : Bool
  /-- Reported once, by the next call that finds nothing queued. -/
  fault : Option Errno
  peer : Peer
  entry : Option Nat
deriving DecidableEq, Repr

/-- A moment in the life of a script: something appears on its standard output, or it pauses until it is waited for. -/
inductive Beat where
  | delivers (delivery : Delivery)
  | pauses
deriving DecidableEq, Repr

inductive Task where
  | free
  | script (beats : List Beat) (ending : WaitStatus)
  | serving (session : Session)
deriving DecidableEq, Repr

structure Process where
  id : Nat
  descriptors : DescriptorTable
  currentDir : Nat
  environment : Environment
  task : Task
  status : Option WaitStatus

structure Machine where
  tree : FileTree
  sockets : List Socket
  nextSocket : Nat
  processes : List Process
  nextProcess : Nat
  nextName : Nat

namespace Machine

def socket? (m : Machine) (id : Nat) : Option Socket := m.sockets.find? fun s => decide (s.id = id)

def updateSocket (m : Machine) (id : Nat) (f : Socket → Socket) : Machine :=
  { m with sockets := m.sockets.map fun s => if s.id = id then f s else s }

def process? (m : Machine) (pid : Nat) : Option Process := m.processes.find? fun p => decide (p.id = pid)

def updateProcess (m : Machine) (pid : Nat) (f : Process → Process) : Machine :=
  { m with processes := m.processes.map fun p => if p.id = pid then f p else p }

def descriptors (m : Machine) (pid : Nat) : DescriptorTable :=
  ((m.process? pid).map Process.descriptors).getD DescriptorTable.empty

def setDescriptors (m : Machine) (pid : Nat) (t : DescriptorTable) : Machine :=
  m.updateProcess pid fun p => { p with descriptors := t }

def view (m : Machine) (pid : Nat) : FileTree.View :=
  ⟨((m.process? pid).map Process.currentDir).getD FileTree.root, m.descriptors pid⟩

def heldSockets (m : Machine) : List Nat :=
  (m.processes.flatMap fun p => p.descriptors.objects).filterMap Object.socket?

end Machine

namespace Socket

def pending (s : Socket) : List Nat :=
  match s.phase with
  | .listening pending => pending
  | .connected _ => []

/-- The sockets that live because `s` does. -/
def keeps (s : Socket) : List Nat := s.pending ++ (s.inbox.flatMap Packet.rights).filterMap Object.socket?

end Socket

namespace Machine

def grow (m : Machine) (live : List Nat) : List Nat :=
  (live ++ (m.sockets.filter fun s => decide (s.id ∈ live)).flatMap Socket.keeps).eraseDups

/-- Every round but the last adds a socket, so as many rounds as there are sockets suffice. -/
def reachable (m : Machine) : List Nat := m.sockets.foldl (fun live _ => m.grow live) m.heldSockets

/-- The peer of a socket that goes away. Unread input, or a connection that was never accepted, resets it. -/
def hangUp (m : Machine) (dead : Socket) (wasPending : Bool) : Machine :=
  match dead.phase with
  | .listening _ => m
  | .connected peer => m.updateSocket peer fun s =>
    { s with
      hungUp := true
      fault := if wasPending || !dead.inbox.isEmpty then some .connectionReset else s.fault }

def sweep (m : Machine) : Machine :=
  let live := m.reachable
  let dead := m.sockets.filter fun s => decide (s.id ∉ live)
  let waiting := dead.flatMap Socket.pending
  let m := dead.foldl (fun m s => m.hangUp s (decide (s.id ∈ waiting))) m
  { m with sockets := m.sockets.filter fun s => decide (s.id ∈ live) }

/-- A process that has ended holds nothing any more. -/
def finish (m : Machine) (pid : Nat) (status : WaitStatus) : Machine :=
  (m.updateProcess pid fun p =>
    { p with status := some status, task := .free, descriptors := DescriptorTable.empty }).sweep

end Machine

end Handover.Host

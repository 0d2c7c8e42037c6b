import Handover.Host.Kernel
import Handover.LogFilter
import Handover.Receipt

/-! # The host as a platform

The calls of a handover, made by a process of the host. A call that fails here fails before it has changed anything,
except that a publication whose output cannot be closed has been written.
-/
namespace Handover.Host

def attempt {α : Type} (call : Kernel α) (failure : Errno → Error) : Action Machine α := fun m =>
  match call m with
  | .ok a m => .ok a m
  | .error cause m => .error (failure cause) m

def run {α : Type} (call : Kernel α) (m : Machine) : Machine :=
  match call m with
  | .ok _ m | .error _ m => m

def standardError : Descriptor := 2

/-- Logs an event on the error stream, if the filter in the environment of the process lets it through. -/
def note (pid : Nat) (event : Event) (m : Machine) : Machine :=
  match m.process? pid with
  | none => m
  | some p =>
    if (LogFilter.ofEnvironment p.environment).passes event then
      run (Kernel.write pid standardError (Bytes.ofString event.line)) m
    else m

/-- Socket addresses have room for this many bytes and the one that ends them. -/
def addressLimit : Nat := 108

def openDirectory (pid : Nat) (path : Path) : Action Machine Descriptor := do
  if Bytes.nul ∈ path.bytes then throw (.openDirectory path .nulInFileName)
  attempt (Kernel.openPath pid path true) fun cause => .openDirectory path (.system cause)

/-- A listener at any address; the directory and the name only say which one it is if it fails. -/
def listenAt (pid : Nat) (directory : Descriptor) (name : String) (address : Path) : Action Machine Descriptor := do
  let failure := fun step => Error.socketSetup step name directory
  if Bytes.nul ∈ address.bytes then throw (failure .address .invalid)
  if addressLimit ≤ address.bytes.length then throw (failure .address .nameTooLong)
  let entry ← attempt (Kernel.bind pid address) (failure .bind)
  let handle ← attempt (Kernel.listen pid entry) (failure .listen)
  modify (note pid (.bound name handle address))
  return handle

/-- Output to a standard output that is not open goes nowhere, and that is no failure. -/
def writeOutput (pid : Nat) (bytes : Bytes) : Kernel Unit := fun m =>
  match Kernel.write pid DescriptorTable.standardOutput bytes m with
  | .ok _ m => .ok () m
  | .error cause m => if cause = .badDescriptor then .ok () m else .error cause m

def retireOutput (pid : Nat) : Kernel Unit := do
  let m ← get
  set (m.setDescriptors pid (← ofExcept (m.descriptors pid).retireOutput)).sweep

/-- Whoever reads the announcement waits for the end of the output, so the output is closed once it is written. -/
def publish (pid : Nat) (announcement : Announcement) : Action Machine Unit := do
  attempt (writeOutput pid announcement.wire) fun cause => .publish (.system cause)
  attempt (retireOutput pid) fun cause => .cleanup "close" "stdout" cause

def filler : Bytes := [0]

def send (pid : Nat) (connection data : Descriptor) : Action Machine Unit := do
  let _ ← attempt (Kernel.send pid connection filler [data]) (.transfer connection data)
  modify (note pid (.sent connection data))

def perform (pid : Nat) : (call : Call) → Action Machine call.Answer
  | .makeDirectory template => attempt (Kernel.makeTemporaryDirectory pid template) (.createDirectory template)
  | .openDirectory path => openDirectory pid path
  | .listen directory name address => listenAt pid directory name address
  | .publish announcement => publish pid announcement
  | .accept listener => attempt (Kernel.accept pid listener) (.accept listener)
  | .unlink directory name =>
    attempt (Kernel.unlinkAt pid directory (Path.ofString name)) (.unlinkFailed directory name)
  | .send connection data => send pid connection data
  | .close label descriptor => attempt (Kernel.close pid descriptor) (.closeFailed label descriptor)

def platform (pid : Nat) : Platform Machine where
  perform := perform pid
  release descriptor := run (Kernel.close pid descriptor)
  peer connection m := Kernel.peer m pid connection
  note := note pid

def receiveDescriptor (pid : Nat) (connection : Descriptor) : Action Machine Descriptor := fun m =>
  let conclude (outcome : Except Errno ReceivedMessage) (m : Machine) : EStateM.Result Error Machine Descriptor :=
    let receipt := Receipt.ofOutcome connection outcome
    let m := (platform pid).releaseAll receipt.closed m
    match receipt.result with
    | .ok d => .ok d m
    | .error e => .error e m
  match Kernel.receiveMessage pid connection m with
  | .ok message m => conclude (.ok message) m
  | .error cause m => conclude (.error cause) m

end Handover.Host

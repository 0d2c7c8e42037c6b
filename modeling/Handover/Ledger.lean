import Handover.Platform

/-! # A platform by script

The ledger keeps what a platform was asked to do: every call with its outcome, and every handle released without a call,
in order. Handles are numbered upwards and never reused. Whether and how a call fails is decided by a script, which sees
the whole history, so every pattern of failures is some script.
-/
namespace Handover

inductive Outcome where
  | failed (error : Error)
  | made (path : Path)
  | issued (handle : Descriptor)
  | finished
deriving DecidableEq, Repr

inductive Record where
  /-- A call, the handles that were open when it was made, and how it ended. -/
  | call (call : Call) (live : List Descriptor) (outcome : Outcome)
  | release (handle : Descriptor)
deriving DecidableEq, Repr

namespace Record

def call? : Record → Option Call
  | .call c _ _ => some c
  | .release _ => none

def issued? : Record → Option Descriptor
  | .call _ _ (.issued handle) => some handle
  | _ => none

def closes : Record → List Descriptor
  | .call c _ _ => c.closes
  | .release handle => [handle]

end Record

structure Ledger where
  next : Descriptor
  live : List Descriptor
  history : List Record
  events : List Event
deriving Repr

namespace Ledger

def firstHandle : Descriptor := 100

def empty : Ledger := ⟨firstHandle, [], [], []⟩

def calls (l : Ledger) : List Call := l.history.filterMap Record.call?

def issued (l : Ledger) : List Descriptor := l.history.filterMap Record.issued?

def closed (l : Ledger) : List Descriptor := l.history.flatMap Record.closes

/-- Enters a call; what it closes is closed however it ends. -/
def enter (l : Ledger) (call : Call) (outcome : Outcome) : Ledger :=
  { l with live := l.live.filter (· ∉ call.closes), history := l.history ++ [.call call l.live outcome] }

def issue (l : Ledger) (call : Call) : EStateM.Result Error Ledger Descriptor :=
  let entered := l.enter call (.issued l.next)
  .ok l.next { entered with next := l.next + 1, live := entered.live ++ [l.next] }

def finish (l : Ledger) (call : Call) : EStateM.Result Error Ledger Unit := .ok () (l.enter call .finished)

def release (handle : Descriptor) (l : Ledger) : Ledger :=
  { l with live := l.live.filter (· ≠ handle), history := l.history ++ [.release handle] }

def note (event : Event) (l : Ledger) : Ledger := { l with events := l.events ++ [event] }

end Ledger

/-- What decides the outcome of calls: the path of a new directory, how a call fails if it does, and whether a connection
has a peer to tell about. -/
structure Script where
  directory : List Record → Path → Path
  fault : List Record → (call : Call) → Option call.Fault
  peer : Descriptor → Except Errno Peer

namespace Script

def grant (script : Script) (l : Ledger) : (call : Call) → EStateM.Result Error Ledger call.Answer
  | .makeDirectory template =>
    let path := script.directory l.history template
    .ok path (l.enter (.makeDirectory template) (.made path))
  | .openDirectory path => l.issue (.openDirectory path)
  | .listen directory name address => l.issue (.listen directory name address)
  | .publish announcement => l.finish (.publish announcement)
  | .accept listener => l.issue (.accept listener)
  | .unlink directory name => l.finish (.unlink directory name)
  | .send connection data => l.finish (.send connection data)
  | .close label descriptor => l.finish (.close label descriptor)

def perform (script : Script) (call : Call) : Action Ledger call.Answer := fun l =>
  match script.fault l.history call with
  | some fault => .error (call.failure fault) (l.enter call (.failed (call.failure fault)))
  | none => script.grant l call

def platform (script : Script) : Platform Ledger where
  perform := script.perform
  release := Ledger.release
  peer connection _ := script.peer connection
  note := Ledger.note

end Script

end Handover

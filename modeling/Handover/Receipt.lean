import Handover.Error

/-! # Receiving one descriptor

What a receive brought is a list of control messages, some of which carry descriptors that the system has installed by
then, and a mark if some of the control data did not fit. The caller takes exactly one descriptor: with none or with
several it fails, closing the surplus first.
-/
namespace Handover

inductive ControlMessage where
  | rights (descriptors : List Descriptor)
  | other
deriving DecidableEq, Repr

def ControlMessage.descriptors : ControlMessage → List Descriptor
  | .rights descriptors => descriptors
  | .other => []

structure ReceivedMessage where
  control : List ControlMessage
  truncated : Bool
deriving DecidableEq, Repr

def ReceivedMessage.installed (m : ReceivedMessage) : List Descriptor := m.control.flatMap ControlMessage.descriptors

/-- The result of a receive, and the descriptors that are closed before it is returned. -/
structure Receipt where
  result : Except Error Descriptor
  closed : List Descriptor

namespace Receipt

/-- Truncated control data is an error by itself, found before the descriptors are looked at. -/
def ofOutcome (connection : Descriptor) (outcome : Except Errno ReceivedMessage) : Receipt :=
  match outcome with
  | .error cause => ⟨.error (.receive connection cause), []⟩
  | .ok m =>
    if m.truncated then ⟨.error (.receive connection .noBuffers), []⟩
    else match m.installed with
      | [] => ⟨.error (.missingDescriptor connection), []⟩
      | [d] => ⟨.ok d, []⟩
      | ds => ⟨.error (.unexpectedDescriptors ds.length), ds⟩

def leftOpen (r : Receipt) (m : ReceivedMessage) : List Descriptor := m.installed.filter (· ∉ r.closed)

end Receipt

end Handover

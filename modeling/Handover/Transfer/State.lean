/-! # The states of a transfer

A transfer goes through five states in one order, without going back.
-/
namespace Handover.Transfer

inductive State where
  | listening
  | accepted
  /-- `pass` is closed and gone from the directory. -/
  | unlinked
  /-- The descriptor of `data` is on its way. -/
  | sent
  | closed
deriving DecidableEq, Repr

namespace State

def text : State → String
  | .listening => "LISTENING"
  | .accepted => "ACCEPTED"
  | .unlinked => "UNLINKED"
  | .sent => "SENT"
  | .closed => "CLOSED"

def rank : State → Nat
  | .listening => 0
  | .accepted => 1
  | .unlinked => 2
  | .sent => 3
  | .closed => 4

instance : Ord State := ⟨fun a b => compare a.rank b.rank⟩

def sorted (states : List State) : List State := states.mergeSort fun a b => decide (a.rank ≤ b.rank)

end State

end Handover.Transfer

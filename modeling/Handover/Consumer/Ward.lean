import Handover.Consumer.Helper

/-! # A child by script

A ward is a child as its parent comes to see it. A script says what the child writes, when and how it ends if it is left
alone, and which calls about it fail; the ward keeps what has become of it and every call that was made about it, in
order. Time is counted in calls, so a child may end between any two of them. One that has begun to exit when it is
killed counts as ended, as it keeps its own status.
-/
namespace Handover

def Errno.noChild : Errno := ⟨10⟩

/-- The script of a child. A moment is the number of calls that have been made by then. -/
structure Life where
  number : Nat
  output : List Delivery
  /-- From which moment on it has ended by itself, and how; without it, it runs until it is killed. -/
  ending : Option (Nat × WaitStatus)
  pollFault : Nat → Option IoError
  waitFault : Nat → Option IoError

inductive Condition where
  /-- Nothing has been done about it, although it may have ended by itself. -/
  | running
  | killed (status : WaitStatus)
  /-- Its parent has been told how it ended, and its number may have a new bearer. -/
  | reaped (status : WaitStatus)
  /-- It runs on, and its parent waits for it for ever: nothing is done any more. -/
  | awaited
deriving DecidableEq, Repr

inductive Deed where
  | hungUp
  | killed
  | strayed
  | polled (answer : Except IoError (Option WaitStatus))
  | waited (answer : Except IoError WaitStatus)
deriving Repr

namespace Life

def killSignal : Nat := 9

def statusAt? (life : Life) (moment : Nat) : Option WaitStatus :=
  match life.ending with
  | some (last, status) => if last ≤ moment then some status else none
  | none => none

def statusIfKilled (life : Life) (moment : Nat) : WaitStatus := (life.statusAt? moment).getD (.killed killSignal)

def answerIfKilled (life : Life) (moment : Nat) : Except IoError WaitStatus :=
  match life.waitFault (moment + 1) with
  | some cause => .error cause
  | none => .ok (life.statusIfKilled moment)

end Life

structure Ward where
  life : Life
  condition : Condition
  history : List Deed

namespace Ward

def born (life : Life) : Ward := ⟨life, .running, []⟩

def moment (w : Ward) : Nat := w.history.length

def enter (w : Ward) (deed : Deed) : Ward := { w with history := w.history ++ [deed] }

def become (w : Ward) (condition : Condition) : Ward := { w with condition := condition }

def kill (w : Ward) : Ward :=
  match w.condition with
  | .running => (w.become (.killed (w.life.statusIfKilled w.moment))).enter .killed
  | .killed _ => w.enter .killed
  | .reaped _ => w.enter .strayed
  | .awaited => w

def status? (w : Ward) : Option WaitStatus :=
  match w.condition with
  | .running => w.life.statusAt? w.moment
  | .killed status | .reaped status => some status
  | .awaited => none

def lastStatus? (w : Ward) : Option WaitStatus :=
  match w.condition with
  | .running => w.life.ending.map Prod.snd
  | .killed status | .reaped status => some status
  | .awaited => none

def pollUnreaped (w : Ward) : EStateM.Result IoError Ward (Option WaitStatus) :=
  match w.life.pollFault w.moment, w.status? with
  | some cause, _ => .error cause (w.enter (.polled (.error cause)))
  | none, some status => .ok (some status) ((w.become (.reaped status)).enter (.polled (.ok (some status))))
  | none, none => .ok none (w.enter (.polled (.ok none)))

/-- A wait that would never return is no deed, and what it answers is never heard. -/
def waitUnreaped (w : Ward) : EStateM.Result IoError Ward WaitStatus :=
  match w.life.waitFault w.moment, w.lastStatus? with
  | some cause, _ => .error cause (w.enter (.waited (.error cause)))
  | none, some status => .ok status ((w.become (.reaped status)).enter (.waited (.ok status)))
  | none, none => .error (.system .again) (w.become .awaited)

/-- A status that has been told once is remembered. -/
def poll (w : Ward) : EStateM.Result IoError Ward (Option WaitStatus) :=
  match w.condition with
  | .running | .killed _ => w.pollUnreaped
  | .reaped status => .ok (some status) (w.enter (.polled (.ok (some status))))
  | .awaited => .ok none w

def wait (w : Ward) : EStateM.Result IoError Ward WaitStatus :=
  match w.condition with
  | .running | .killed _ => w.waitUnreaped
  | .reaped status => .ok status (w.enter (.waited (.ok status)))
  | .awaited => .error (.system .again) w

def supervisor : Supervisor Ward where
  start _ := fun w => .ok ⟨w.life.number, w.life.output⟩ w
  hangUp _ _ w := w.enter .hungUp
  kill child w := if child = w.life.number then w.kill else w.enter .strayed
  poll child := fun w => if child = w.life.number then w.poll else .error (.system .noChild) w
  wait child := fun w => if child = w.life.number then w.wait else .error (.system .noChild) w

end Ward

end Handover

import Handover.Announcement.Reader
import Handover.Consumer.Launch
import Handover.Platform

/-! # Launched helpers

A consumer starts its helper as a child process, reads the announcement and then holds the child until it has ended. A
child whose output is no announcement is killed and waited for at once, and so is one whose holder gives up before it
has seen the child end; a child that is known to have ended is left alone, as its number may have a new bearer.
-/
namespace Handover

structure StartedChild where
  child : Nat
  output : List Delivery
deriving Repr

structure Supervisor (σ : Type) where
  start : Launch → EStateM IoError σ StartedChild
  /-- Closes the reading end of a child's output, `unread` deliveries before its end. -/
  hangUp : (child unread : Nat) → σ → σ
  /-- Failure has nobody to go to, as the child is waited for in any case. -/
  kill : Nat → σ → σ
  poll : Nat → EStateM IoError σ (Option WaitStatus)
  wait : Nat → EStateM IoError σ WaitStatus

structure Helper where
  child : Nat
  announcement : Announcement
  reaped : Bool
deriving DecidableEq, Repr

def Supervisor.reap {σ : Type} (S : Supervisor σ) (child : Nat) (s : σ) : Option WaitStatus × σ :=
  match S.wait child (S.kill child s) with
  | .ok status s => (some status, s)
  | .error _ s => (none, s)

namespace Helper

variable {σ : Type} (S : Supervisor σ)

/-- Why a launch failed whose announcement was refused: a child that reported a failure of its own comes first. -/
def refusal (e : Error) : Option WaitStatus → Error
  | some status => if status.isFailureExit then .helperFailed status else e
  | none => e

/-- Starts a helper and reads its announcement to the end of its output. -/
def launch (l : Launch) : Action σ Helper := fun s =>
  match S.start l s with
  | .error cause s => .error (.spawn l.program cause) s
  | .ok started s => match Announcement.read (Source.ofDeliveries started.output) with
    | .ok announcement rest =>
      .ok ⟨started.child, announcement, false⟩ (S.hangUp started.child rest.pending.length s)
    | .error e rest =>
      let (status, s) := S.reap started.child (S.hangUp started.child rest.pending.length s)
      .error (refusal e status) s

def poll (h : Helper) : Action σ (Option WaitStatus × Helper) := fun s =>
  match S.poll h.child s with
  | .ok (some status) s => .ok (some status, { h with reaped := true }) s
  | .ok none s => .ok (none, h) s
  | .error cause s => .error (.wait cause) s

def abandon (h : Helper) (s : σ) : σ := if h.reaped then s else (S.reap h.child s).2

@[simp] theorem abandon_of_reaped {h : Helper} (hr : h.reaped = true) (s : σ) : h.abandon S s = s := by
  simp [abandon, hr]

def wait (h : Helper) : Action σ Unit := fun s =>
  match S.wait h.child s with
  | .ok status s => if status.isSuccess then .ok () s else .error (.helperFailed status) s
  | .error cause s => .error (.wait cause) (h.abandon S s)

end Helper

end Handover

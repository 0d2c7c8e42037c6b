import Handover.Call
import Handover.Event

/-! # Platforms

A platform answers the calls of a handover over a state of its own. It hands out descriptors as handles, and whoever
holds a handle owns it: it is closed by a call, or released without one when its owner gives up. `holding` is that
second way out: an action that fails releases what its caller still holds.
-/
namespace Handover

abbrev Action (σ : Type) := EStateM Error σ

structure Platform (σ : Type) where
  perform : (call : Call) → Action σ call.Answer
  /-- Closes a handle whose owner gives up; failure has nobody to go to. -/
  release : Descriptor → σ → σ
  peer : Descriptor → σ → Except Errno Peer
  note : Event → σ → σ

namespace Platform

variable {σ α : Type} (P : Platform σ)

def releaseAll (handles : List Descriptor) (s : σ) : σ := handles.foldl (fun s h => P.release h s) s

/-- Releases `handles` if `action` fails. -/
def holding (handles : List Descriptor) (action : Action σ α) : Action σ α := fun s =>
  match action s with
  | .ok a s => .ok a s
  | .error e s => .error e (P.releaseAll handles s)

def log (event : Event) : Action σ Unit := fun s => .ok () (P.note event s)

/-- The peer's credentials, if the connection has any. They are for the record only. -/
def logPeer (connection : Descriptor) : Action σ Unit := fun s =>
  match P.peer connection s with
  | .ok peer => P.log (.connected connection peer) s
  | .error cause => P.log (.peerUnknown connection cause) s

@[simp] theorem releaseAll_nil (s : σ) : P.releaseAll [] s = s := rfl

@[simp] theorem releaseAll_cons (h : Descriptor) (handles : List Descriptor) (s : σ) :
    P.releaseAll (h :: handles) s = P.releaseAll handles (P.release h s) := rfl

theorem holding_ok {handles : List Descriptor} {action : Action σ α} {s t : σ} {a : α} (h : action s = .ok a t) :
    P.holding handles action s = .ok a t := by
  simp [holding, h]

theorem holding_error {handles : List Descriptor} {action : Action σ α} {s t : σ} {e : Error}
    (h : action s = .error e t) : P.holding handles action s = .error e (P.releaseAll handles t) := by
  simp [holding, h]

theorem holding_nil (action : Action σ α) : P.holding [] action = action := by
  funext s
  unfold holding
  cases action s with
  | ok a t => rfl
  | error e t => rfl

end Platform

namespace Action

variable {σ α β : Type} {action : Action σ α} {next : α → Action σ β} {s t : σ}

theorem ok_of_bind {b : β} (h : (action >>= next) s = .ok b t) : ∃ a u, action s = .ok a u ∧ next a u = .ok b t := by
  simp only [Bind.bind, EStateM.bind] at h
  cases ha : action s with
  | ok a u =>
    rw [ha] at h
    exact ⟨a, u, rfl, h⟩
  | error e u => simp [ha] at h

theorem error_of_bind {e : Error} (h : (action >>= next) s = .error e t) :
    action s = .error e t ∨ ∃ a u, action s = .ok a u ∧ next a u = .error e t := by
  simp only [Bind.bind, EStateM.bind] at h
  cases ha : action s with
  | ok a u =>
    rw [ha] at h
    exact Or.inr ⟨a, u, rfl, h⟩
  | error e' u =>
    rw [ha] at h
    obtain ⟨rfl, rfl⟩ := EStateM.Result.error.inj h
    exact Or.inl rfl

def ofExcept (outcome : Except Error α) : Action σ α := fun s =>
  match outcome with
  | .ok a => .ok a s
  | .error e => .error e s

end Action

end Handover

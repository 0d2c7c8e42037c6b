import Handover.Transfer

/-! # Sessions

One run of the helper: a private directory with its two listeners, established once, announced, and consumed by serving.
-/
namespace Handover

structure Session where
  directory : PrivateDirectory
  data : Listener
  pass : Listener
deriving DecidableEq, Repr

/-- In the order in which they are released when the session is given up. -/
def Session.handles (s : Session) : List Descriptor := [s.directory.handle, s.data.handle, s.pass.handle]

namespace Platform

variable {σ : Type} (P : Platform σ)

/-- Binds `data`, then `pass`. -/
def establish (config : Config) : Action σ Session := do
  let dir ← P.createDirectory config
  let data ← P.holding [dir.handle] (P.listen dir dataName)
  let pass ← P.holding [data.handle, dir.handle] (P.listen dir passName)
  return ⟨dir, data, pass⟩

def publish (s : Session) : Action σ Announcement := P.announce s.directory s.data s.pass

def serve (s : Session) : Action σ Transfer.State := P.serveOnce s.directory s.data s.pass

def run (config : Config) : Action σ Transfer.State := do
  let session ← P.establish config
  let _ ← P.holding session.handles (P.publish session)
  P.serve session

end Platform

end Handover

import Handover.Rendezvous

/-! # The transfer

One consumer is served, then everything is released. The first connection to `pass` gets a duplicate of the `data`
listener; before that `pass` is closed and unlinked, so nobody else can connect. The entry of `data` stays. A failure
ends the transfer at once: what has not been closed is released, and no entry is removed.
-/
namespace Handover.Platform

variable {σ : Type} (P : Platform σ)

/-- Notes that the transfer has come to `next`, which is a later state than `state`. -/
def advance (state next : Transfer.State) : Action σ Transfer.State := do
  P.log (.moved state next)
  return next

theorem advance_bind {α : Type} (state next : Transfer.State) (action : Transfer.State → Action σ α) :
    P.advance state next >>= action = P.log (.moved state next) >>= fun _ => action next := by
  simp only [advance, bind_assoc, pure_bind]

def serveOnce (dir : PrivateDirectory) (data pass : Listener) : Action σ Transfer.State := do
  P.log (.waiting pass.path)
  let conn ← P.holding [pass.handle, data.handle, dir.handle] (P.perform (.accept pass.handle))
  let state ← P.advance .listening .accepted
  P.logPeer conn
  P.holding [conn, data.handle, dir.handle] (P.perform (.close "passsock" pass.handle))
  P.holding [conn, data.handle, dir.handle] (P.perform (.unlink dir.handle pass.name))
  let state ← P.advance state .unlinked
  P.holding [conn, data.handle, dir.handle] (P.perform (.send conn data.handle))
  let state ← P.advance state .sent
  P.holding [data.handle, dir.handle] (P.perform (.close "connsock" conn))
  P.holding [dir.handle] (P.perform (.close "datasock" data.handle))
  P.perform (.close "dirfd" dir.handle)
  let state ← P.advance state .closed
  P.log .handedOver
  return state

end Handover.Platform

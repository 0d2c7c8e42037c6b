import Handover.Address
import Handover.Platform

/-! # The meeting place

The private directory and the listening sockets in it, and their announcement. A directory is held by its path, which is
announced, and by an open handle, through which everything else goes. Nothing here removes the directory: that is left
to whoever supervises the helper.
-/
namespace Handover

structure PrivateDirectory where
  path : Path
  handle : Descriptor
deriving DecidableEq, Repr

structure Listener where
  name : String
  path : Path
  handle : Descriptor
deriving DecidableEq, Repr

namespace Platform

variable {σ : Type} (P : Platform σ)

def createDirectory (config : Config) : Action σ PrivateDirectory := do
  P.log (.creating config.template config.source)
  let path ← P.perform (.makeDirectory config.template)
  let handle ← P.perform (.openDirectory path)
  P.log (.opened path handle)
  return ⟨path, handle⟩

/-- A listener called `name`, addressed through the directory's handle rather than its path. -/
def listen (dir : PrivateDirectory) (name : String) : Action σ Listener := do
  let handle ← P.perform (.listen dir.handle name (socketAddress dir.handle name))
  let path := dir.path.join (Bytes.ofString name)
  P.log (.listening path handle)
  return ⟨name, path, handle⟩

/-- Announces the directory and both sockets; readers wait for the end of the stream that this brings. -/
def announce (dir : PrivateDirectory) (data pass : Listener) : Action σ Announcement := do
  let announcement ← Action.ofExcept (Announcement.ofDirectory dir.path)
  P.perform (.publish announcement)
  P.log (.announced announcement.directory data.name pass.name)
  return announcement

end Platform

end Handover

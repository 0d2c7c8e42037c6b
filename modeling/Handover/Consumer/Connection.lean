import Handover.Host.Progress

/-! # Connecting to a helper

A consumer reaches a socket through an open handle to its directory, so the length of the directory's path does not
matter. Of all that connect to `pass` the first receives the listener.
-/
namespace Handover.Consumer

open Host (Machine Kernel attempt run)

def openDirectory (pid : Nat) (directory : Path) : Action Machine Descriptor := do
  if Bytes.nul ∈ directory.bytes then throw (.openDirectory directory .nulInFileName)
  attempt (Kernel.openPath pid directory false) fun cause => .openDirectory directory (.system cause)

def connectTo (pid : Nat) (address : Path) (failure : IoError → Error) : Action Machine Descriptor := do
  if Bytes.nul ∈ address.bytes then throw (failure .nulInSocketPath)
  if Host.addressLimit ≤ address.bytes.length then throw (failure .socketPathTooLong)
  attempt (Kernel.connect pid address) fun cause => failure (.system cause)

def connectInDirectory (pid : Nat) (directory : Path) (name : String) : Action Machine Descriptor := do
  let handle ← openDirectory pid directory
  let platform := Host.platform pid
  let connection ← platform.holding [handle]
    (connectTo pid (socketAddress handle name) (.connect (directory.join (Bytes.ofString name))))
  modify (platform.release handle)
  return connection

/-- Takes over the listener of the helper that made the announcement. -/
def receiveListener (pid : Nat) (announcement : Announcement) : Action Machine Descriptor := do
  let connection ← connectInDirectory pid announcement.directory passName
  modify Host.advance
  let platform := Host.platform pid
  let listener ← platform.holding [connection] (Host.receiveDescriptor pid connection)
  modify (platform.release connection)
  return listener

end Handover.Consumer

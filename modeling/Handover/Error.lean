import Handover.IoError
import Handover.Path
import Handover.WaitStatus

/-! # What can go wrong in a handover

Each cause is a constructor that carries what locates it: the path, the name of the socket, the descriptors of the call.
`Error.message` is one sentence on the call, `Error.sources` the reason that the system gave for it, if any.
-/
namespace Handover

abbrev Descriptor := Int

inductive SetupStep where
  | address | socket | bind | listen
deriving DecidableEq, Repr

def SetupStep.text : SetupStep → String
  | .address => "address"
  | .socket => "socket"
  | .bind => "bind"
  | .listen => "listen"

inductive Error where
  | resolveBase (cause : IoError)
  | createDirectory (template : Path) (cause : Errno)
  | openDirectory (path : Path) (cause : IoError)
  | unannounceablePath (path : Path)
  | socketSetup (step : SetupStep) (name : String) (directory : Descriptor) (cause : Errno)
  | publish (cause : IoError)
  | accept (listener : Descriptor) (cause : Errno)
  | transfer (connection data : Descriptor) (cause : Errno)
  | cleanup (operation target : String) (cause : Errno)
  | receive (connection : Descriptor) (cause : Errno)
  | missingDescriptor (connection : Descriptor)
  | unexpectedDescriptors (count : Nat)
  | readAnnouncement (cause : IoError)
  | malformedAnnouncement (line : Nat) (reason : String)
  | connect (path : Path) (cause : IoError)
  | spawn (program : Path) (cause : IoError)
  | wait (cause : IoError)
  | helperFailed (status : WaitStatus)
deriving DecidableEq, Repr

namespace Error

open Text (decimal)

def unlinkFailed (directory : Descriptor) (name : String) (cause : Errno) : Error :=
  .cleanup "unlinkat" ("dirfd=" ++ decimal directory ++ ", " ++ Text.quoted name) cause

/-- A descriptor could not be closed; the label is its part in the handover. -/
def closeFailed (label : String) (descriptor : Descriptor) (cause : Errno) : Error :=
  .cleanup "close" (label ++ "=" ++ decimal descriptor) cause

def message : Error → String
  | .resolveBase _ => "failed to resolve base directory"
  | .createDirectory template _ => "mkdtemp(" ++ template.display ++ ") failed"
  | .openDirectory path _ => "open(" ++ path.display ++ ") failed"
  | .unannounceablePath path => "path " ++ path.display ++ " cannot be announced on a single line"
  | .socketSetup step name directory _ =>
    step.text ++ " failed for socket " ++ Text.quoted name ++ " (dirfd=" ++ decimal directory ++ ")"
  | .publish _ => "failed to publish announcement"
  | .accept listener _ => "accept4(passsock=" ++ decimal listener ++ ") failed"
  | .transfer connection data _ =>
    "sendmsg(connsock=" ++ decimal connection ++ ", \x7bmsg=\x7bdatasock=" ++ decimal data ++ "\x7d\x7d) failed"
  | .cleanup operation target _ => operation ++ "(" ++ target ++ ") failed"
  | .receive connection _ => "recvmsg(fd=" ++ decimal connection ++ ") failed"
  | .missingDescriptor connection => "no descriptor arrived on fd " ++ decimal connection
  | .unexpectedDescriptors count => "expected exactly one descriptor, received " ++ count.repr
  | .readAnnouncement _ => "failed to read announcement"
  | .malformedAnnouncement line reason => "malformed announcement at line " ++ line.repr ++ ": " ++ reason
  | .connect path _ => "connect(" ++ path.display ++ ") failed"
  | .spawn program _ => "failed to spawn " ++ program.display
  | .wait _ => "failed to wait for helper"
  | .helperFailed status => "helper exited unsuccessfully: " ++ status.text

def sources : Error → List String
  | .resolveBase cause | .openDirectory _ cause | .publish cause | .readAnnouncement cause | .connect _ cause
  | .spawn _ cause | .wait cause => [cause.text]
  | .createDirectory _ cause | .socketSetup _ _ _ cause | .accept _ cause | .transfer _ _ cause | .cleanup _ _ cause
  | .receive _ cause => [cause.text]
  | .unannounceablePath _ | .missingDescriptor _ | .unexpectedDescriptors _ | .malformedAnnouncement _ _
  | .helperFailed _ => []

end Error

end Handover

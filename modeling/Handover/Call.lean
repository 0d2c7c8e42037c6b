import Handover.Announcement

/-! # The calls of a handover

A handover is made of eight calls to the system. Each has its kind of answer when it succeeds and its own ways to fail,
so a platform has only to say which of them happens; the error names the call with its arguments in any case.
-/
namespace Handover

inductive Call where
  | makeDirectory (template : Path)
  | openDirectory (path : Path)
  /-- Binds a stream socket to the address and listens on it; directory and name say which socket it is. -/
  | listen (directory : Descriptor) (name : String) (address : Path)
  /-- Writes the announcement to the standard output and closes it. -/
  | publish (announcement : Announcement)
  | accept (listener : Descriptor)
  | unlink (directory : Descriptor) (name : String)
  | send (connection data : Descriptor)
  /-- The descriptor is gone afterwards even if the call fails. -/
  | close (label : String) (descriptor : Descriptor)
deriving DecidableEq, Repr

namespace Call

@[reducible] def Answer : Call → Type
  | .makeDirectory _ => Path
  | .openDirectory _ => Descriptor
  | .listen _ _ _ => Descriptor
  | .publish _ => Unit
  | .accept _ => Descriptor
  | .unlink _ _ => Unit
  | .send _ _ => Unit
  | .close _ _ => Unit

inductive PublishFault where
  | stream (cause : IoError)
  | closing (cause : Errno)
deriving DecidableEq, Repr

def Fault : Call → Type
  | .openDirectory _ => IoError
  | .listen _ _ _ => SetupStep × Errno
  | .publish _ => PublishFault
  | .makeDirectory _ | .accept _ | .unlink _ _ | .send _ _ | .close _ _ => Errno

def failure : (call : Call) → call.Fault → Error
  | .makeDirectory template, cause => .createDirectory template cause
  | .openDirectory path, cause => .openDirectory path cause
  | .listen directory name _, (step, cause) => .socketSetup step name directory cause
  | .publish _, .stream cause => .publish cause
  | .publish _, .closing cause => .cleanup "close" "stdout" cause
  | .accept listener, cause => .accept listener cause
  | .unlink directory name, cause => .unlinkFailed directory name cause
  | .send connection data, cause => .transfer connection data cause
  | .close label descriptor, cause => .closeFailed label descriptor cause

/-- A failure with a number; a listener fails in its last step. Where a stream error is expected, a cause without a name
comes out as zero. -/
def faultOf : (call : Call) → Errno → call.Fault
  | .makeDirectory _, cause => cause
  | .openDirectory _, cause => IoError.system cause.named
  | .listen _ _ _, cause => (SetupStep.listen, cause)
  | .publish _, cause => PublishFault.stream (.system cause.named)
  | .accept _, cause => cause
  | .unlink _ _, cause => cause
  | .send _ _, cause => cause
  | .close _ _, cause => cause

instance (call : Call) : Coe Errno call.Fault := ⟨call.faultOf⟩

def operands : Call → List Descriptor
  | .makeDirectory _ | .openDirectory _ | .publish _ => []
  | .listen directory _ _ => [directory]
  | .accept listener => [listener]
  | .unlink directory _ => [directory]
  | .send connection data => [connection, data]
  | .close _ descriptor => [descriptor]

/-- The descriptors that are no longer open after the call, however it ends. -/
def closes : Call → List Descriptor
  | .close _ descriptor => [descriptor]
  | _ => []

def text : Call → String
  | .makeDirectory template => "mkdtemp " ++ template.display
  | .openDirectory path => "open_dir " ++ path.display
  | .listen _ name address => "listen " ++ name ++ " at " ++ address.display
  | .publish announcement => "publish " ++ Text.lossy announcement.wire
  | .accept listener => "accept " ++ Text.decimal listener
  | .unlink directory name => "unlink " ++ Text.decimal directory ++ " " ++ name
  | .send connection data => "send " ++ Text.decimal data ++ " over " ++ Text.decimal connection
  | .close label descriptor => "close " ++ label ++ " " ++ Text.decimal descriptor

end Call

structure Failure where
  call : Call
  fault : call.Fault

def Failure.error (f : Failure) : Error := f.call.failure f.fault

end Handover

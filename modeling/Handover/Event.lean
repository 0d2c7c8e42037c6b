import Handover.Config
import Handover.Transfer.State

/-! # Events of a run

What a run reports about its progress. Events are diagnostics: nothing depends on them.
-/
namespace Handover

structure Peer where
  process : Nat
  user : Nat
deriving DecidableEq, Repr

inductive Level where
  | error | warn | info | debug | trace
deriving DecidableEq, Repr

namespace Level

def text : Level → String
  | .error => "ERROR"
  | .warn => "WARN"
  | .info => "INFO"
  | .debug => "DEBUG"
  | .trace => "TRACE"

/-- Higher ranks are more talkative. -/
def rank : Level → Nat
  | .error => 1
  | .warn => 2
  | .info => 3
  | .debug => 4
  | .trace => 5

end Level

inductive Event where
  | anchoring (base : Path)
  | starting (base : Path) (source : BaseSource)
  | creating (template : Path) (source : BaseSource)
  | opened (path : Path) (handle : Descriptor)
  | bound (name : String) (handle : Descriptor) (address : Path)
  | listening (path : Path) (handle : Descriptor)
  | announced (directory : Path) (data pass : String)
  | waiting (path : Path)
  | moved (before after : Transfer.State)
  | connected (connection : Descriptor) (peer : Peer)
  | peerUnknown (connection : Descriptor) (cause : Errno)
  | sent (connection data : Descriptor)
  | handedOver
deriving DecidableEq, Repr

namespace Event

open Text (decimal)

def level : Event → Level
  | .anchoring _ | .creating _ _ | .bound _ _ _ | .moved _ _ | .peerUnknown _ _ | .sent _ _ => .debug
  | .starting _ _ | .opened _ _ | .listening _ _ | .announced _ _ _ | .waiting _ | .connected _ _ | .handedOver => .info

/-- The part of the program that an event comes from, by which log filters select it. -/
def target : Event → String
  | .anchoring _ => "binder_common::config"
  | .starting _ _ => "socket_binder"
  | .creating _ _ | .opened _ _ => "binder_server::private_dir"
  | .bound _ _ _ => "binder_server::platform"
  | .listening _ _ => "binder_server::listener"
  | .announced _ _ _ => "binder_server::publisher"
  | .waiting _ | .moved _ _ | .connected _ _ | .peerUnknown _ _ | .handedOver => "binder_server::transfer"
  | .sent _ _ => "binder_common::fdpass"

def fieldNames : List String := ["message"]

def text : Event → String
  | .anchoring base => "Base directory " ++ base.quoted ++ " is relative, anchoring it"
  | .starting base source => "Starting socket binder under " ++ base.quoted ++ " (from " ++ source.text ++ ")"
  | .creating template source =>
    "Creating private directory from " ++ template.quoted ++ " (base from " ++ source.text ++ ")"
  | .opened path handle => "Private directory " ++ path.quoted ++ " open as fd " ++ decimal handle
  | .bound name handle address =>
    "Socket " ++ Text.quoted name ++ " listening on fd " ++ decimal handle ++ " via " ++ address.quoted
  | .listening path handle => "Listening on " ++ path.quoted ++ " as fd " ++ decimal handle
  | .announced directory data pass =>
    "Announced " ++ directory.quoted ++ ", " ++ data ++ " and " ++ pass ++ " are ready"
  | .waiting path => "Waiting for a consumer on " ++ path.quoted
  | .moved before after => "Transfer " ++ before.text ++ " -> " ++ after.text
  | .connected connection peer =>
    "Consumer connected on fd " ++ decimal connection ++ " (pid " ++ peer.process.repr ++ ", uid " ++
      peer.user.repr ++ ")"
  | .peerUnknown connection cause =>
    "Peer credentials unavailable for fd " ++ decimal connection ++ ": " ++ cause.text
  | .sent connection data =>
    "Sent fd " ++ decimal data ++ " over fd " ++ decimal connection ++ " (1 payload byte)"
  | .handedOver => "Descriptor handed over, nothing left to serve"

def line (e : Event) : String := e.level.text ++ " " ++ e.target ++ ": " ++ e.text ++ "\n"

end Event

end Handover

import Handover.Host.Machine
import Handover.Host.Shell.Command

/-! # The state of a shell

Variables, options and descriptors of a running script, and what has come of it so far: its output and pauses, and
whether it goes on.
-/
namespace Handover.Host.Shell

inductive Sink where
  | output
  | nowhere
  /-- To a device that is always full. -/
  | full
  | buffer
  | file (inode : Nat)
deriving DecidableEq, Repr

inductive Flow where
  | onward
  | leaving (levels : Nat)
  /-- Leaves all but the last of a number of loops, and goes on with the next round of that one. -/
  | repeating (levels : Nat)
  | returning
  | ended (status : WaitStatus)
deriving DecidableEq, Repr

structure State where
  process : Nat
  name : Bytes
  view : FileTree.View
  tree : FileTree
  bindings : Environment
  exported : Bytes → Bool
  constants : List Bytes
  locals : List (Bytes × Option Bytes)
  functions : List (String × Command)
  arguments : List Bytes
  /-- How many loops and how many functions are running inside each other. -/
  loops : Nat
  calls : Nat
  status : Nat
  substituted : Option Nat
  stopsOnFailure : Bool
  demandsValues : Bool
  ignoresPatterns : Bool
  background : Nat
  /-- What a signal runs instead of its effect; zero stands for the end of the script. -/
  traps : List (Nat × String)
  sinks : List (Nat × Sink)
  sources : List (Nat × Nat)
  streams : List Bytes
  buffer : Bytes
  /-- Newest first. -/
  beats : List Beat
  outputOpen : Bool
  nested : Bool
  flow : Flow

namespace State

def standardPath : String := "/usr/local/sbin:/usr/local/bin:/usr/sbin:/usr/bin:/sbin:/bin"

def standardSeparators : String := " \t\n"

/-- A shell begins with a few variables of its own, of which only the current directory and the place of programs may come
from outside. -/
def begin (process : Nat) (name : Bytes) (view : FileTree.View) (tree : FileTree) (e : Environment) : State where
  process := process
  name := name
  view := view
  tree := tree
  bindings :=
    let path := (e (Bytes.ofString "PATH")).getD (Bytes.ofString standardPath)
    let dir := ((tree.pathOf view.currentDir).map Path.bytes).getD []
    e.setAll [(Bytes.ofString "IFS", Bytes.ofString standardSeparators), (Bytes.ofString "OPTIND", Bytes.ofString "1"),
      (Bytes.ofString "PATH", path), (Bytes.ofString "PWD", dir)]
  exported := fun name => (e name).isSome
  constants := []
  locals := []
  functions := []
  arguments := []
  loops := 0
  calls := 0
  status := 0
  substituted := none
  stopsOnFailure := false
  demandsValues := false
  ignoresPatterns := false
  background := 0
  traps := []
  sinks := [(1, .output), (2, .nowhere)]
  sources := [(0, 0)]
  streams := [[]]
  buffer := []
  beats := []
  outputOpen := true
  nested := false
  flow := .onward

def goesOn (s : State) : Bool := decide (s.flow = .onward)

def done (s : State) (status : Nat) : State := { s with status := status }

def finish (s : State) (status : WaitStatus) : State :=
  { s with flow := .ended status, status := (status.code?.getD 0) }

/-- A mistake in the script itself ends it. -/
def mistake (s : State) : State := s.finish (.exited 2)

/-! ## Output -/

def deliver (s : State) (bytes : Bytes) : State :=
  if bytes = [] || !s.outputOpen then s else { s with beats := .delivers (.chunk bytes) :: s.beats }

def closeOutput (s : State) : State :=
  if s.outputOpen then { s with beats := .delivers (.chunk []) :: s.beats, outputOpen := false } else s

/-- Closes the output once no descriptor leads there any more. -/
def retireOutput (s : State) : State :=
  if s.nested || s.sinks.any fun sink => decide (sink.2 = .output) then s else s.closeOutput

def pause (s : State) : State := { s with beats := .pauses :: s.beats }

def write? (s : State) (descriptor : Nat) (bytes : Bytes) : Option State :=
  match s.sinks.lookup descriptor with
  | none => none
  | some .output => some (s.deliver bytes)
  | some .nowhere => some s
  | some .full => if bytes = [] then some s else none
  | some .buffer => some { s with buffer := s.buffer ++ bytes }
  | some (.file inode) => match s.tree.node? inode with
    | some (.file content run) => some { s with tree := s.tree.setNode inode (.file (content ++ bytes) run) }
    | _ => some s

def print (s : State) (bytes : Bytes) (status : Nat) : State :=
  match s.write? 1 bytes with
  | some s => s.done status
  | none => s.done (if bytes = [] then status else 1)

def leading {α : Type} (places : List (Nat × α)) (descriptor : Nat) (place : Option α) : List (Nat × α) :=
  let others := places.filter fun known => decide (known.1 ≠ descriptor)
  place.elim others fun place => (descriptor, place) :: others

def setDescriptor (s : State) (descriptor : Nat) (sink : Option Sink) (source : Option Nat) : State :=
  { s with sinks := leading s.sinks descriptor sink, sources := leading s.sources descriptor source }

def copyDescriptor (s : State) (descriptor : Nat) (model : State) (other : Nat) : State :=
  s.setDescriptor descriptor (model.sinks.lookup other) (model.sources.lookup other)

/-! ## Input -/

def openStream (s : State) (descriptor : Nat) (text : Bytes) : State :=
  { s.setDescriptor descriptor none (some s.streams.length) with streams := s.streams ++ [text] }

def standardInput : Nat := 0

def input (s : State) : Bytes := ((s.sources.lookup standardInput).bind fun i => s.streams[i]?).getD []

def setInput (s : State) (rest : Bytes) : State :=
  match s.sources.lookup standardInput with
  | some i => { s with streams := s.streams.set i rest }
  | none => s

/-! ## Variables -/

def separators (s : State) : Bytes := (s.bindings (Bytes.ofString "IFS")).getD (Bytes.ofString standardSeparators)

def joined (s : State) : Bytes := (s.separators.take 1).intercalate s.arguments

def parameter? (s : State) (name : String) : Option Bytes :=
  match name with
  | "$" => some (Bytes.ofString s.process.repr)
  | "!" => some (Bytes.ofString (s.process + 1).repr)
  | "?" => some (Bytes.ofString s.status.repr)
  | "#" => some (Bytes.ofString s.arguments.length.repr)
  | "-" => some (Bytes.ofString ((if s.demandsValues then "u" else "") ++ if s.stopsOnFailure then "e" else ""))
  | "@" | "*" => if s.arguments = [] then none else some s.joined
  | "0" => some s.name
  | name => match name.toNat? with
    | some n => s.arguments[n - 1]?
    | none => s.bindings (Bytes.ofString name)

def assign (s : State) (name value : Bytes) : State :=
  if s.constants.contains name then s.mistake else { s with bindings := s.bindings.set name value }

def unset (s : State) (name : Bytes) : State :=
  if s.constants.contains name then s.mistake else { s with bindings := s.bindings.unset name }

def restore (s : State) (name : Bytes) (value : Option Bytes) : State :=
  { s with bindings := value.elim (s.bindings.unset name) (s.bindings.set name) }

def localize (s : State) (name : Bytes) : State := { s with locals := (name, s.bindings name) :: s.locals }

/-! ## Parts of a script -/

/-- What remains of a part that ran on its own: its output, its pauses and what it did to files. -/
def absorb (s : State) (part : State) : State :=
  { s with
    tree := part.tree, streams := part.streams, beats := part.beats, buffer := part.buffer, status := part.status,
    flow := match part.flow with
      | .ended status => if status.code?.isSome then .onward else .ended status
      | _ => .onward }

/-- Runs a part on its own: nothing that it assigns or redirects outlives it, and only itself does it end. -/
def apart (s : State) (run : State → State) : State :=
  s.absorb (run { s with nested := true, traps := s.traps.filter fun trap => decide (trap.2 = "") })

def environment (s : State) : Environment := fun name => if s.exported name then s.bindings name else none

/-- Runs a part as another script with its own arguments, of which only the files and the output are shared. It may take
the place of this one, which then ends as it does. -/
def elsewhere (s : State) (replacing : Bool) (name : Bytes) (arguments : List Bytes) (run : State → State) : State :=
  let fresh := begin (if replacing then s.process else s.process + 1) name s.view s.tree s.environment
  let ignored := s.traps.filter fun trap => decide (trap.2 = "")
  let part := run
    { fresh with
      arguments := arguments, traps := ignored, sinks := s.sinks, sources := s.sources, streams := s.streams,
      buffer := s.buffer, beats := s.beats, outputOpen := s.outputOpen, nested := s.nested || !replacing }
  let after := { s.absorb part with outputOpen := part.outputOpen }
  match part.flow with
  | .ended status =>
    if replacing then after.finish status
    else { after with flow := .onward, status := status.code?.getD (128 + status.signal?.getD 0) }
  | _ => after

def collect (s : State) (run : State → State) : Bytes × State :=
  let part := s.apart fun s => run { s.setDescriptor 1 (some .buffer) none with buffer := [] }
  (part.buffer, { part with buffer := s.buffer })

end State

end Handover.Host.Shell

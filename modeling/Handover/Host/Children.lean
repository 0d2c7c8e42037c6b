import Handover.Consumer.Helper
import Handover.Host.ProgramSearch
import Handover.Host.Progress
import Handover.Host.Shell

/-! # Child processes

How a process of the host finds and starts programs, and what it sees of them until they have ended. A helper runs up to
its announcement as it is started. A script goes on to its next pause as soon as nobody reads its output any more.
-/
namespace Handover.Host

/-! ## Starting -/

def addProcess (m : Machine) (descriptors : DescriptorTable) (currentDir : Nat) (e : Environment) (task : Task) :
    Nat × Machine :=
  (m.nextProcess,
    { m with
      processes := m.processes ++ [⟨m.nextProcess, descriptors, currentDir, e, task, none⟩]
      nextProcess := m.nextProcess + 1 })

/-- A helper whose output and errors are kept in files. -/
structure Recorded where
  process : Nat
  output : Nat
  errors : Nat
deriving Repr

def content (m : Machine) (inode : Nat) : Bytes :=
  match m.tree.node? inode with
  | some (.file content _) => content
  | _ => []

def currentPath (m : Machine) (dir : Nat) : Except IoError Path :=
  match m.tree.pathOf dir with
  | some path => .ok path
  | none => .error (.system .noEntry)

/-- Runs a helper up to its announcement, or to its end if it does not get there. -/
def startHelper (m : Machine) (e : Environment) (currentDir : Nat) : Recorded × Machine :=
  let (output, tree) := m.tree.add (.file [] none)
  let (errors, tree) := tree.add (.file [] none)
  let descriptors := [Object.device .null, .file output, .file errors].foldl
    (fun (t : DescriptorTable) object => (t.install object false).2) DescriptorTable.empty
  let (pid, m) := addProcess { m with tree := tree } descriptors currentDir e .free
  let recorded : Recorded := ⟨pid, output, errors⟩
  match Program.start (platform pid) e (currentPath m currentDir) m with
  | .ok session m => (recorded, m.updateProcess pid fun p => { p with task := .serving session })
  | .error report m => (recorded, fail pid report m)

def deliveries (output : Bytes) : List Delivery := if output = [] then [.chunk []] else [.chunk output, .chunk []]

def Beat.delivery? : Beat → Option Delivery
  | .delivers delivery => some delivery
  | .pauses => none

/-- What a child sees: the directory of its parent, and none of its descriptors. -/
def childView (m : Machine) (pid : Nat) : FileTree.View := ⟨(m.view pid).currentDir, DescriptorTable.empty⟩

def startScript (m : Machine) (pid : Nat) (e : Environment) (beats : List Beat) (ending : WaitStatus) :
    StartedChild × Machine :=
  let (child, m) := addProcess m DescriptorTable.empty (m.view pid).currentDir e (.script beats ending)
  (⟨child, beats.filterMap Beat.delivery?⟩, m)

def startUtility (m : Machine) (pid : Nat) (e : Environment) (name : String) : StartedChild × Machine :=
  let result := (UtilityCall.mk (childView m pid) m.tree e [] []).run name
  let output := (deliveries result.output).map Beat.delivers
  let beats := if result.pauses then .pauses :: output else output
  startScript { m with tree := result.tree } pid e beats (.exited result.status)

def startExecutable (m : Machine) (pid : Nat) (e : Environment) (name : Bytes) : Executable → StartedChild × Machine
  | .helper =>
    let (recorded, m) := startHelper m e (m.view pid).currentDir
    (⟨recorded.process, deliveries (content m recorded.output)⟩, m)
  | .script text =>
    let r := Shell.run m.nextProcess name (childView m pid) m.tree e text
    startScript { m with tree := r.tree } pid e r.beats r.ending
  | .utility known => startUtility m pid e known

def start (pid : Nat) (l : Launch) : EStateM IoError Machine StartedChild := fun m =>
  let e := l.environment (((m.process? pid).map Process.environment).getD Environment.empty)
  if l.holdsNul then .error .nulInArgument m
  else match ProgramSearch.find m.tree (m.view pid) e l.program with
    | .error cause => .error (.system cause) m
    | .ok run =>
      let (started, m) := startExecutable m pid e l.program.bytes run
      .ok started m

/-! ## Watching and ending -/

def brokenPipeSignal : Nat := 13

/-- How far a script gets when nobody reads its output: to its end, or to its next pause unless it is waited for. -/
def proceed (patient : Bool) (ending : WaitStatus) : List Beat → Option WaitStatus × List Beat
  | [] => (some ending, [])
  | .pauses :: rest => if patient then proceed patient ending rest else (none, .pauses :: rest)
  | .delivers (.chunk (_ :: _)) :: _ => (some (.killed brokenPipeSignal), [])
  | .delivers _ :: rest => proceed patient ending rest

def proceedProcess (patient : Bool) (m : Machine) (pid : Nat) : Machine :=
  match (m.process? pid).map Process.task with
  | some (.script beats ending) => match proceed patient ending beats with
    | (some status, _) => m.finish pid status
    | (none, rest) => m.updateProcess pid fun p => { p with task := .script rest ending }
  | _ => m

/-- The beats that follow once all but `unread` deliveries have been taken. -/
def afterReading (unread : Nat) : List Beat → List Beat
  | [] => []
  | beat :: rest =>
    if unread < ((beat :: rest).filterMap Beat.delivery?).length then afterReading unread rest else beat :: rest

def hangUp (child unread : Nat) (m : Machine) : Machine :=
  let m := m.updateProcess child fun p =>
    match p.task with
    | .script beats ending => { p with task := .script (afterReading unread beats) ending }
    | _ => p
  proceedProcess false m child

def killSignal : Nat := 9

def kill (child : Nat) (m : Machine) : Machine :=
  match (m.process? child).map Process.status with
  | some none => m.finish child (.killed killSignal)
  | _ => m

def status? (m : Machine) (child : Nat) : Option WaitStatus := (m.process? child).bind Process.status

def poll (child : Nat) : EStateM IoError Machine (Option WaitStatus) := fun m =>
  let m := advance m
  .ok (status? m child) m

/-- A helper without a consumer would have to be waited for in vain. -/
def wait (child : Nat) : EStateM IoError Machine WaitStatus := fun m =>
  let m := proceedProcess true (advance m) child
  match status? m child with
  | some status => .ok status m
  | none => .error (.system .again) m

def supervisor (pid : Nat) : Supervisor Machine := ⟨start pid, hangUp, kill, poll, wait⟩

def elapse (m : Machine) : Machine := (m.processes.map Process.id).foldl (proceedProcess true) (advance m)

end Handover.Host

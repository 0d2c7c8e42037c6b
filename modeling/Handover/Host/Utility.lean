import Handover.Environment
import Handover.Host.FileTree.Change
import Handover.Host.Shell.Format
import Handover.Host.Shell.Test

/-! # Utilities

The small programs that every host has, as far as they are needed: what each prints for its arguments and its input, its
status, and what it does to the file tree.
-/
namespace Handover.Host

structure UtilityCall where
  view : FileTree.View
  tree : FileTree
  environment : Environment
  arguments : List Bytes
  input : Bytes

structure UtilityResult where
  output : Bytes
  status : Nat
  pauses : Bool
  tree : FileTree

namespace UtilityCall

def finish (c : UtilityCall) (output : Bytes) (status : Nat) : UtilityResult := ⟨output, status, false, c.tree⟩

def prints (c : UtilityCall) (output : Bytes) : UtilityResult := c.finish output 0

def ends (c : UtilityCall) (status : Nat) : UtilityResult := c.finish [] status

def isOption (argument : Bytes) : Bool :=
  match argument with
  | b :: _ :: _ => decide (b = 45)
  | _ => false

def options (c : UtilityCall) : Bytes := ((c.arguments.takeWhile isOption).map List.tail).flatten

def operands (c : UtilityCall) : List Bytes := c.arguments.dropWhile isOption

def hasOption (c : UtilityCall) (option : Char) : Bool := c.options.contains (UInt8.ofNat option.toNat)

/-- Applies a change to each operand. It goes on after a failure, which shows in the status. -/
def changes (c : UtilityCall) (change : Bytes → FileTree.Change Unit) : UtilityResult :=
  let (tree, status) := c.operands.foldl (fun (tree, status) operand =>
    match change operand tree with
    | .ok () tree => (tree, status)
    | .error _ tree => (tree, 1)) (c.tree, if c.operands = [] then 1 else 0)
  ⟨[], status, false, tree⟩

def content (c : UtilityCall) (path : Bytes) : Option Bytes :=
  match c.tree.locate c.view ⟨path⟩ with
  | .ok inode => match c.tree.node? inode with
    | some (.file content _) => some content
    | some (.device _) => some []
    | _ => none
  | .error _ => none

def contents (c : UtilityCall) : List (Option Bytes) :=
  if c.operands = [] then [some c.input]
  else c.operands.map fun path => if path = [45] then some c.input else c.content path

def concatenated (c : UtilityCall) : UtilityResult :=
  c.finish (c.contents.flatMap (·.getD [])) (if c.contents.all Option.isSome then 0 else 1)

def lines (text : Bytes) : List Bytes :=
  let lines := text.splitOn Bytes.newline
  if lines.getLast? = some [] then lines.dropLast else lines

def ofLines (lines : List Bytes) : Bytes := lines.flatMap fun line => line ++ [Bytes.newline]

/-- The number after an option such as `-n`, written apart or together, or after a bare hyphen. -/
def count (c : UtilityCall) (standard : Nat) : Nat :=
  let numbers := c.arguments.filterMap fun argument =>
    (Shell.Test.number? (argument.dropWhile fun b => !Shell.FormatItem.isDigit b)).map Int.toNat
  numbers.headD standard

/-- The number of lines or bytes is an option, and so is not the name of a file. -/
def counted (c : UtilityCall) (part : Bytes → Nat → Bytes) : UtilityResult :=
  let isNumber (argument : Bytes) : Bool := (Shell.Test.number? argument).isSome
  let files := { c with arguments := c.arguments.filter fun argument => !isOption argument && !isNumber argument }
  { files.concatenated with output := part files.concatenated.output (c.count 10) }

def range (low high : UInt8) : Bytes := (List.range (high.toNat + 1 - low.toNat)).map fun n => low + UInt8.ofNat n

/-- The bytes of a set, in which a hyphen stands between two ends. -/
def spread : Bytes → Bytes
  | low :: hyphen :: high :: rest =>
    if hyphen = 45 then range low high ++ spread rest else low :: spread (hyphen :: high :: rest)
  | b :: rest => b :: spread rest
  | [] => []

def members (set : Bytes) : Bytes := spread (Shell.unescaped set).1

/-- Replaces a member of one set by that in the same place of another, whose last one counts for all that follow. -/
def substitute (set other : Bytes) (b : UInt8) : UInt8 :=
  match set.findIdx? fun member => decide (member = b) with
  | some i => (other[i]?).getD (other.getLast?.getD b)
  | none => b

def numbers (c : UtilityCall) : List Int := c.arguments.filterMap Shell.Test.number?

def sequence (first step last : Int) : List Int :=
  if step = 0 then []
  else (List.range ((last - first) / step + 1).toNat).map fun (n : Nat) => first + step * n

def isDuration (argument : Bytes) : Bool :=
  (argument.head?.any fun b => Shell.FormatItem.isDigit b || decide (b = Bytes.dot)) ||
    decide (argument = Bytes.ofString "infinity")

def echoed (c : UtilityCall) : Bytes :=
  let quiet := decide (c.arguments.head? = some (Bytes.ofString "-n"))
  [(32 : UInt8)].intercalate (if quiet then c.arguments.drop 1 else c.arguments) ++ if quiet then [] else [Bytes.newline]

def removing (c : UtilityCall) (path : Bytes) : FileTree.Change Unit := fun t =>
  let change : FileTree.Change Unit :=
    if c.hasOption 'r' || c.hasOption 'R' then FileTree.removeAll c.view ⟨path⟩
    else .ofUpdate (FileTree.removeEntry c.view ⟨path⟩)
  match change t with
  | .error cause t => if c.hasOption 'f' && decide (cause = .noEntry) then .ok () t else .error cause t
  | result => result

def entryNames (c : UtilityCall) : List Bytes :=
  let path := c.operands.headD [Bytes.dot]
  match c.tree.list c.view ⟨path⟩ with
  | .ok entries => ((entries.map Prod.fst).filter fun name => name.head? ≠ some Bytes.dot).mergeSort fun a b => a ≤ b
  | .error _ => []

def surroundings (c : UtilityCall) : Shell.Test.Surroundings := ⟨c.tree, c.view⟩

def run (c : UtilityCall) (name : String) : UtilityResult :=
  let line (text : String) : UtilityResult := c.prints (Bytes.ofString (text ++ "\n"))
  match name with
  | "false" => c.ends 1
  | "echo" => c.prints c.echoed
  | "printf" => match c.arguments with
    | [] => c.ends 1
    | format :: arguments =>
      let (output, status) := Shell.printed format arguments
      c.finish output (min status 1)
  | "cat" => c.concatenated
  | "head" => c.counted fun text n => if c.hasOption 'c' then text.take n else ofLines ((lines text).take n)
  | "tail" => c.counted fun text n =>
    if c.hasOption 'c' then text.drop (text.length - n) else ofLines ((lines text).drop ((lines text).length - n))
  | "tr" => match c.operands with
    | [set] => if c.hasOption 'd' then c.prints (c.input.filter fun b => !(members set).contains b) else c.ends 1
    | [set, other] => c.prints (c.input.map (substitute (members set) (members other)))
    | _ => c.ends 1
  | "sleep" =>
    if c.arguments ≠ [] && c.arguments.all isDuration then { c.ends 0 with pauses := true } else c.ends 1
  | "pwd" => c.prints (((c.tree.pathOf c.view.currentDir).getD ⟨[Bytes.slash]⟩).bytes ++ [Bytes.newline])
  | "mkdir" => c.changes fun path =>
    if c.hasOption 'p' then FileTree.createPath c.view ⟨path⟩
    else do let _ ← FileTree.Change.ofExcept (FileTree.create c.view ⟨path⟩ FileTree.newDirectory)
  | "rmdir" => c.changes fun path => .ofUpdate (FileTree.removeDirectory c.view ⟨path⟩)
  | "rm" => if c.operands = [] && c.hasOption 'f' then c.ends 0 else c.changes c.removing
  | "touch" => c.changes fun path => do
    unless (← get).locate c.view ⟨path⟩ matches .ok _ do
      let _ ← FileTree.Change.ofExcept (FileTree.openForWriting c.view ⟨path⟩)
  | "test" => c.ends (Shell.Test.status c.surroundings c.arguments)
  | "[" => c.ends (Shell.Test.bracketed c.surroundings c.arguments)
  | "seq" => match c.numbers with
    | [last] => c.prints (ofLines ((sequence 1 1 last).map fun n => Bytes.ofString (Text.decimal n)))
    | [first, last] => c.prints (ofLines ((sequence first 1 last).map fun n => Bytes.ofString (Text.decimal n)))
    | [first, step, last] => c.prints (ofLines ((sequence first step last).map fun n => Bytes.ofString (Text.decimal n)))
    | _ => c.ends 1
  | "ls" => match c.tree.locate c.view ⟨c.operands.headD [Bytes.dot]⟩ with
    | .ok inode => c.prints (ofLines (if c.tree.isDirectory inode then c.entryNames else c.operands.take 1))
    | .error _ => c.ends 2
  | "yes" => c.prints ((List.replicate 64 (Bytes.ofString "y\n")).flatten)
  | "whoami" => line "root"
  | "id" => line (if c.hasOption 'u' || c.hasOption 'g' then "0" else "uid=0(root) gid=0(root) groups=0(root)")
  | "printenv" => match c.arguments with
    | [name] => (c.environment name).elim (c.ends 1) fun value => c.prints (value ++ [Bytes.newline])
    | _ => c.ends 0
  | "ln" | "sed" | "kill" => c.ends 1
  | "grep" => c.ends 2
  | "timeout" => c.ends 125
  | _ => c.ends 0

end UtilityCall

def utilityNames : List String :=
  ["true", "false", "echo", "printf", "cat", "head", "tail", "tr", "sleep", "pwd", "mkdir", "rmdir", "rm", "touch", "test",
   "[", "seq", "ls", "yes", "whoami", "id", "env", "printenv", "date", "sync", "ln", "sed", "kill", "grep", "timeout",
   "setsid", "sh", "dash", "bash"]

end Handover.Host

import Handover.Host.Shell.Format
import Handover.Host.Shell.State
import Handover.Host.Shell.Test
import Handover.Host.Shell.Token
import Handover.Path

/-! # Builtin commands

The commands that a shell carries out itself, as far as they run no other command. A mistake in the arguments of a
special one ends the script; with any other it only shows in the status.
-/
namespace Handover.Host.Shell

abbrev Builtin := List Bytes → State → State

namespace Builtin

def word (text : String) : Bytes := Bytes.ofString text

def number? (argument : Bytes) : Option Nat :=
  ((Test.number? argument).filter fun n : Int => decide (0 ≤ n ∧ n < (1 <<< 31 : Nat))).map Int.toNat

def misused (s : State) : State := s.done 2

/-! ## Leaving -/

def exit : Builtin := fun arguments s =>
  match arguments with
  | [] => s.finish (.exited s.status)
  | argument :: _ => (number? argument).elim s.mistake fun n => s.finish (.exited n)

def leave : Builtin := fun arguments s =>
  match arguments with
  | [] => { s with flow := .returning }
  | argument :: _ => (number? argument).elim s.mistake fun n => { s with flow := .returning, status := n }

/-- Leaves as many loops as there are at most. -/
def jump (flow : Nat → Flow) : Builtin := fun arguments s =>
  match number? (arguments.headD (word "1")) with
  | none | some 0 => s.mistake
  | some levels => if s.loops = 0 then s.done 0 else { s with flow := flow (min levels s.loops), status := 0 }

/-! ## Variables -/

def isName (name : Bytes) : Bool := Lexer.isName (name.map fun b => Char.ofNat b.toNat)

def binding (argument : Bytes) : Bytes × Option Bytes :=
  let name := argument.takeWhile fun b => decide (b ≠ FormatItem.code '=')
  (name, if name.length < argument.length then some (argument.drop (name.length + 1)) else none)

/-- Marks variables in some way, after they have been given the values that are there. -/
def declare (mark : State → Bytes → State) : Builtin := fun arguments s =>
  (arguments.filter fun argument => decide (argument ≠ word "-p")).foldl (fun s argument =>
    let (name, value) := binding argument
    if !s.goesOn then s
    else if !isName name then s.mistake
    else
      let marked := mark s name
      value.elim marked (marked.assign name)) (s.done 0)

def markExported (s : State) (name : Bytes) : State :=
  { s with exported := fun known => decide (known = name) || s.exported known }

def exportVariables : Builtin := declare markExported

def localVariables : Builtin := fun arguments s => if s.calls = 0 then s.mistake else declare State.localize arguments s

/-- A constant is only marked once it has its value. -/
def constantVariables : Builtin := fun arguments s =>
  let names := arguments.map fun argument => (binding argument).1
  let after := declare (fun s _ => s) arguments s
  if after.goesOn then { after with constants := names ++ after.constants } else after

def unset : Builtin := fun arguments s =>
  let ofFunctions := decide (arguments.head? = some (word "-f"))
  let names := arguments.filter fun argument => decide (argument ≠ word "-f" ∧ argument ≠ word "-v")
  names.foldl (fun s name =>
    if !s.goesOn then s
    else if ofFunctions then
      { s with functions := s.functions.filter fun known => decide (known.1 ≠ Text.lossy name) }
    else if isName name then s.unset name
    else s.mistake) (s.done 0)

def shift : Builtin := fun arguments s =>
  match number? (arguments.headD (word "1")) with
  | some n => if s.arguments.length < n then s.mistake else { s.done 0 with arguments := s.arguments.drop n }
  | none => s.mistake

/-! ## Options -/

def setFlag (on : Bool) (s : State) (flag : UInt8) : State :=
  if flag = FormatItem.code 'e' then { s with stopsOnFailure := on }
  else if flag = FormatItem.code 'u' then { s with demandsValues := on }
  else if flag = FormatItem.code 'f' then { s with ignoresPatterns := on }
  else if FormatItem.isOneOf "abCEiIlmnpqsvVx" flag then s
  else s.mistake

def setNamed (on : Bool) (s : State) (name : Bytes) : State :=
  if name = word "errexit" then { s with stopsOnFailure := on }
  else if name = word "nounset" then { s with demandsValues := on }
  else if name = word "noglob" then { s with ignoresPatterns := on }
  else s.mistake

/-- Options up to the first argument that is none; what is left replaces the arguments of the script. -/
def setOptions : Builtin
  | [], s => s.done 0
  | argument :: rest, s =>
    match argument with
    | sign :: flag :: flags =>
      let on := decide (sign = FormatItem.code '-')
      if argument = word "--" then { s.done 0 with arguments := rest }
      else if !on && decide (sign ≠ FormatItem.code '+') then { s.done 0 with arguments := argument :: rest }
      else
        let o := FormatItem.code 'o'
        let s := ((flag :: flags).filter fun flag => decide (flag ≠ o)).foldl (setFlag on) s
        if !s.goesOn then s
        else if (flag :: flags).contains o then
          match rest with
          | [] => s.done 0
          | name :: rest =>
            let s := setNamed on s name
            if s.goesOn then setOptions rest s else s
        else setOptions rest s
    | _ =>
      let arguments := if argument ≠ word "-" then argument :: rest else if rest = [] then s.arguments else rest
      { s.done 0 with arguments := arguments }

/-! ## Signals -/

/-- The number of a signal by number or by name; zero stands for the end of the script. -/
def signal? (text : Bytes) : Option Nat :=
  if text ≠ [] && text.all FormatItem.isDigit then (number? text).filter fun n => decide (n ≤ 64)
  else
    let name := (Text.lossy text).toUpper
    if name = "EXIT" then some 0
    else if name = "RTMIN" then some 34
    else if name = "RTMAX" then some 64
    else if name = "STKFLT" then none
    else (signalNames.findIdx? fun known => decide (known = "SIG" ++ name)).map Nat.succ

/-- Sets what signals run. A single argument, or a number in front, names signals that get their effect back. -/
def trap : Builtin := fun arguments s =>
  match if arguments.head? = some (word "--") then arguments.drop 1 else arguments with
  | [] => s.done 0
  | first :: rest =>
    let resets := rest.isEmpty || first.all FormatItem.isDigit && !first.isEmpty || decide (first = word "-")
    let names := if rest.isEmpty || decide (first ≠ word "-") && resets then first :: rest else rest
    names.foldl (fun s name =>
      match signal? name with
      | none => s.done 1
      | some signal =>
        let others := s.traps.filter fun known => decide (known.1 ≠ signal)
        { s with traps := if resets then others else (signal, Text.lossy first) :: others }) (s.done 0)

def isHarmless (signal : Nat) : Bool := [0, 17, 18, 23, 28].contains signal

def killSignal : Nat := 9

def terminate : Nat := 15

def killed? (arguments : List Bytes) : Option (Nat × List Bytes) :=
  match arguments with
  | option :: rest =>
    if option = word "--" then some (terminate, rest)
    else if option.head? = some (FormatItem.code '-') then
      match signal? (option.drop 1) with
      | some signal => some (signal, rest)
      | none =>
        if option = word "-s" then (signal? (rest.headD [])).map fun signal => (signal, rest.drop 1)
        else if option.take 2 = word "-s" then (signal? (option.drop 2)).map fun signal => (signal, rest)
        else none
    else some (terminate, arguments)
  | [] => none

/-! ## Output and input -/

def echoed : List Bytes → Bytes × Bool
  | [] => ([], true)
  | [argument] => unescaped argument
  | argument :: rest =>
    let (text, goesOn) := unescaped argument
    if goesOn then (echoed rest).map (text ++ FormatItem.code ' ' :: ·) id else (text, false)

def echo : Builtin := fun arguments s =>
  let quiet := decide (arguments.head? = some (word "-n"))
  let (text, goesOn) := echoed (if quiet then arguments.drop 1 else arguments)
  s.print (if quiet || !goesOn then text else text ++ [Bytes.newline]) 0

def printFormatted : Builtin := fun arguments s =>
  match if arguments.head? = some (word "--") then arguments.drop 1 else arguments with
  | [] => misused s
  | format :: arguments =>
    let (text, status) := printed format arguments
    s.print text status

/-- The line that is read from some text with its bytes marked as quoted or not, what follows it, and whether it is a
whole one. A backslash quotes the next byte and hides the end of a line, unless it is `raw`. -/
def inputLine (raw : Bool) : Bytes → (List (UInt8 × Bool) × Bytes) × Bool
  | [] => (([], []), false)
  | b :: rest =>
    if b = Bytes.newline then (([], rest), true)
    else if !raw && decide (b = FormatItem.code '\\') then
      match rest with
      | [] => (([], []), false)
      | c :: rest =>
        let ((line, after), whole) := inputLine raw rest
        ((if c = Bytes.newline then line else (c, true) :: line, after), whole)
    else
      let ((line, after), whole) := inputLine raw rest
      (((b, false) :: line, after), whole)

def isBlank (b : UInt8) : Bool := decide (b = 32 ∨ b = 9 ∨ b = 10)

def distribute (separators : Bytes) : List Bytes → List (UInt8 × Bool) → List (Bytes × Bytes)
  | [], _ => []
  | name :: names, line =>
    let separates (b : UInt8 × Bool) : Bool := !b.2 && separators.contains b.1
    let blank (b : UInt8 × Bool) : Bool := separates b && isBlank b.1
    let line := line.dropWhile blank
    if names.isEmpty then [(name, ((line.reverse.dropWhile blank).reverse).map Prod.fst)]
    else
      let field := line.takeWhile fun b => !separates b
      let rest := (line.drop field.length).dropWhile blank
      let rest := if rest.head?.any fun b => separates b && !isBlank b.1 then rest.drop 1 else rest
      (name, field.map Prod.fst) :: distribute separators names rest

def read : Builtin := fun arguments s =>
  let raw := decide (arguments.head? = some (word "-r"))
  let names := if raw then arguments.drop 1 else arguments
  if names = [] || !names.all isName then misused s
  else
    let ((line, rest), whole) := inputLine raw s.input
    let s := s.setInput rest
    let s := (distribute s.separators names line).foldl (fun s (name, value) => s.assign name value) s
    if s.goesOn then s.done (if whole then 0 else 1) else s

/-! ## Directories -/

def changeDirectory : Builtin := fun arguments s =>
  let value (name : String) : Bytes := (s.bindings (word name)).getD []
  let target := match arguments.filter fun argument => decide (argument ≠ word "-L" ∧ argument ≠ word "-P") with
    | [] => value "HOME"
    | argument :: _ => if argument = word "-" then value "OLDPWD" else argument
  if arguments = [] && target.isEmpty then s.done 0
  else match s.tree.locate s.view ⟨target⟩ with
    | .error _ => misused s
    | .ok inode =>
      if !s.tree.isDirectory inode then misused s
      else
        let dir := ((s.tree.pathOf inode).map Path.bytes).getD []
        { s.done 0 with
          view := { s.view with currentDir := inode }
          bindings := s.bindings.setAll [(word "OLDPWD", value "PWD"), (word "PWD", dir)] }

def printDirectory : Builtin := fun _ s =>
  s.print (((s.tree.pathOf s.view.currentDir).map Path.bytes).getD [Bytes.slash] ++ [Bytes.newline]) 0

/-- Waits for what is in the background. Only the last part of it is known. -/
def wait : Builtin := fun arguments s =>
  match arguments with
  | [] => s.done 0
  | argument :: _ => s.done (if s.parameter? "!" = some argument then s.background else 127)

def mask : Builtin := fun arguments s =>
  match arguments with
  | [] => s.print (word "0022\n") 0
  | _ => s.done 0

/-! ## By name -/

def surroundings (s : State) : Test.Surroundings := ⟨s.tree, s.view⟩

def special? : String → Option Builtin
  | ":" => some fun _ s => s.done 0
  | "exit" => some exit
  | "return" => some leave
  | "break" => some (jump .leaving)
  | "continue" => some (jump .repeating)
  | "export" => some exportVariables
  | "readonly" => some constantVariables
  | "local" => some localVariables
  | "unset" => some unset
  | "shift" => some shift
  | "set" => some setOptions
  | "trap" => some trap
  | _ => none

def regular? : String → Option Builtin
  | "true" => some fun _ s => s.done 0
  | "wait" => some wait
  | "false" => some fun _ s => s.done 1
  | "echo" => some echo
  | "printf" => some printFormatted
  | "test" => some fun arguments s => s.done (Test.status (surroundings s) arguments)
  | "[" => some fun arguments s => s.done (Test.bracketed (surroundings s) arguments)
  | "read" => some read
  | "cd" | "chdir" => some changeDirectory
  | "pwd" => some printDirectory
  | "umask" => some mask
  | _ => none

end Builtin

end Handover.Host.Shell

import Handover.Host.ProgramSearch
import Handover.Host.Shell.Builtin
import Handover.Host.Shell.Expansion
import Handover.Host.Shell.Grammar
import Handover.Host.Utility

/-! # The execution of commands

One step of a command is defined in terms of how its parts are run. Closing this recursion takes a bound on the depth,
and every loop a bound on its rounds.
-/
namespace Handover.Host.Shell

/-- Runs a command. The failure of a command that is tested does not end a script that stops on failure. -/
abbrev Runner := Bool → Command → State → State

namespace Execution

/-! ## Scripts -/

def ofCommands (run : Runner) (tested : Bool) (commands : List Command) (s : State) : State :=
  commands.foldl (fun s command => if s.goesOn then run tested command s else s) s

def ofScript (run : Runner) (tested : Bool) (script : String) (s : State) : State :=
  let (commands, mistaken) := Grammar.ofScript script
  let s := ofCommands run tested commands (if commands.isEmpty then s.done 0 else s)
  if mistaken && s.goesOn then s.mistake else s

/-- Runs what a trap has kept for a signal. The status comes back afterwards, unless it ends the script. -/
def trapped (run : Runner) (action : String) (s : State) : State :=
  let after := ofScript run false action { s with flow := .onward }
  if after.flow matches .ended _ then after else { after with flow := s.flow, status := s.status }

def concluded (run : Runner) (s : State) : State :=
  let killed := match s.flow with
    | .ended status => status.code?.isNone
    | _ => false
  match s.traps.lookup 0 with
  | some action =>
    if killed then s else trapped run action { s with traps := s.traps.filter fun known => decide (known.1 ≠ 0) }
  | none => s

def capture (run : Runner) : Capture := fun script s =>
  let (output, after) := s.collect fun s => concluded run (ofScript run false script s)
  (output, { after with status := s.status, substituted := some after.status })

/-! ## Redirections -/

def descriptorAt? (path : Bytes) : Option Nat :=
  [("/dev/stdin", 0), ("/dev/stdout", 1), ("/dev/stderr", 2), ("/dev/fd/0", 0), ("/dev/fd/1", 1), ("/dev/fd/2", 2),
   ("/proc/self/fd/0", 0), ("/proc/self/fd/1", 1), ("/proc/self/fd/2", 2)].findSome? fun (known, descriptor) =>
    if Bytes.ofString known = path then some descriptor else none

def sinkOf (t : FileTree) (inode : Nat) : Sink :=
  match t.node? inode with
  | some (.file _ _) => .file inode
  | some (.device .full) => .full
  | _ => .nowhere

/-- Opens a path for writing; what is there already is kept if something is to be appended. -/
def sink? (appends : Bool) (path : Bytes) (s : State) : Option (Sink × State) :=
  match descriptorAt? path with
  | some descriptor => (s.sinks.lookup descriptor).map fun sink => (sink, s)
  | none =>
    let present := match s.tree.locate s.view ⟨path⟩ with
      | .ok inode => if s.tree.isDirectory inode then none else some inode
      | .error _ => none
    match present, appends with
    | some inode, true => some (sinkOf s.tree inode, s)
    | _, _ => match FileTree.openForWriting s.view ⟨path⟩ s.tree with
      | .ok (inode, tree) => some (sinkOf tree inode, { s with tree := tree })
      | .error _ => none

def source? (path : Bytes) (s : State) : Option Bytes :=
  if descriptorAt? path = some 0 then some s.input
  else match s.tree.locate s.view ⟨path⟩ with
    | .ok inode => match s.tree.node? inode with
      | some (.file content _) => some content
      | some .socket => none
      | _ => some []
    | .error _ => none

def redirect (run : Runner) (r : Redirection) (s : State) : Bool × State :=
  let (target, s) := Expansion.textOf (capture run) r.target s
  let opened (appends : Bool) : Bool × State :=
    match sink? appends target s with
    | some (sink, s) => (true, s.setDescriptor r.descriptor (some sink) none)
    | none => (false, s)
  if !s.goesOn then (false, s)
  else match r.channel with
    | .here => (true, s.openStream r.descriptor target)
    | .read => match source? target s with
      | some text => (true, s.openStream r.descriptor text)
      | none => (false, s)
    | .write => opened false
    | .append => opened true
    | .duplicate =>
      if target = [FormatItem.code '-'] then (true, s.setDescriptor r.descriptor none none)
      else if target.length ≠ 1 || !target.all FormatItem.isDigit then (false, s.mistake)
      else
        let other := FormatItem.number target
        if (s.sinks.lookup other).isSome || (s.sources.lookup other).isSome then
          (true, s.copyDescriptor r.descriptor s other)
        else (false, s)

def redirectAll (run : Runner) : List Redirection → State → Bool × State
  | [], s => (true, s)
  | r :: rest, s =>
    let (applied, s) := redirect run r s
    if applied then redirectAll run rest s else (false, s)

def takeBack (redirections : List Redirection) (before after : State) : State :=
  let s := redirections.foldl (fun s r => s.copyDescriptor r.descriptor before r.descriptor) after
  { s with nested := before.nested }

/-- The output is not closed as long as it comes back after a redirection. -/
def hides (redirections : List Redirection) (s : State) : Bool :=
  redirections.any fun r => decide (s.sinks.lookup r.descriptor = some .output)

/-- Runs something under redirections. If one of them is not possible nothing is run, and the script may end. -/
def redirected (run : Runner) (redirections : List Redirection) (fatal : Bool) (body : State → State) (s : State) :
    State :=
  let (applied, inner) := redirectAll run redirections s
  takeBack redirections s
    (if !inner.goesOn then inner
     else if applied then body { inner with nested := s.nested || hides redirections s }
     else if fatal then inner.mistake
     else inner.done 2)

/-! ## Assignments -/

def assignment? (word : Word) : Option (Bytes × Word) :=
  match word with
  | .text bytes false :: rest =>
    let name := bytes.takeWhile fun b => decide (b ≠ FormatItem.code '=')
    if Builtin.isName name && decide (name.length < bytes.length) then
      some (name, Word.withHome (.text (bytes.drop (name.length + 1)) false :: rest))
    else none
  | _ => none

def assignAll (run : Runner) (words : List Word) (s : State) : State :=
  (words.filterMap assignment?).foldl (fun s (name, word) =>
    if !s.goesOn then s
    else
      let (value, s) := Expansion.textOf (capture run) word s
      if s.goesOn then s.assign name value else s) s

def temporarily (run : Runner) (words : List Word) (body : State → State) (s : State) : State :=
  let names := (words.filterMap assignment?).map Prod.fst
  let assigned := assignAll run words s
  if !assigned.goesOn then assigned
  else
    let inner := names.foldl Builtin.markExported assigned
    let after := names.foldl (fun t name => t.restore name (s.bindings name)) (body inner)
    { after with exported := fun name => if names.contains name then s.exported name else after.exported name }

/-- What the words of a command stand for. Those that look like assignments are not split after a command that makes
them. -/
def arguments (run : Runner) (words : List Word) (s : State) : List Bytes × State :=
  let declares := ["export", "readonly", "local"].any fun name =>
    decide ((words.head?.bind Word.literal?) = some (Bytes.ofString name))
  words.foldl (fun (arguments, s) word =>
    if !s.goesOn then (arguments, s)
    else if declares && (assignment? word).isSome then
      let (name, value) := (assignment? word).getD ([], word)
      let (text, s) := Expansion.textOf (capture run) value s
      (arguments ++ [name ++ FormatItem.code '=' :: text], s)
    else (Expansion.ofWord (capture run) word s).map (arguments ++ ·) id) ([], s)

/-! ## Programs -/

def notFound : Nat := 127

def notRunnable : Nat := 126

/-- Without the variable for it there is nowhere to look for programs. -/
def directories (s : State) : List Path :=
  if (s.bindings ProgramSearch.variableName).isSome then ProgramSearch.directories s.bindings else []

def missing (s : State) (name : Bytes) (cause : Errno) : Nat :=
  let isFile (path : Path) : Bool := match s.tree.locate s.view path with
    | .ok inode => (s.tree.node? inode).any fun node => (node matches .file _ _)
    | .error _ => false
  let isThere :=
    if Bytes.slash ∈ name then !([Errno.noEntry, .notDirectory, .nameTooLong].contains cause)
    else !name.isEmpty && (directories s).any fun dir => isFile (dir.join name)
  if isThere then notRunnable else notFound

def quotedWord (text : Bytes) : Word := [.text text true]

def plainCommand (arguments : List Bytes) : Command :=
  .simple ((Bytes.ofString "command" :: arguments).map quotedWord) []

/-- Another shell by its own name: options, then a script with its name and arguments, or else what can be read. -/
def shell (run : Runner) (replacing : Bool) (own : Bytes) (arguments : List Bytes) (s : State) : State :=
  let options := arguments.takeWhile fun argument => decide (argument.head? = some (FormatItem.code '-'))
  let has (option : Char) : Bool := options.any fun argument => argument.contains (FormatItem.code option)
  let rest := arguments.drop options.length
  let start (script name : Bytes) (arguments : List Bytes) : State :=
    s.elsewhere replacing name arguments fun s =>
      concluded run (ofScript run false (Text.lossy script)
        { s with stopsOnFailure := has 'e', demandsValues := has 'u' })
  if has 'c' then
    match rest with
    | script :: arguments => start script (arguments.headD own) (arguments.drop 1)
    | [] => s.done 2
  else match rest with
    | path :: arguments => match if has 's' then some s.input else source? path s with
      | some script => if has 's' then start script own rest else start script path arguments
      | none => s.done 2
    | [] => start s.input own []

def inEnvironment (run : Runner) (tested : Bool) (arguments : List Bytes) (s : State) : State :=
  let clears := arguments.head?.any fun argument => argument = Bytes.ofString "-i" ∨ argument = [FormatItem.code '-']
  let arguments := if clears then arguments.drop 1 else arguments
  let unsets := decide (arguments.head? = some (Bytes.ofString "-u"))
  let s := if unsets then { s with bindings := s.bindings.unset ((arguments.drop 1).headD []) } else s
  let arguments := if unsets then arguments.drop 2 else arguments
  let bindings := arguments.takeWhile fun argument => (Builtin.binding argument).2.isSome
  let command := arguments.drop bindings.length
  let s := if command = [] then s.done 0 else s
  s.apart fun s =>
    let s := if clears then { s with exported := fun _ => false } else s
    let s := (bindings.map Builtin.binding).foldl (fun s (name, value) =>
      { Builtin.markExported s name with bindings := s.bindings.set name (value.getD []) }) s
    if command = [] then s else run tested (plainCommand command) s

def readsInput : List String := ["cat", "head", "tail", "tr", "sed", "grep"]

def utility (name : String) (arguments : List Bytes) (s : State) : State :=
  let result := (UtilityCall.mk s.view s.tree s.environment arguments s.input).run name
  let s := { s with tree := result.tree }
  let s := if readsInput.contains name then s.setInput [] else s
  (if result.pauses then s.pause else s).print result.output result.status

def execute (run : Runner) (tested replacing : Bool) (executable : Executable) (own : Bytes) (arguments : List Bytes)
    (s : State) : State :=
  let afterOptions := arguments.dropWhile UtilityCall.isOption
  match executable with
  | .script text => s.elsewhere replacing own arguments fun s => concluded run (ofScript run false text s)
  | .helper => s.done 1
  | .utility "sh" | .utility "dash" | .utility "bash" => shell run replacing own arguments s
  | .utility "env" => inEnvironment run tested arguments s
  | .utility "timeout" =>
    if afterOptions.length < 2 then s.done 125 else s.apart (run tested (plainCommand (afterOptions.drop 1)))
  | .utility "setsid" => if afterOptions = [] then s.done 1 else s.apart (run tested (plainCommand afterOptions))
  | .utility name => utility name arguments s

def program (run : Runner) (tested replacing : Bool) (name : Bytes) (arguments : List Bytes) (s : State) : State :=
  match ProgramSearch.findIn s.tree s.view (directories s) ⟨name⟩ with
  | .ok executable =>
    let s := if replacing then { s with traps := s.traps.filter fun known => decide (known.2 = "") } else s
    execute run tested replacing executable name arguments s
  | .error cause => s.done (missing s name cause)

/-! ## Simple commands -/

def call (run : Runner) (tested : Bool) (body : Command) (arguments : List Bytes) (s : State) : State :=
  let inner := { s with arguments := arguments, locals := [], loops := 0, calls := s.calls + 1 }
  let after := run tested body inner
  let after := after.locals.foldl (fun t (name, value) => t.restore name value) after
  { after with
    arguments := s.arguments, locals := s.locals, loops := s.loops, calls := s.calls,
    flow := if after.flow = .returning then .onward else after.flow }

def signalled (run : Runner) (signal : Nat) (s : State) : State :=
  let effect := if Builtin.isHarmless signal then s else s.finish (.killed signal)
  if signal = Builtin.killSignal then effect
  else match s.traps.lookup signal with
    | some "" => s
    | some action => if signal = 0 then s else trapped run action s
    | none => effect

/-- Only the script itself, and what it has left in the background, can be reached. -/
def kill (run : Runner) (arguments : List Bytes) (s : State) : State :=
  match Builtin.killed? arguments with
  | none | some (_, []) => s.done 2
  | some (signal, targets) =>
    targets.foldl (fun s target =>
      if !s.goesOn then s
      else if s.parameter? "$" = some target then signalled run signal s
      else if s.parameter? "!" = some target then
        if Builtin.isHarmless signal then s else { s with background := 128 + signal }
      else if target = Bytes.ofString "1" then s
      else s.done (if (Builtin.number? target).isSome then 1 else 2)) (s.done 0)

def keywords : List String :=
  ["!", "case", "do", "done", "elif", "else", "esac", "fi", "for", "if", "in", "then", "until", "while", "\x7b", "\x7d"]

def kind? (name : String) (s : State) : Option String :=
  if keywords.contains name then some "a shell keyword"
  else if (Builtin.special? name).isSome || ["exec", "eval", "."].contains name then some "a special shell builtin"
  else if (s.functions.lookup name).isSome then some "a shell function"
  else if (Builtin.regular? name).isSome || ["command", "type", "kill"].contains name then some "a shell builtin"
  else none

def place? (name : Bytes) (s : State) : Option Bytes :=
  if (kind? (Text.lossy name) s).isSome then some name
  else if Bytes.slash ∈ name then (ProgramSearch.findIn s.tree s.view (directories s) ⟨name⟩).toOption.map fun _ => name
  else (directories s).findSome? fun dir =>
    (ProgramSearch.executable s.tree s.view (dir.join name)).toOption.map fun _ => (dir.join name).bytes

def printPlace (names : List Bytes) (s : State) : State :=
  match place? (names.headD []) s with
  | some place => s.print (place ++ [Bytes.newline]) 0
  | none => s.done notFound

def describe (names : List Bytes) (s : State) : State :=
  let line (name : Bytes) : Bytes :=
    name ++ match kind? (Text.lossy name) s, place? name s with
      | some kind, _ => Bytes.ofString (" is " ++ kind ++ "\n")
      | none, some place => Bytes.ofString " is " ++ place ++ [Bytes.newline]
      | none, none => Bytes.ofString ": not found\n"
  s.print (names.flatMap line) (if names.all fun name => (place? name s).isSome then 0 else notFound)

/-- What a mistake amounts to that does not end the script. -/
def forgiven (before after : State) : State :=
  if after.goesOn then after else Builtin.misused { after with flow := before.flow }

def plain (run : Runner) (tested : Bool) (name : Bytes) (arguments : List Bytes) (s : State) : State :=
  match Text.lossy name with
  | "kill" => kill run arguments s
  | "type" => describe arguments s
  | text => match Builtin.regular? text with
    | some builtin => forgiven s (builtin arguments s)
    | none => program run tested false name arguments s

def source (run : Runner) (tested : Bool) (arguments : List Bytes) (s : State) : State :=
  match arguments with
  | [] => s.mistake
  | path :: _ => match source? path s with
    | none => s.mistake
    | some script =>
      let after := ofScript run tested (Text.lossy script) (s.done 0)
      { after with flow := if after.flow = .returning then .onward else after.flow }

def special? (run : Runner) (tested : Bool) (name : String) : Option Builtin :=
  match name with
  | "eval" => some fun arguments s =>
    let script := Text.lossy ([FormatItem.code ' '].intercalate arguments)
    ofScript run tested script (if arguments = [] then s.done 0 else s)
  | "." => some (source run tested)
  | name => Builtin.special? name

/-- Redirects for good, and may go on as another program. -/
def replace (run : Runner) (tested : Bool) (arguments : List Bytes) (redirections : List Redirection) (s : State) :
    State :=
  let (applied, s) := redirectAll run redirections s
  if !s.goesOn then s
  else if !applied then s.mistake
  else
    let s := s.retireOutput
    match arguments with
    | [] => s.done 0
    | name :: arguments =>
      let after := if name = [] then s.done notRunnable else program run tested true name arguments s
      if after.goesOn then after.finish (.exited after.status) else after

def leaves (name : String) : Bool := ["exit", "return", "break", "continue", "eval"].contains name

def byName (run : Runner) (tested : Bool) (name : Bytes) (arguments : List Bytes) (s : State) : State :=
  match s.functions.lookup (Text.lossy name) with
  | some body => call run tested body arguments s
  | none =>
    if name = Bytes.ofString "command" then
      match arguments.dropWhile fun argument => decide (argument = Bytes.ofString "-p") with
      | [] => s.done 0
      | option :: rest =>
        if option = Bytes.ofString "-v" then printPlace rest s
        else if option = Bytes.ofString "-V" then describe (rest.take 1) s
        else if option = Bytes.ofString "exec" then replace run tested rest [] s
        else match special? run tested (Text.lossy option) with
          | some builtin =>
            let after := builtin rest s
            let isMissing := decide (option = Bytes.ofString ".") && (source? (rest.headD []) s).isNone
            if leaves (Text.lossy option) || (option = Bytes.ofString "." && !isMissing) then after
            else forgiven s after
          | none => plain run tested option rest s
    else plain run tested name arguments s

def simple (run : Runner) (tested : Bool) (words : List Word) (redirections : List Redirection) (s : State) : State :=
  let assignments := words.takeWhile fun word => (assignment? word).isSome
  let (found, s) := arguments run (words.drop assignments.length) { s with substituted := none }
  if !s.goesOn then s
  else match found with
    | [] => redirected run redirections false (fun s =>
      let s := assignAll run assignments s
      if s.goesOn then s.done (s.substituted.getD 0) else s) s
    | name :: arguments =>
      if name = Bytes.ofString "exec" then replace run tested arguments redirections (assignAll run assignments s)
      else match special? run tested (Text.lossy name) with
        | some builtin => redirected run redirections true (fun s =>
          let s := assignAll run assignments s
          if s.goesOn then builtin arguments s else s) s
        | none =>
          redirected run redirections false (temporarily run assignments (byName run tested name arguments)) s

/-! ## Compound commands -/

/-- Every part but the last prints what the next one reads. -/
def pipe (run : Runner) (tested : Bool) : List Command → State → State
  | [], s => s
  | [command], s => s.apart fun s => concluded run (run tested command s)
  | command :: commands, s =>
    let (output, after) := s.collect fun s => concluded run (run tested command s)
    if !after.goesOn then after
    else (pipe run tested commands (after.openStream State.standardInput output)).copyDescriptor 0 s 0

/-- Nobody waits for a part in the background. -/
def detached (run : Runner) (command : Command) (s : State) : State :=
  let after := s.apart fun s => concluded run (run false command (s.openStream State.standardInput []))
  let beats := (after.beats.take (after.beats.length - s.beats.length)).filter fun beat => decide (beat ≠ .pauses)
  { after with beats := beats ++ s.beats, background := after.status, status := 0 }

/-- Whether a loop goes on with another round after its body, and in what state. -/
def nextRound (s : State) : Bool × State :=
  match s.flow with
  | .onward => (true, s)
  | .leaving levels => (false, { s with flow := if levels ≤ 1 then .onward else .leaving (levels - 1) })
  | .repeating levels =>
    if levels ≤ 1 then (true, { s with flow := .onward }) else (false, { s with flow := .repeating (levels - 1) })
  | _ => (false, s)

/-- A loop whose last round had the given status; `fuel` bounds the number of rounds. -/
def loop (run : Runner) (tested goal : Bool) (test body : Command) : Nat → Nat → State → State
  | 0, status, s => s.done status
  | fuel + 1, status, s =>
    let s := run true test s
    let goesOn := s.goesOn
    if goesOn && decide (s.status = 0) != goal then s.done status
    else
      match nextRound (if goesOn then run tested body s else s) with
      | (true, s) => loop run tested goal test body fuel (if goesOn then s.status else status) s
      | (false, s) => s

def iterate (run : Runner) (tested : Bool) (name : Bytes) (body : Command) : List Bytes → State → State
  | [], s => s
  | value :: values, s =>
    let s := s.assign name value
    if !s.goesOn then s
    else match nextRound (run tested body s) with
      | (true, s) => iterate run tested name body values s
      | (false, s) => s

def fitsAny (run : Runner) (subject : Bytes) : List Word → State → Bool × State
  | [], s => (false, s)
  | word :: words, s =>
    let (marks, s) := Expansion.ofPieces (capture run) word s
    if Pattern.fits (Pattern.ofMarked (Expansion.marked marks)) subject then (true, s) else fitsAny run subject words s

def choose (run : Runner) (tested : Bool) (subject : Bytes) : List (List Word × Command) → State → State
  | [], s => s.done 0
  | (patterns, body) :: branches, s =>
    let (fits, s) := fitsAny run subject patterns s
    if !s.goesOn then s else if fits then run tested body s else choose run tested subject branches s

def maxRounds : Nat := 10000

def looping (body : State → State) (s : State) : State :=
  { body { s with loops := s.loops + 1 } with loops := s.loops }

/-- A failure ends a script that stops on failure. -/
def checked (tested : Bool) (s : State) : State :=
  if s.goesOn && !tested && s.stopsOnFailure && decide (s.status ≠ 0) then s.finish (.exited s.status) else s

def step (run : Runner) : Runner := fun tested command s =>
  match command with
  | .simple words redirections => checked tested (simple run tested words redirections s)
  | .sequence [] => s.done 0
  | .sequence commands => ofCommands run tested commands s
  | .subshell commands => checked tested (s.apart fun s => concluded run (ofCommands run tested commands s))
  | .background command => detached run command s
  | .pipeline commands => checked tested (pipe run tested commands s)
  | .negation command =>
    let s := run true command s
    if s.goesOn then s.done (if s.status = 0 then 1 else 0) else s
  | .chain onFailure first second =>
    let s := run true first s
    if s.goesOn && decide (s.status ≠ 0) == onFailure then run tested second s else s
  | .conditional test body alternative =>
    let s := run true test s
    if !s.goesOn then s else if s.status = 0 then run tested body s else run tested alternative s
  | .loop goal test body => looping (loop run tested goal test body maxRounds 0) s
  | .iteration name words body =>
    let (values, s) := words.elim (s.arguments, s) fun words => Expansion.ofWords (capture run) words s
    if s.goesOn then looping (iterate run tested (Bytes.ofString name) body values) (s.done 0) else s
  | .choice subject branches =>
    let (subject, s) := Expansion.textOf (capture run) subject s
    if s.goesOn then choose run tested subject branches s else s
  | .definition name body =>
    { s.done 0 with functions := (name, body) :: s.functions.filter fun known => decide (known.1 ≠ name) }
  | .redirected command redirections => checked tested (redirected run redirections false (run tested command) s)

/-- `fuel` bounds how deep commands are nested in each other. -/
def runUpTo : Nat → Runner
  | 0 => fun _ _ s => s.mistake
  | fuel + 1 => step (runUpTo fuel)

end Execution

end Handover.Host.Shell

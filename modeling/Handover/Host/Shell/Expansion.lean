import Handover.Host.Shell.Arithmetic
import Handover.Host.Shell.Pattern
import Handover.Host.Shell.State
import Handover.Host.Shell.Test
import Handover.Host.Shell.Token

/-! # The expansion of words

A word stands for text, or for several fields if what its references stand for is split. Splitting and patterns leave
alone what is quoted, so each byte is marked with where it came from until the fields are made.
-/
namespace Handover.Host.Shell

inductive Mark where
  | byte (b : UInt8) (quoted splits : Bool)
  /-- Something quoted stands here, if only the empty text. -/
  | quotes
  | gap
deriving DecidableEq, Repr

abbrev Expansion := List Mark × State

/-- How a script that occurs in a word is run: it prints, and may do more. -/
abbrev Capture := String → State → Bytes × State

namespace Expansion

def ofText (bytes : Bytes) (quoted splits : Bool) : List Mark :=
  (if quoted then [Mark.quotes] else []) ++ bytes.map fun b => .byte b quoted splits

def ofValue (bytes : Bytes) (quoted : Bool) : List Mark := ofText bytes quoted (!quoted)

/-- The bytes alone; fields are joined by a blank. -/
def bytes (marks : List Mark) : Bytes :=
  marks.filterMap fun
    | .byte b _ _ => some b
    | .gap => some 32
    | .quotes => none

def marked (marks : List Mark) : List (UInt8 × Bool) :=
  marks.filterMap fun
    | .byte b quoted _ => some (b, quoted)
    | _ => none

def splitting (marks : List Mark) : List Mark :=
  marks.map fun
    | .byte b false _ => .byte b false true
    | mark => mark

def ofArguments (s : State) (quoted : Bool) : List Mark :=
  [Mark.gap].intercalate (s.arguments.map fun argument => ofValue argument quoted)

/-- What a word gets of an output: neither the newlines at its end nor any null byte. -/
def trimmed (output : Bytes) : Bytes :=
  ((output.filter fun b => decide (b ≠ Bytes.nul)).reverse.dropWhile (· = Bytes.newline)).reverse

def ofParameter (name : String) (quoted : Bool) (s : State) : Expansion :=
  if name = "@" ∨ (name = "*" ∧ !quoted) then (ofArguments s quoted, s)
  else match s.parameter? name with
    | some value => (ofValue value quoted, s)
    | none => (ofValue [] quoted, if s.demandsValues && decide (name ≠ "*") then s.mistake else s)

def numberOf (s : State) (name : String) : Option Int :=
  match (s.parameter? name).getD [] with
  | [] => some 0
  | value => do
    let text := (← String.fromUTF8? ⟨value.toArray⟩).toList
    let text := ((text.dropWhile Test.isBlank).reverse.dropWhile Test.isBlank).reverse
    match text with
    | '-' :: digits => (Arithmetic.number? digits).map Neg.neg
    | '+' :: digits => Arithmetic.number? digits
    | [] => some 0
    | digits => Arithmetic.number? digits

def ofArithmetic (expression : Bytes) (quoted : Bool) (s : State) : Expansion :=
  match Arithmetic.value? (numberOf s) (Text.lossy expression) with
  | none => ([], s.mistake)
  | some (n, assigned) =>
    let s := assigned.foldl (fun s (name, n) => s.assign (Bytes.ofString name) (Bytes.ofString (Text.decimal n))) s
    (ofValue (Bytes.ofString (Text.decimal n)) quoted, s)

mutual

def ofPiece (capture : Capture) : Piece → State → Expansion
  | .text bytes quoted, s => (ofText bytes quoted false, s)
  | .parameter name quoted, s => ofParameter name quoted s
  | .size name quoted, s =>
    match s.parameter? name with
    | some value => (ofValue (Bytes.ofString value.length.repr) quoted, s)
    | none => (ofValue (Bytes.ofString "0") quoted, if s.demandsValues then s.mistake else s)
  | .modified name modifier forEmpty word quoted, s =>
    let value := s.parameter? name
    let missing := value.elim true fun value => forEmpty && value.isEmpty
    let present : Expansion := ofParameter name quoted s
    let stand (s : State) : Expansion :=
      let (marks, s) := ofPieces capture word s
      ((if quoted then [Mark.quotes] else []) ++ splitting marks, s)
    match modifier with
    | .fallback assigns =>
      if !missing then present
      else
        let (marks, s) := stand s
        if !assigns then (marks, s)
        else if !Lexer.isName name.toList then (marks, s.mistake)
        else (marks, s.assign (Bytes.ofString name) (bytes marks))
    | .replacement => if missing then (ofValue [] quoted, s) else stand s
    | .demand => if missing then ([], s.mistake) else present
    | .cut atEnd longest =>
      let (pattern, s) := ofPieces capture word s
      match value with
      | some value => (ofValue (Pattern.cut (Pattern.ofMarked (marked pattern)) atEnd longest value) quoted, s)
      | none => ofParameter name quoted s
  | .arithmetic expression quoted, s =>
    let (marks, s) := ofPieces capture expression s
    ofArithmetic (bytes marks) quoted s
  | .output script quoted, s =>
    let (output, s) := capture script s
    (ofValue (trimmed output) quoted, s)

def ofPieces (capture : Capture) : List Piece → State → Expansion
  | [], s => ([], s)
  | piece :: word, s =>
    let (marks, s) := ofPiece capture piece s
    let (more, s) := ofPieces capture word s
    (marks ++ more, s)

end

/-! ## Fields -/

/-- The fields that are complete, the one that has begun, and whether a blank has just ended one. -/
structure Splitter where
  complete : List (List (UInt8 × Bool))
  current : Option (List (UInt8 × Bool))
  afterBlank : Bool

namespace Splitter

def cut (p : Splitter) (afterBlank : Bool) : Splitter :=
  ⟨p.complete ++ p.current.toList, none, afterBlank⟩

def isBlank (b : UInt8) : Bool := decide (b = 32 ∨ b = 9 ∨ b = 10)

/-- Blanks only separate fields; any other separator ends one, if only an empty one. -/
def step (separators : Bytes) (p : Splitter) : Mark → Splitter
  | .quotes => { p with current := some (p.current.getD []), afterBlank := false }
  | .gap => p.cut false
  | .byte b quoted splits =>
    if splits && separators.contains b then
      if isBlank b then p.cut (p.current.isSome || p.afterBlank)
      else if p.current.isNone && p.afterBlank then { p with afterBlank := false }
      else { p with current := some (p.current.getD []) }.cut false
    else { p with current := some (p.current.getD [] ++ [(b, quoted)]), afterBlank := false }

end Splitter

def fields (separators : Bytes) (marks : List Mark) : List (List (UInt8 × Bool)) :=
  ((marks.foldl (Splitter.step separators) ⟨[], none, false⟩).cut false).complete

def isPattern (field : List (UInt8 × Bool)) : Bool :=
  field.any fun (b, quoted) => !quoted && ("*?[".toList.map Pattern.code).contains b

def components (field : List (UInt8 × Bool)) : List (List (UInt8 × Bool)) := field.splitOnP fun (b, _) => b = Bytes.slash

def names (s : State) (dir : Bytes) : List Bytes :=
  match s.tree.list s.view ⟨if dir = [] then [Bytes.dot] else dir⟩ with
  | .ok entries => entries.map Prod.fst
  | .error _ => []

/-- Extends paths by a component, which stands for every entry that fits if it is a pattern. -/
def extend (s : State) (paths : List Bytes) (component : List (UInt8 × Bool)) : List Bytes :=
  paths.flatMap fun dir =>
    if isPattern component then
      let pattern := Pattern.ofMarked component
      let hidden := decide ((component.head?.map Prod.fst) = some Bytes.dot)
      ((names s dir).filter fun name =>
        (hidden || decide (name.head? ≠ some Bytes.dot)) && Pattern.fits pattern name).map (dir ++ ·)
    else [dir ++ component.map Prod.fst]

/-- The paths that a field stands for: those that fit it as a pattern, or itself if there are none. -/
def paths (s : State) (field : List (UInt8 × Bool)) : List Bytes :=
  let itself := field.map Prod.fst
  if s.ignoresPatterns || !isPattern field then [itself]
  else match components field with
    | [] => [itself]
    | first :: rest =>
      let found := rest.foldl (fun paths component => extend s (paths.map (· ++ [Bytes.slash])) component) (extend s [[]] first)
      let found := found.filter fun path => s.tree.locate s.view ⟨path⟩ matches .ok _
      if found = [] then [itself] else found.mergeSort fun a b => a ≤ b

def isArguments : Piece → Bool
  | .parameter name quoted => quoted && decide (name = "@")
  | _ => false

/-- The fields that a word stands for. Quoted arguments of which there are none leave nothing behind. -/
def ofWord (capture : Capture) (word : Word) (s : State) : List Bytes × State :=
  let (marks, s) := ofPieces capture word s
  if word.any isArguments && s.arguments.isEmpty && (marked marks).isEmpty then ([], s)
  else ((fields s.separators marks).flatMap (paths s), s)

def ofWords (capture : Capture) : List Word → State → List Bytes × State
  | [], s => ([], s)
  | word :: words, s =>
    let (first, s) := ofWord capture word s
    let (rest, s) := ofWords capture words s
    (first ++ rest, s)

def textOf (capture : Capture) (word : Word) (s : State) : Bytes × State := (ofPieces capture word s).map bytes id

end Expansion

end Handover.Host.Shell

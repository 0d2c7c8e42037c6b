import Handover.Host.FileTree

/-! # Tests of a shell

Conditions on strings, numbers and files, which are put together with signs for negation, conjunction and disjunction. A
condition that makes no sense has no value.
-/
namespace Handover.Host.Shell.Test

def ofBool (b : Option Bool) : Nat := b.elim 2 fun b => if b then 0 else 1

def isBlank (c : Char) : Bool := " \t\n\x0b\x0c\r".toList.contains c

def number? (argument : Bytes) : Option Int := do
  let text := (← String.fromUTF8? ⟨argument.toArray⟩).toList
  let text := ((text.dropWhile isBlank).reverse.dropWhile isBlank).reverse
  let (negative, digits) := match text with
    | '-' :: digits => (true, digits)
    | '+' :: digits => (false, digits)
    | digits => (false, digits)
  if digits = [] || !digits.all Char.isDigit then none
  let n : Nat := digits.foldl (fun n c => n * 10 + (c.toNat - 48)) 0
  if n < 1 <<< 63 then return if negative then -(n : Int) else n else none

structure Surroundings where
  tree : FileTree
  view : FileTree.View

def node? (s : Surroundings) (path : Bytes) : Option Node :=
  match s.tree.locate s.view ⟨path⟩ with
  | .ok inode => s.tree.node? inode
  | .error _ => none

/-- The superuser may read and write whatever there is, but run only what is meant to be run. -/
def fileTest? (s : Surroundings) (operator : String) (path : Bytes) : Option Bool :=
  let node := node? s path
  match operator with
  | "-e" | "-r" | "-w" | "-O" | "-G" => some node.isSome
  | "-d" => some (node.any fun n => n matches .directory _ _ _)
  | "-f" => some (node.any fun n => n matches .file _ _)
  | "-S" => some (node.any fun n => n matches .socket)
  | "-c" => some (node.any fun n => n matches .device _)
  | "-s" => some (node.any fun
    | .file content run => !content.isEmpty || run.isSome
    | .directory _ _ _ => true
    | _ => false)
  | "-x" => some (node.any fun
    | .file _ run => run.isSome
    | .directory _ _ _ => true
    | _ => false)
  | "-b" | "-p" | "-h" | "-L" | "-g" | "-u" | "-k" | "-t" => some false
  | _ => none

def unary? (s : Surroundings) (operator : Bytes) (argument : Bytes) : Option Bool :=
  match Text.lossy operator with
  | "-n" => some !argument.isEmpty
  | "-z" => some argument.isEmpty
  | operator => fileTest? s operator argument

def binary? (operator left right : Bytes) : Option (Option Bool) :=
  let compared (holds : Int → Int → Bool) : Option (Option Bool) :=
    some (do return holds (← number? left) (← number? right))
  match Text.lossy operator with
  | "=" => some (some (left = right))
  | "!=" => some (some (left ≠ right))
  | "<" => some (some (decide (left < right)))
  | ">" => some (some (decide (right < left)))
  | "-eq" => compared fun a b => a = b
  | "-ne" => compared fun a b => a ≠ b
  | "-lt" => compared fun a b => a < b
  | "-le" => compared fun a b => a ≤ b
  | "-gt" => compared fun a b => a > b
  | "-ge" => compared fun a b => a ≥ b
  | _ => none

def word (s : String) : Bytes := Bytes.ofString s

/-! ## Reading conditions -/

inductive Role where
  | nothing | operand | negation | both | either | opening | closing | unary | binary
deriving DecidableEq, Repr

def unaryOperators : List String :=
  ["-r", "-w", "-x", "-e", "-f", "-d", "-c", "-b", "-p", "-u", "-g", "-k", "-s", "-t", "-z", "-n", "-h", "-L", "-O", "-G",
   "-S"]

def binaryOperators : List String :=
  ["=", "!=", "<", ">", "-eq", "-ne", "-ge", "-gt", "-le", "-lt"]

def isBinary (argument : Bytes) : Bool := binaryOperators.any fun operator => decide (word operator = argument)

/-- The role of the first argument. What could be a unary operator is an operand if nothing follows, or a binary operator
that something else follows. -/
def role : List Bytes → Role
  | [] => .nothing
  | argument :: rest =>
    match Text.lossy argument with
    | "!" => .negation
    | "-a" => .both
    | "-o" => .either
    | "(" => if rest = [] then .operand else .opening
    | ")" => .closing
    | text =>
      if binaryOperators.contains text then .binary
      else if !unaryOperators.contains text then .operand
      else match rest with
        | [] => .operand
        | [_] => .unary
        | next :: _ => if isBinary next then .operand else .unary

/-- Whether something holds, and the arguments from the last one that it takes. -/
abbrev Reading := Option (Bool × List Bytes)

mutual

/-- Conditions of which one is to hold; `fuel` bounds how deep they are nested and how many there are. -/
def disjunction (s : Surroundings) : Nat → List Bytes → Reading
  | 0, _ => none
  | fuel + 1, arguments => do
    let (first, rest) ← conjunction s fuel arguments
    if role (rest.drop 1) = .either then
      let (second, rest) ← disjunction s fuel (rest.drop 2)
      return (first || second, rest)
    else return (first, rest)

def conjunction (s : Surroundings) : Nat → List Bytes → Reading
  | 0, _ => none
  | fuel + 1, arguments => do
    let (first, rest) ← negated s fuel arguments
    if role (rest.drop 1) = .both then
      let (second, rest) ← conjunction s fuel (rest.drop 2)
      return (first && second, rest)
    else return (first, rest)

def negated (s : Surroundings) : Nat → List Bytes → Reading
  | 0, _ => none
  | fuel + 1, arguments =>
    if role arguments = .negation then
      if arguments.length = 1 then some (true, arguments)
      else (negated s fuel (arguments.drop 1)).map fun (holds, rest) => (!holds, rest)
    else primary s fuel (decide (role arguments = .unary)) arguments

def primary (s : Surroundings) : Nat → Bool → List Bytes → Reading
  | 0, _, _ => none
  | _, _, [] => some (false, [])
  | fuel + 1, isUnary, first :: rest =>
    if isUnary then
      match rest with
      | [] => none
      | operand :: _ => (unary? s first operand).map fun holds => (holds, rest)
    else if role (first :: rest) = .opening && !isBinary (rest.headD []) then
      if role rest = .closing then some (false, rest)
      else do
        let (holds, rest) ← disjunction s fuel rest
        if role (rest.drop 1) = .closing then return (holds, rest.drop 1) else none
    else
      match rest with
      | operator :: right :: _ =>
        if isBinary operator then do
          let holds ← (← binary? operator first right)
          return (holds, rest.drop 1)
        else some (!first.isEmpty, first :: rest)
      | [operator] => if isBinary operator then none else some (!first.isEmpty, [first, operator])
      | [] => some (!first.isEmpty, [first])

end

def whole (reading : Reading) : Option Bool :=
  reading.bind fun (holds, rest) => if rest.length ≤ 1 then some holds else none

/-- Whether a condition holds. With few arguments it is clear which of them is the operator. -/
def holds? (s : Surroundings) (arguments : List Bytes) : Option Bool :=
  let fuel := 5 * arguments.length + 5
  let read (arguments : List Bytes) : Option Bool := whole (disjunction s fuel arguments)
  let three (arguments : List Bytes) : Option Bool :=
    match arguments with
    | [first, operator, last] =>
      if isBinary operator then whole (primary s fuel false arguments)
      else if first = word "(" ∧ last = word ")" then read [operator]
      else if first = word "!" then (read [operator, last]).map not
      else read arguments
    | _ => read arguments
  match arguments with
  | [] => some false
  | [first, second, third, last] =>
    if first = word "(" ∧ last = word ")" then read [second, third]
    else if first = word "!" then (three [second, third, last]).map not
    else read arguments
  | _ => three arguments

def status (s : Surroundings) (arguments : List Bytes) : Nat := ofBool (holds? s arguments)

/-- As between brackets, of which the closing one must be there. -/
def bracketed (s : Surroundings) (arguments : List Bytes) : Nat :=
  if arguments.getLast? = some (word "]") then status s arguments.dropLast else 2

end Handover.Host.Shell.Test

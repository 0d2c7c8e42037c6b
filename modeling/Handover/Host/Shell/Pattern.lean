import Handover.Bytes

/-! # Patterns of a shell

A pattern matches whole strings of bytes. A star stands for any string, a question mark for any byte, and brackets for
one of several bytes; what is quoted stands for itself.
-/
namespace Handover.Host.Shell

inductive PatternItem where
  | byte (b : UInt8)
  | any
  | anything
  | oneOf (negated : Bool) (ranges : List (UInt8 × UInt8))
deriving DecidableEq, Repr

abbrev Pattern := List PatternItem

namespace Pattern

def code (c : Char) : UInt8 := UInt8.ofNat c.toNat

/-- The ranges inside brackets, where a hyphen stands between two ends. -/
def ranges : Bytes → List (UInt8 × UInt8)
  | low :: hyphen :: high :: rest =>
    if hyphen = code '-' then (low, high) :: ranges rest else (low, low) :: ranges (hyphen :: high :: rest)
  | b :: rest => (b, b) :: ranges rest
  | [] => []

def bracketed? (text : List (UInt8 × Bool)) : Option (PatternItem × List (UInt8 × Bool)) :=
  let negated := (text.head?.map Prod.fst).any fun b => b = code '!' ∨ b = code '^'
  let inner := if negated then text.drop 1 else text
  let first := inner.take 1
  let others := (inner.drop 1).takeWhile fun (b, quoted) => b ≠ code ']' || quoted
  match inner.drop (first.length + others.length) with
  | _ :: rest => some (.oneOf negated (ranges ((first ++ others).map Prod.fst)), rest)
  | [] => none

/-- Reads a pattern from bytes, of which the quoted ones are marked; `fuel` bounds the number of items. -/
def ofMarkedUpTo : Nat → List (UInt8 × Bool) → Pattern
  | 0, _ | _, [] => []
  | fuel + 1, (b, quoted) :: rest =>
    if quoted then .byte b :: ofMarkedUpTo fuel rest
    else if b = code '*' then .anything :: ofMarkedUpTo fuel rest
    else if b = code '?' then .any :: ofMarkedUpTo fuel rest
    else if b = code '[' then
      match bracketed? rest with
      | some (item, rest) => item :: ofMarkedUpTo fuel rest
      | none => .byte b :: ofMarkedUpTo fuel rest
    else .byte b :: ofMarkedUpTo fuel rest

def ofMarked (text : List (UInt8 × Bool)) : Pattern := ofMarkedUpTo text.length text

def itemMatches (b : UInt8) : PatternItem → Bool
  | .byte c => decide (b = c)
  | .any => true
  | .anything => false
  | .oneOf negated ranges => negated != ranges.any fun (low, high) => low ≤ b && b ≤ high

def fits : Pattern → Bytes → Bool
  | [], s => s.isEmpty
  | .anything :: pattern, [] => fits pattern []
  | .anything :: pattern, b :: s => fits pattern (b :: s) || fits (.anything :: pattern) s
  | _ :: _, [] => false
  | item :: pattern, b :: s => itemMatches b item && fits pattern s
termination_by pattern s => pattern.length + s.length

/-- The lengths at which a beginning of `s` can be cut off, shortest first. -/
def heads (pattern : Pattern) (s : Bytes) : List Nat :=
  (List.range (s.length + 1)).filter fun n => fits pattern (s.take n)

def tails (pattern : Pattern) (s : Bytes) : List Nat :=
  (List.range (s.length + 1)).filter fun n => fits pattern (s.drop (s.length - n))

def cut (pattern : Pattern) (atEnd longest : Bool) (s : Bytes) : Bytes :=
  let lengths := if atEnd then tails pattern s else heads pattern s
  let n := ((if longest then lengths.getLast? else lengths.head?)).getD 0
  if atEnd then s.take (s.length - n) else s.drop n

end Pattern

end Handover.Host.Shell

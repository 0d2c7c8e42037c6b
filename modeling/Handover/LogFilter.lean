import Handover.Event
import Handover.Text.Alphanumeric

/-! # Log filters

A filter is a list of directives separated by commas: a level for everything, or a target with an optional level. Square
brackets narrow a directive down to a span or to events with a certain field. Of the directives that cover an event the
most specific decides; an event that no directive covers is dropped. A filter that cannot be read lets warnings and
errors through.
-/
namespace Handover

structure LogField where
  name : String
  /-- Only some values of the field count. -/
  hasValue : Bool
deriving DecidableEq, Repr

structure LogDirective where
  target : Option String
  span : Option String
  fields : List LogField
  /-- The rank of the most talkative level let through; zero lets nothing through. -/
  rank : Nat
deriving DecidableEq, Repr

abbrev LogFilter := List LogDirective

namespace LogFilter

def variableName : Bytes := Bytes.ofString "RUST_LOG"

def global (rank : Nat) : LogDirective := ⟨none, none, [], rank⟩

def warnings : LogFilter := [global Level.warn.rank]

/-! ## Reading -/

def number? (text : List Char) : Option Nat :=
  let digits := match text with
    | '+' :: digits => digits
    | digits => digits
  if digits ≠ [] && digits.all Char.isDigit then some (digits.foldl (fun n c => n * 10 + (c.toNat - 48)) 0) else none

def levelNames : List (String × Nat) :=
  [("off", 0), ("error", Level.error.rank), ("warn", Level.warn.rank), ("info", Level.info.rank),
   ("debug", Level.debug.rank), ("trace", Level.trace.rank)]

def rank? (text : List Char) : Option Nat :=
  match number? text with
  | some n => if n ≤ Level.trace.rank then some n else none
  | none => levelNames.lookup (String.ofList (text.map Char.toLower))

/-- The rank at the end of a directive, if there is a place for it. Without one, everything is let through. -/
def rankAfter? (hasPlace : Bool) : List Char → Option Nat
  | '=' :: level => if !hasPlace then none else if level = [] then some Level.trace.rank else rank? level
  | rest => if rest.all Text.isBlank then some Level.trace.rank else none

def field (text : List Char) : LogField := ⟨String.ofList (text.takeWhile (· ≠ '=')), text.contains '='⟩

/-- What stands in square brackets after the opening one: a span, a field in braces, or a span with a field. -/
def scope? (text : List Char) : Option (Option String × List LogField × List Char) :=
  let name := text.takeWhile fun c => c ≠ ']' && c ≠ '\x7b'
  match text.drop name.length with
  | ']' :: rest => some (some (String.ofList name), [], rest)
  | '\x7b' :: rest =>
    let inner := rest.takeWhile (· ≠ '\x7d')
    match rest.drop inner.length with
    | '\x7d' :: ']' :: rest =>
      if inner = [] then none
      else some (if name = [] then none else some (String.ofList name), [field inner], rest)
    | _ => none
  | _ => none

def mayBegin (c : Char) : Bool := Text.isAlphanumeric c || decide (c = '[' ∨ c = '-' ∨ c = ':' ∨ c = '_')

def unindented? (hasPlace : Bool) (text : List Char) : Option LogDirective :=
  let head := text.takeWhile fun c => c ≠ '=' && c ≠ '['
  let target := if head = [] then none else some (String.ofList head)
  if !(text.head?.any mayBegin) then none
  else match text.drop head.length with
    | [] => some (match rank? head with
      | some rank => global rank
      | none => ⟨target, none, [], Level.trace.rank⟩)
    | '[' :: rest => do
      let (span, fields, rest) ← scope? rest
      return ⟨target, span, fields, ← rankAfter? hasPlace rest⟩
    | rest => (rankAfter? hasPlace rest).map fun rank => ⟨target, none, [], rank⟩

/-- Blanks in front of a directive count as part of its target, so that it covers nothing, and leave no place for a
level. -/
def directive? (part : String) : Option LogDirective :=
  let text := part.toList
  let start := text.dropWhile Text.isBlank
  if start = text then unindented? true text
  else (unindented? false start).map fun d => { d with target := some part }

/-- Without any directive only errors pass. -/
def parse? (s : String) : Option LogFilter :=
  (((s.splitOn ",").filter (· ≠ "")).mapM directive?).map fun filter =>
    if filter = [] then [global Level.error.rank] else filter

def ofEnvironment (e : Environment) : LogFilter :=
  match e variableName with
  | none => warnings
  | some value => match String.fromUTF8? ⟨value.toArray⟩ with
    | none => warnings
    | some s => (parse? s).getD warnings

/-! ## Filtering -/

/-- Longer targets are more specific, then more fields. -/
def atMostAsSpecific (a b : LogDirective) : Bool :=
  let length (d : LogDirective) : Nat := d.target.elim 0 fun target => target.utf8ByteSize + 1
  decide (length a < length b ∨ length a = length b ∧ a.fields.length ≤ b.fields.length)

/-- Events happen outside of any span, and the values of their fields are not looked at. -/
def covers (e : Event) (d : LogDirective) : Bool :=
  d.span.isNone && d.target.all (fun target => e.target.startsWith target) &&
    d.fields.all fun field => !field.hasValue && Event.fieldNames.contains field.name

/-- Of equally specific directives the later one counts. -/
def decisive (filter : LogFilter) (e : Event) : Option LogDirective :=
  (filter.filter (covers e)).foldl (fun best d =>
    match best with
    | none => some d
    | some b => if atMostAsSpecific b d then some d else some b) none

def passes (filter : LogFilter) (e : Event) : Bool :=
  match decisive filter e with
  | some d => decide (e.level.rank ≤ d.rank)
  | none => false

end LogFilter

end Handover

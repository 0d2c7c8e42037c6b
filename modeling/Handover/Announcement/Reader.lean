import Handover.Announcement

/-! # Reading an announcement

A stream arrives as a sequence of deliveries: a chunk of bytes, or a failure of that one read. An empty chunk is an end
of the stream, and after the last delivery the stream stays at its end. Reading a line tries an interrupted read again;
the single read that looks for data after the fourth line does not. How the bytes are cut into chunks has no effect on
the lines.
-/
namespace Handover

inductive Delivery where
  | chunk (bytes : Bytes)
  | failure (cause : IoError)
deriving DecidableEq, Repr

/-- What has been read but not used yet, and the deliveries to come. -/
structure Source where
  buffered : Bytes
  pending : List Delivery
deriving DecidableEq, Repr

/-- A line as it was found: ended by a newline, or by the end of the stream. -/
inductive RawLine where
  | terminated (content : Bytes)
  | cut (content : Bytes)
deriving DecidableEq, Repr

inductive Defect where
  | endOfStream | unterminated | empty | relativeDirectory | otherPath (expected : Path) | notDone | trailing
deriving DecidableEq, Repr

def Defect.text : Defect → String
  | .endOfStream => "unexpected end of announcement"
  | .unterminated => "line is not newline-terminated"
  | .empty => "empty line"
  | .relativeDirectory => "directory is not an absolute path"
  | .otherPath expected => "expected " ++ expected.display
  | .notDone => "expected `" ++ doneToken ++ "`"
  | .trailing => "unexpected data after announcement"

def RawLine.content : RawLine → Except Defect Bytes
  | .cut [] => .error .endOfStream
  | .cut (_ :: _) => .error .unterminated
  | .terminated [] => .error .empty
  | .terminated (b :: rest) => .ok (b :: rest)

namespace Source

def ofDeliveries (deliveries : List Delivery) : Source := ⟨[], deliveries⟩

/-- Collects a line after `seen`, which holds no newline. A read that fails loses what was collected, nothing else. -/
def gather (seen buffered : Bytes) (pending : List Delivery) : Except IoError RawLine × Source :=
  match buffered.breakLine with
  | some (line, tail) => (.ok (.terminated (seen ++ line)), ⟨tail, pending⟩)
  | none => match pending with
    | [] => (.ok (.cut (seen ++ buffered)), ⟨[], []⟩)
    | .chunk [] :: rest => (.ok (.cut (seen ++ buffered)), ⟨[], rest⟩)
    | .chunk (b :: chunk) :: rest => gather (seen ++ buffered) (b :: chunk) rest
    | .failure cause :: rest =>
      if cause.isInterrupted then gather (seen ++ buffered) [] rest else (.error cause, ⟨[], rest⟩)

def rawLine (s : Source) : Except IoError RawLine × Source := gather [] s.buffered s.pending

/-- One read, if nothing is buffered: whether there is no more data. -/
def atEnd (s : Source) : Except IoError Bool × Source :=
  match s.buffered, s.pending with
  | _ :: _, _ => (.ok false, s)
  | [], [] => (.ok true, s)
  | [], .chunk [] :: rest => (.ok true, ⟨[], rest⟩)
  | [], .chunk (b :: chunk) :: rest => (.ok false, ⟨b :: chunk, rest⟩)
  | [], .failure cause :: rest => (.error cause, ⟨[], rest⟩)

end Source

abbrev Reading := EStateM Error Source

namespace Announcement

def malformed (line : Nat) (defect : Defect) : Error := .malformedAnnouncement line defect.text

/-- Line `n`, which must be ended by a newline and must not be empty. -/
def readLine (n : Nat) : Reading Bytes := fun source =>
  match source.rawLine with
  | (.error cause, rest) => .error (.readAnnouncement cause) rest
  | (.ok line, rest) => match line.content with
    | .error defect => .error (malformed n defect) rest
    | .ok content => .ok content rest

def require (n : Nat) (defect : Defect) (holds : Bool) : Reading Unit :=
  if holds then pure () else throw (malformed n defect)

def readEnd : Reading Unit := fun source =>
  match source.atEnd with
  | (.error cause, rest) => .error (.readAnnouncement cause) rest
  | (.ok false, rest) => .error (malformed 5 .trailing) rest
  | (.ok true, rest) => .ok () rest

/-- The socket lines are compared as paths, so they may spell them differently; the result has the directory as it was
read and the sockets' paths as they follow from it. -/
def read : Reading Announcement := do
  let directory := Path.mk (← readLine 1)
  require 1 .relativeDirectory directory.isAbsolute
  let expected ← ofExcept (ofDirectory directory)
  let data := Path.mk (← readLine 2)
  require 2 (.otherPath expected.dataSocket) (decide (data.Same expected.dataSocket))
  let pass := Path.mk (← readLine 3)
  require 3 (.otherPath expected.passSocket) (decide (pass.Same expected.passSocket))
  let done ← readLine 4
  require 4 .notDone (decide (done = Bytes.ofString doneToken))
  readEnd
  return expected

def ofDeliveries (deliveries : List Delivery) : Except Error Announcement :=
  match read (Source.ofDeliveries deliveries) with
  | .ok announcement _ => .ok announcement
  | .error e _ => .error e

/-- Reads a stream that arrives at once and then ends. -/
def ofBytes (stream : Bytes) : Except Error Announcement := ofDeliveries [.chunk stream]

end Announcement

end Handover

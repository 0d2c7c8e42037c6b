import Handover.Announcement

/-! # Writing an announcement

A writer may take a part of what it is offered, may be interrupted, and may fill up. Writing goes on after an
interruption and with the rest after a partial write, and stops when the writer fails or takes nothing. The stream is
flushed once, after everything is written.
-/
namespace Handover

/-- How the writer behaves until it next answers a write: it is interrupted so many times, then takes at most so many
bytes. -/
structure WriterTurn where
  interruptions : Nat
  room : Nat
deriving DecidableEq, Repr

structure Writer where
  /-- The turns to come, the first of which is under way. -/
  turns : Nat → WriterTurn
  turn : Nat
  interrupted : Nat
  /-- How many more bytes fit; a writer without a limit never fills up. -/
  capacity : Option Nat
  /-- What a full writer fails with; without it, it takes no bytes. -/
  whenFull : Option IoError
  flushFailure : Option IoError
  written : Bytes
  flushes : Nat

namespace Writer

def interruptionsLeft (w : Writer) : Nat := (w.turns w.turn).interruptions - w.interrupted

def interrupt (w : Writer) : Writer := { w with interrupted := w.interrupted + 1 }

def nextTurn (w : Writer) : Writer := { w with turn := w.turn + 1, interrupted := 0 }

def isFull (w : Writer) : Bool := decide (w.capacity = some 0)

/-- How many of `n` offered bytes the writer takes when it answers. -/
def takes (w : Writer) (n : Nat) : Nat :=
  match w.capacity with
  | none => min (w.turns w.turn).room n
  | some capacity => min capacity (min (w.turns w.turn).room n)

def accept (w : Writer) (bytes : Bytes) : Writer :=
  { w.nextTurn with
    capacity := w.capacity.map (· - bytes.length)
    written := w.written ++ bytes }

theorem interruptionsLeft_interrupt (w : Writer) (h : 0 < w.interruptionsLeft) :
    w.interrupt.interruptionsLeft < w.interruptionsLeft := by
  simp only [interruptionsLeft, interrupt] at h ⊢
  omega

def writeAll (w : Writer) (bytes : Bytes) : Except IoError Unit × Writer :=
  if bytes = [] then (.ok (), w)
  else if _hi : 0 < w.interruptionsLeft then writeAll w.interrupt bytes
  else if w.isFull then (.error (w.whenFull.getD IoError.nothingWritten), w.nextTurn)
  else if _ht : w.takes bytes.length = 0 then (.error IoError.nothingWritten, w.nextTurn)
  else writeAll (w.accept (bytes.take (w.takes bytes.length))) (bytes.drop (w.takes bytes.length))
termination_by (bytes.length, w.interruptionsLeft)
decreasing_by
  · exact Prod.Lex.right _ (interruptionsLeft_interrupt w _hi)
  · refine Prod.Lex.left _ _ ?_
    have hb : 0 < bytes.length := List.length_pos_iff.mpr ‹_›
    simp only [List.length_drop]
    omega

def writeEach (w : Writer) : List Bytes → Except IoError Unit × Writer
  | [] => (.ok (), w)
  | piece :: pieces => match w.writeAll piece with
    | (.ok (), w) => writeEach w pieces
    | (.error cause, w) => (.error cause, w)

def flush (w : Writer) : Except IoError Unit × Writer :=
  (match w.flushFailure with
    | none => .ok ()
    | some cause => .error cause, { w with flushes := w.flushes + 1 })

end Writer

def Announcement.pieces (a : Announcement) : List Bytes := a.lines.flatMap fun line => [line, [Bytes.newline]]

theorem Announcement.flatten_pieces (a : Announcement) : a.pieces.flatten = a.wire := by
  simp [pieces, wire, lines]

def Announcement.writeTo (a : Announcement) (w : Writer) : Except IoError Unit × Writer :=
  match w.writeEach a.pieces with
  | (.ok (), w) => w.flush
  | (.error cause, w) => (.error cause, w)

end Handover

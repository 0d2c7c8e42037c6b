import Handover.Errno

/-! # Errors of a stream

A stream fails with the number of the system call behind it, with a bare kind, or with a kind and its own words.
-/
namespace Handover

inductive IoKind where
  | notFound | permissionDenied | connectionRefused | connectionReset | brokenPipe | alreadyExists | wouldBlock
  | invalidInput | invalidData | timedOut | writeZero | interrupted | unexpectedEnd | other
deriving DecidableEq, Repr

def IoKind.text : IoKind → String
  | .notFound => "entity not found"
  | .permissionDenied => "permission denied"
  | .connectionRefused => "connection refused"
  | .connectionReset => "connection reset"
  | .brokenPipe => "broken pipe"
  | .alreadyExists => "entity already exists"
  | .wouldBlock => "operation would block"
  | .invalidInput => "invalid input parameter"
  | .invalidData => "invalid data"
  | .timedOut => "timed out"
  | .writeZero => "write zero"
  | .interrupted => "operation interrupted"
  | .unexpectedEnd => "unexpected end of file"
  | .other => "other error"

inductive IoError where
  | system (errno : Errno)
  | plain (kind : IoKind)
  | custom (kind : IoKind) (words : String)
deriving DecidableEq, Repr

namespace IoError

def text : IoError → String
  | .system errno => errno.systemText
  | .plain kind => kind.text
  | .custom _ words => words

/-- An interrupted read or write has moved no data and may simply be made again. -/
def isInterrupted : IoError → Bool
  | .system errno => decide (errno = Errno.interrupted)
  | .plain kind => decide (kind = .interrupted)
  | .custom kind _ => decide (kind = .interrupted)

/-- What a writer that takes no bytes of a non-empty rest comes to. -/
def nothingWritten : IoError := .custom .writeZero "failed to write whole buffer"

/-- A path handed to the system must not hold the byte that would end it there. -/
def nulInFileName : IoError := .custom .invalidInput "file name contained an unexpected NUL byte"

def nulInSocketPath : IoError := .custom .invalidInput "paths must not contain interior null bytes"

def socketPathTooLong : IoError := .custom .invalidInput "path must be shorter than SUN_LEN"

def nulInArgument : IoError := .custom .invalidInput "nul byte found in provided data"

end IoError

end Handover

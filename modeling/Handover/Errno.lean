import Handover.Errno.Table
import Handover.Text.Decimal

/-! # Errors of a system call

A failed call leaves a number. `Errno.text` is its symbol with the terse description, `Errno.systemText` the C library's
description with the number; both have an answer for numbers that the table does not know.
-/
namespace Handover

structure Errno where
  code : Int
deriving DecidableEq, Repr, Inhabited

namespace Errno

def noEntry : Errno := ⟨2⟩
def interrupted : Errno := ⟨4⟩
def noDevice : Errno := ⟨6⟩
def badDescriptor : Errno := ⟨9⟩
def again : Errno := ⟨11⟩
def permissionDenied : Errno := ⟨13⟩
def busy : Errno := ⟨16⟩
def alreadyExists : Errno := ⟨17⟩
def notDirectory : Errno := ⟨20⟩
def isDirectory : Errno := ⟨21⟩
def invalid : Errno := ⟨22⟩
def noSpace : Errno := ⟨28⟩
def brokenPipe : Errno := ⟨32⟩
def nameTooLong : Errno := ⟨36⟩
def notEmpty : Errno := ⟨39⟩
def notSocket : Errno := ⟨88⟩
def addressInUse : Errno := ⟨98⟩
def connectionReset : Errno := ⟨104⟩
def noBuffers : Errno := ⟨105⟩
def notConnected : Errno := ⟨107⟩
def connectionRefused : Errno := ⟨111⟩

def text (e : Errno) : String :=
  match ErrnoEntry.find? e.code with
  | some entry => entry.symbol ++ ": " ++ entry.terse
  | none => "UnknownErrno: Unknown errno"

/-- The number itself, or zero for a number that has no name. -/
def named (e : Errno) : Errno := if (ErrnoEntry.find? e.code).isSome then e else ⟨0⟩

def description (e : Errno) : String :=
  if e.code = 0 then "Success"
  else match ErrnoEntry.find? e.code with
    | some entry => entry.description
    | none => "Unknown error " ++ Text.decimal e.code

def systemText (e : Errno) : String := e.description ++ " (os error " ++ Text.decimal e.code ++ ")"

end Errno

end Handover

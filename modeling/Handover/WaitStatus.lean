import Handover.Text.Decimal

/-! # How a child process ended

The system reports the fate of a child as 32 bits. The low seven bits are zero after an exit, whose code is the second
byte; otherwise they hold the signal that killed it, with bit seven for a core dump. A low byte of `0x7f` marks a
stopped child.
-/
namespace Handover

def signalNames : List String :=
  ["SIGHUP", "SIGINT", "SIGQUIT", "SIGILL", "SIGTRAP", "SIGABRT", "SIGBUS", "SIGFPE", "SIGKILL", "SIGUSR1", "SIGSEGV",
   "SIGUSR2", "SIGPIPE", "SIGALRM", "SIGTERM", "SIGSTKFLT", "SIGCHLD", "SIGCONT", "SIGSTOP", "SIGTSTP", "SIGTTIN",
   "SIGTTOU", "SIGURG", "SIGXCPU", "SIGXFSZ", "SIGVTALRM", "SIGPROF", "SIGWINCH", "SIGIO", "SIGPWR", "SIGSYS"]

def signalName? : Nat → Option String
  | 0 => none
  | n + 1 => signalNames[n]?

def signalText (n : Nat) : String :=
  n.repr ++ match signalName? n with
    | some name => " (" ++ name ++ ")"
    | none => ""

structure WaitStatus where
  bits : BitVec 32
deriving DecidableEq, Repr

namespace WaitStatus

def exited (code : Nat) : WaitStatus := ⟨BitVec.ofNat 32 (code % 256 * 256)⟩

def killed (signal : Nat) : WaitStatus := ⟨BitVec.ofNat 32 (signal % 128)⟩

def code? (s : WaitStatus) : Option Nat :=
  if s.bits.toNat % 128 = 0 then some (s.bits.toNat / 256 % 256) else none

def signal? (s : WaitStatus) : Option Nat :=
  if 1 ≤ s.bits.toNat % 128 ∧ s.bits.toNat % 128 ≤ 126 then some (s.bits.toNat % 128) else none

def coreDumped (s : WaitStatus) : Bool := decide (128 ≤ s.bits.toNat % 256)

def stopSignal? (s : WaitStatus) : Option Nat :=
  if s.bits.toNat % 256 = 127 then some (s.bits.toNat / 256 % 256) else none

def isSuccess (s : WaitStatus) : Bool := decide (s.bits = 0)

/-- The child ended by itself and reported a failure. -/
def isFailureExit (s : WaitStatus) : Bool :=
  match s.code? with
  | some code => decide (code ≠ 0)
  | none => false

def text (s : WaitStatus) : String :=
  match s.code?, s.signal?, s.stopSignal? with
  | some code, _, _ => "exit status: " ++ code.repr
  | none, some signal, _ => "signal: " ++ signalText signal ++ if s.coreDumped then " (core dumped)" else ""
  | none, none, some signal => "stopped (not terminated) by signal: " ++ signalText signal
  | none, none, none =>
    if s.bits.toNat = 0xFFFF then "continued (WIFCONTINUED)"
    else "unrecognised wait status: " ++ Text.decimal s.bits.toInt ++ " " ++ Text.hexadecimal s.bits.toNat

end WaitStatus

end Handover

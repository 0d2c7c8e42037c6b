import Handover.Error

/-! # Announcements

A helper announces its private directory and the two sockets in it on four lines: the directory, the `data` socket, the
`pass` socket and the word `done`. Paths are written byte for byte, so a directory whose path holds a newline cannot be
announced. Two announcements are the same when their three paths are.
-/
namespace Handover

/-- The socket that is handed over. -/
def dataName : String := "data"

/-- The socket that serves the one consumer. -/
def passName : String := "pass"

def doneToken : String := "done"

structure Announcement where
  directory : Path
  dataSocket : Path
  passSocket : Path
deriving DecidableEq, Repr

namespace Announcement

/-- The announcement of `directory`, whatever its bytes. -/
def layout (directory : Path) : Announcement :=
  ⟨directory, directory.join (Bytes.ofString dataName), directory.join (Bytes.ofString passName)⟩

def ofDirectory (directory : Path) : Except Error Announcement :=
  if Bytes.newline ∈ directory.bytes then .error (.unannounceablePath directory) else .ok (layout directory)

def Same (a b : Announcement) : Prop :=
  a.directory.Same b.directory ∧ a.dataSocket.Same b.dataSocket ∧ a.passSocket.Same b.passSocket

instance (a b : Announcement) : Decidable (Same a b) := by unfold Same; infer_instance

def lines (a : Announcement) : List Bytes :=
  [a.directory.bytes, a.dataSocket.bytes, a.passSocket.bytes, Bytes.ofString doneToken]

def wire (a : Announcement) : Bytes := a.lines.flatMap (· ++ [Bytes.newline])

theorem ofDirectory_eq_ok_iff {d : Path} {a : Announcement} :
    ofDirectory d = .ok a ↔ Bytes.newline ∉ d.bytes ∧ a = layout d := by
  unfold ofDirectory
  split
  · simp_all
  · simp_all [eq_comm]

theorem ofDirectory_eq_error_iff {d : Path} {e : Error} :
    ofDirectory d = .error e ↔ Bytes.newline ∈ d.bytes ∧ e = .unannounceablePath d := by
  unfold ofDirectory
  split
  · simp_all [eq_comm]
  · simp_all

end Announcement

end Handover

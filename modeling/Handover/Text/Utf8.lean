import Handover.Bytes

/-! # UTF-8 read leniently

A byte string is cut into characters and *maximal invalid parts*: the longest starts of a well-formed sequence that do
not become one. Nothing is lost by the cut, so text may show each invalid part in whatever way suits it.
-/
namespace Handover.Text

inductive Piece where
  | char (c : Char)
  | invalid (part : Bytes)
deriving DecidableEq, Repr

namespace Utf8

/-- What a leading byte announces: how many bytes follow, the bounds of the first of them, and its own payload. -/
structure Lead where
  more : Nat
  low : UInt8
  high : UInt8
  payload : Nat

/-- The bounds exclude overlong forms, surrogates and everything above the last code point. -/
def lead? (b : UInt8) : Option Lead :=
  if b < 0x80 then some ⟨0, 0x80, 0xBF, b.toNat⟩
  else if b < 0xC2 then none
  else if b < 0xE0 then some ⟨1, 0x80, 0xBF, b.toNat - 0xC0⟩
  else if b < 0xF0 then some ⟨2, if b = 0xE0 then 0xA0 else 0x80, if b = 0xED then 0x9F else 0xBF, b.toNat - 0xE0⟩
  else if b < 0xF5 then some ⟨3, if b = 0xF0 then 0x90 else 0x80, if b = 0xF4 then 0x8F else 0xBF, b.toNat - 0xF0⟩
  else none

/-- The longest acceptable run of at most `n` continuation bytes. -/
def continuation (low high : UInt8) : Nat → Bytes → Bytes
  | 0, _ => []
  | _ + 1, [] => []
  | n + 1, b :: rest => if low ≤ b ∧ b ≤ high then b :: continuation 0x80 0xBF n rest else []

def scalar (payload : Nat) (tail : Bytes) : Char :=
  Char.ofNat (tail.foldl (fun value b => value * 64 + b.toNat % 64) payload)

def piece (b : UInt8) (rest : Bytes) : Piece × Nat :=
  match lead? b with
  | none => (.invalid [b], 0)
  | some lead =>
    let tail := continuation lead.low lead.high lead.more rest
    (if tail.length = lead.more then .char (scalar lead.payload tail) else .invalid (b :: tail), tail.length)

def pieces : Bytes → List Piece
  | [] => []
  | b :: rest =>
    let next := piece b rest
    next.1 :: pieces (rest.drop next.2)
termination_by s => s.length
decreasing_by simp only [List.length_drop, List.length_cons]; omega

def replacement : Char := Char.ofNat 0xFFFD

end Utf8

def Piece.shown : Piece → Char
  | .char c => c
  | .invalid _ => Utf8.replacement

/-- Each maximal invalid part is shown as one replacement character. -/
def lossy (s : Bytes) : String := String.ofList ((Utf8.pieces s).map Piece.shown)

end Handover.Text

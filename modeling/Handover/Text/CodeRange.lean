/-! # Ranges of code points

A table of a character property is a list of inclusive ranges, ascending and apart from one another.
-/
namespace Handover.Text

abbrev CodeRange := Nat × Nat

namespace CodeRange

/-- Stops at the first range that begins beyond the character. -/
def covers : List CodeRange → Char → Bool
  | [], _ => false
  | (low, high) :: rest, c => if c.toNat < low then false else decide (c.toNat ≤ high) || covers rest c

end CodeRange

end Handover.Text

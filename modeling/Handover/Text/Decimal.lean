/-! # Decimal and hexadecimal numerals

Descriptor numbers and statuses are printed in base ten with a minus sign where needed, and in base sixteen with
lower-case digits and no padding.
-/
namespace Handover.Text

def decimal : Int → String
  | .ofNat n => n.repr
  | .negSucc n => "-" ++ (n + 1).repr

def hexadecimal (n : Nat) : String := "0x" ++ String.ofList (Nat.toDigits 16 n)

end Handover.Text

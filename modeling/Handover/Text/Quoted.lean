import Handover.Text.Combining
import Handover.Text.Unprintable
import Handover.Text.Utf8

/-! # Quoted text

Text between double quotes, in which the quote, the backslash and everything a terminal would not show as a separate
glyph are escaped. An apostrophe stays as it is. In a byte string the invalid parts are escaped byte by byte.
-/
namespace Handover.Text

namespace Quoted

def codePoint (c : Char) : List Char := '\\' :: 'u' :: '\x7b' :: (Nat.toDigits 16 c.toNat ++ ['\x7d'])

def escape (c : Char) : List Char :=
  if c = '\x00' then ['\\', '0']
  else if c = '\t' then ['\\', 't']
  else if c = '\r' then ['\\', 'r']
  else if c = '\n' then ['\\', 'n']
  else if c = '"' then ['\\', '"']
  else if c = '\\' then ['\\', '\\']
  else if isCombining c then codePoint c
  else if isPrintable c then [c]
  else codePoint c

def upperDigit (d : Nat) : Char := if d < 10 then Char.ofNat (48 + d) else Char.ofNat (55 + d)

def escapeByte (b : UInt8) : List Char := ['\\', 'x', upperDigit (b.toNat / 16), upperDigit (b.toNat % 16)]

def enclose (body : List Char) : String := String.ofList ('"' :: (body ++ ['"']))

def escapePiece : Piece → List Char
  | .char c => escape c
  | .invalid part => part.flatMap escapeByte

end Quoted

def quoted (s : String) : String := Quoted.enclose (s.toList.flatMap Quoted.escape)

def quotedBytes (s : Bytes) : String := Quoted.enclose ((Utf8.pieces s).flatMap Quoted.escapePiece)

end Handover.Text

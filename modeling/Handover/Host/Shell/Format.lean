import Handover.Bytes

/-! # Formats of printed text

A format is copied to the output, except that a backslash introduces a control character or an octal number, and a
percent sign converts the next argument. As long as arguments are left over the format is used again.
-/
namespace Handover.Host.Shell

inductive Amount where
  | unspecified
  | fixed (n : Nat)
  | argument
deriving DecidableEq, Repr

structure Conversion where
  flags : Bytes
  width : Amount
  precision : Amount
  kind : UInt8
deriving DecidableEq, Repr

inductive FormatItem where
  | byte (b : UInt8)
  | convert (c : Conversion)
  | stop
  /-- Nothing more is printed either, because the format makes no sense. -/
  | mistake
deriving DecidableEq, Repr

namespace FormatItem

def code (c : Char) : UInt8 := UInt8.ofNat c.toNat

def isOneOf (chars : String) (b : UInt8) : Bool := (chars.toList.map code).contains b

/-! ## Backslashes -/

def control? (b : UInt8) : Option UInt8 :=
  (("abtnvfre\\".toList.map code).zip [7, 8, 9, 10, 11, 12, 13, 27, 92]).lookup b

def isOctal (b : UInt8) : Bool := decide (code '0' ≤ b ∧ b ≤ code '7')

def octalValue (digits : Bytes) : Nat := digits.foldl (fun n b => n * 8 + (b.toNat - 48)) 0

/-- What a backslash before `rest` stands for, and how many of the bytes it takes. In an argument an octal number may
have one more digit if it begins with a zero, and there may be a sign to stop. -/
def escape (inArgument : Bool) (rest : Bytes) : List FormatItem × Nat :=
  let limit := if inArgument && decide (rest.head? = some (code '0')) then 4 else 3
  let digits := (rest.take limit).takeWhile isOctal
  match rest with
  | [] => ([.byte (code '\\')], 0)
  | b :: _ => match control? b with
    | some c => ([.byte c], 1)
    | none =>
      if inArgument && decide (b = code 'c') then ([.stop], 1)
      else if digits = [] then ([.byte (code '\\'), .byte b], 1)
      else ([.byte (UInt8.ofNat (octalValue digits))], digits.length)

/-! ## Percent signs -/

def isDigit (b : UInt8) : Bool := decide (code '0' ≤ b ∧ b ≤ code '9')

def number (digits : Bytes) : Nat := digits.foldl (fun n b => n * 10 + (b.toNat - 48)) 0

def amount (text : Bytes) : Amount × Bytes :=
  let digits := text.takeWhile isDigit
  if text.head? = some (code '*') then (.argument, text.drop 1)
  else (if digits = [] then .unspecified else .fixed (number digits), text.drop digits.length)

def conversion (text : Bytes) : FormatItem × Bytes :=
  let flags := text.takeWhile (isOneOf "-+ #0")
  let (width, rest) := amount (text.drop flags.length)
  let (precision, rest) :=
    if rest.head? = some (code '.') then
      let (precision, rest) := amount (rest.drop 1)
      (if precision = .unspecified then .fixed 0 else precision, rest)
    else (.unspecified, rest)
  match rest with
  | [] => (.mistake, [])
  | kind :: rest =>
    (if kind = code '%' then .byte kind
     else if isOneOf "diuoxXbcs" kind then .convert ⟨flags, width, precision, kind⟩
     else .mistake, rest)

/-- `fuel` bounds the number of items. -/
def itemsUpTo (inArgument : Bool) : Nat → Bytes → List FormatItem
  | 0, _ | _, [] => []
  | fuel + 1, b :: rest =>
    if b = code '\\' then (escape inArgument rest).1 ++ itemsUpTo inArgument fuel (rest.drop (escape inArgument rest).2)
    else if !inArgument && decide (b = code '%') then
      (conversion rest).1 :: itemsUpTo inArgument fuel (conversion rest).2
    else .byte b :: itemsUpTo inArgument fuel rest

def items (inArgument : Bool) (format : Bytes) : List FormatItem := itemsUpTo inArgument format.length format

end FormatItem

def unescaped (text : Bytes) : Bytes × Bool :=
  let items := FormatItem.items true text
  let printed := items.takeWhile (· ≠ .stop)
  (printed.filterMap fun
    | .byte b => some b
    | _ => none, decide (printed = items))

/-! ## Numbers -/

namespace Numeral

def digitValue (b : UInt8) : Nat :=
  if FormatItem.isDigit b then b.toNat - 48
  else if FormatItem.isOneOf "abcdef" b then b.toNat - 87
  else if FormatItem.isOneOf "ABCDEF" b then b.toNat - 55
  else 99

/-- The number at the beginning of an argument, and whether it is all of it. A quote asks for the code of a character. -/
def read (argument : Bytes) : Int × Bool :=
  match argument with
  | [] => (0, true)
  | b :: rest =>
    if FormatItem.isOneOf "\"'" b then ((rest.headD 0).toNat, true)
    else
      let signed := FormatItem.isOneOf "+-" b
      let text := if signed then rest else argument
      let (base, text) := match text with
        | zero :: x :: more =>
          if zero = FormatItem.code '0' && FormatItem.isOneOf "xX" x then (16, more)
          else if zero = FormatItem.code '0' then (8, text)
          else (10, text)
        | _ => (10, text)
      let digits := text.takeWhile fun b => digitValue b < base
      let n : Nat := digits.foldl (fun n b => n * base + digitValue b) 0
      let limit := 1 <<< 63 - 1
      (if b = FormatItem.code '-' then -(min n (limit + 1) : Int) else (min n limit : Int),
        decide (digits ≠ [] ∧ digits.length = text.length ∧ n ≤ limit))

def digits (base n : Nat) (upper : Bool) : Bytes :=
  let text := String.ofList (Nat.toDigits base n)
  Bytes.ofString (if upper then text.toUpper else text)

end Numeral

/-! ## Conversions -/

structure Printing where
  output : Bytes
  arguments : List Bytes
  status : Nat
  stopped : Bool

namespace Printing

open FormatItem (code isOneOf)

def next (p : Printing) : Bytes × Printing := (p.arguments.headD [], { p with arguments := p.arguments.drop 1 })

def note (p : Printing) (valid : Bool) : Printing := if valid then p else { p with status := 1 }

def resolve (p : Printing) : Amount → Option Int × Printing
  | .unspecified => (none, p)
  | .fixed n => (some n, p)
  | .argument =>
    let (argument, p) := p.next
    let (n, valid) := Numeral.read argument
    (some n, p.note valid)

def integer (flags : Bytes) (kind : UInt8) (n : Int) (precision : Option Int) : Bytes × Bytes :=
  let signed := isOneOf "di" kind
  let magnitude := if signed then n.natAbs else (n.emod (1 <<< 64 : Nat)).toNat
  let base := if kind = code 'o' then 8 else if isOneOf "xX" kind then 16 else 10
  let digits := if magnitude = 0 ∧ precision = some 0 then [] else Numeral.digits base magnitude (kind = code 'X')
  let zeros := (precision.getD 0).toNat - digits.length
  let sign :=
    if signed && decide (n < 0) then [code '-']
    else if signed && flags.contains (code '+') then [code '+']
    else if signed && flags.contains (code ' ') then [code ' ']
    else if flags.contains (code '#') && isOneOf "xX" kind && decide (magnitude ≠ 0) then [code '0', kind]
    else if flags.contains (code '#') && decide (kind = code 'o') then [code '0']
    else []
  (sign, List.replicate zeros (code '0') ++ digits)

def pad (flags : Bytes) (zeros : Bool) (width : Int) (sign body : Bytes) : Bytes :=
  let missing := width.natAbs - (sign.length + body.length)
  if flags.contains (code '-') || decide (width < 0) then sign ++ body ++ List.replicate missing (code ' ')
  else if zeros && flags.contains (code '0') then sign ++ List.replicate missing (code '0') ++ body
  else List.replicate missing (code ' ') ++ sign ++ body

def convert (p : Printing) (c : Conversion) : Printing :=
  let (width, p) := p.resolve c.width
  let (precision, p) := p.resolve c.precision
  let (argument, p) := p.next
  let precision := precision.filter fun n => decide (0 ≤ n)
  let limited (text : Bytes) : Bytes := precision.elim text fun n => text.take n.toNat
  let put (zeros : Bool) (sign body : Bytes) : Bytes := p.output ++ pad c.flags zeros (width.getD 0) sign body
  if isOneOf "diuoxX" c.kind then
    let (n, valid) := Numeral.read argument
    let (sign, body) := integer c.flags c.kind n precision
    { p with output := put precision.isNone sign body }.note valid
  else if c.kind = code 'b' then
    let (text, goesOn) := unescaped argument
    { p with output := put false [] (limited text), stopped := !goesOn }
  else if c.kind = code 'c' then { p with output := put false [] (argument.take 1) }
  else { p with output := put false [] (limited argument) }

def item (p : Printing) (i : FormatItem) : Printing :=
  if p.stopped then p
  else match i with
    | .byte b => { p with output := p.output ++ [b] }
    | .convert c => p.convert c
    | .stop => { p with stopped := true }
    | .mistake => { p with stopped := true, status := 2 }

/-- Every use but the last takes an argument, so there are at most as many uses as arguments. -/
def useUpTo (items : List FormatItem) : Nat → Printing → Printing
  | 0, p => items.foldl item p
  | fuel + 1, p =>
    let used := items.foldl item p
    if used.stopped || used.arguments.isEmpty || decide (used.arguments.length = p.arguments.length) then used
    else useUpTo items fuel used

end Printing

/-- The text of `arguments` under a format, and a status: success, one if some of them could not be converted, or two for
a format that makes no sense. -/
def printed (format : Bytes) (arguments : List Bytes) : Bytes × Nat :=
  let p := Printing.useUpTo (FormatItem.items false format) arguments.length ⟨[], arguments, 0, false⟩
  (p.output, p.status)

end Handover.Host.Shell

import Handover.Bytes

/-! # Arithmetic of a shell

Expressions over whole numbers and variables, with the operators of C and their precedence. An expression that cannot be
read or evaluated has no value. What it assigns is kept apart from its value.
-/
namespace Handover.Host.Shell.Arithmetic

inductive Token where
  | number (n : Int)
  | name (name : String)
  | sign (text : String)
deriving DecidableEq, Repr

inductive Expression where
  | number (n : Int)
  | variable (name : String)
  | unary (operator : String) (e : Expression)
  | binary (operator : String) (left right : Expression)
  | choice (test left right : Expression)
  /-- Assigns the value, combined with the old one if there is an operator. -/
  | assignment (name operator : String) (e : Expression)
deriving Repr

/-! ## Reading -/

def digitValue (c : Char) : Nat :=
  if c.isDigit then c.toNat - 48
  else if c.isLower then c.toNat - 87
  else if c.isUpper then c.toNat - 55
  else 99

/-- A numeral in base ten, in base eight after a zero, or in base sixteen after a zero and an x. -/
def number? (text : List Char) : Option Int :=
  let (base, digits) := match text with
    | '0' :: 'x' :: digits | '0' :: 'X' :: digits => (16, digits)
    | '0' :: d :: digits => (8, d :: digits)
    | digits => (10, digits)
  if digits ≠ [] && digits.all fun c => digitValue c < base then
    some (digits.foldl (fun n c => n * base + digitValue c) 0 : Nat)
  else none

def signs : List String :=
  ["<<=", ">>=", "&&", "||", "<<", ">>", "<=", ">=", "==", "!=", "+=", "-=", "*=", "/=", "%=", "&=", "|=", "^=", "+", "-",
   "*", "/", "%", "<", ">", "=", "!", "~", "&", "|", "^", "?", ":", "(", ")"]

def tokensUpTo : Nat → List Char → Option (List Token)
  | _, [] => some []
  | 0, _ => none
  | fuel + 1, c :: rest =>
    let cs := c :: rest
    let word := cs.takeWhile fun c => c.isAlphanum || decide (c = '_')
    if c = ' ' ∨ c = '\t' ∨ c = '\n' then tokensUpTo fuel rest
    else if c.isDigit then do
      return .number (← number? word) :: (← tokensUpTo fuel (cs.drop word.length))
    else if word ≠ [] then do
      return .name (String.ofList word) :: (← tokensUpTo fuel (cs.drop word.length))
    else do
      let sign ← signs.find? fun sign => sign.toList.isPrefixOf cs
      return .sign sign :: (← tokensUpTo fuel (cs.drop sign.length))

/-- The binary operators, loosest first; those on one level are read from the left. -/
def levels : List (List String) :=
  [["||"], ["&&"], ["|"], ["^"], ["&"], ["==", "!="], ["<=", ">=", "<", ">"], ["<<", ">>"], ["+", "-"], ["*", "/", "%"]]

def assignments : List String := ["=", "+=", "-=", "*=", "/=", "%=", "<<=", ">>=", "&=", "|=", "^="]

def signIn (signs : List String) : List Token → Option (String × List Token)
  | .sign text :: rest => if signs.contains text then some (text, rest) else none
  | _ => none

mutual

def expression : Nat → List Token → Option (Expression × List Token)
  | 0, _ => none
  | fuel + 1, tokens =>
    match tokens with
    | .name name :: rest => match signIn assignments rest with
      | some (sign, rest) => do
        let (e, rest) ← expression fuel rest
        return (.assignment name (sign.dropEnd 1).toString e, rest)
      | none => conditional fuel tokens
    | _ => conditional fuel tokens

def conditional : Nat → List Token → Option (Expression × List Token)
  | 0, _ => none
  | fuel + 1, tokens => do
    let (test, rest) ← level fuel levels tokens
    match signIn ["?"] rest with
    | none => return (test, rest)
    | some (_, rest) =>
      let (left, rest) ← expression fuel rest
      let (_, rest) ← signIn [":"] rest
      let (right, rest) ← conditional fuel rest
      return (.choice test left right, rest)

def level : Nat → List (List String) → List Token → Option (Expression × List Token)
  | 0, _, _ => none
  | fuel + 1, [], tokens => unary fuel tokens
  | fuel + 1, operators :: tighter, tokens => do
    let (first, rest) ← level fuel tighter tokens
    operands fuel operators tighter first rest

def operands : Nat → List String → List (List String) → Expression → List Token → Option (Expression × List Token)
  | 0, _, _, _, _ => none
  | fuel + 1, operators, tighter, first, tokens =>
    match signIn operators tokens with
    | none => some (first, tokens)
    | some (operator, rest) => do
      let (second, rest) ← level fuel tighter rest
      operands fuel operators tighter (.binary operator first second) rest

def unary : Nat → List Token → Option (Expression × List Token)
  | 0, _ => none
  | fuel + 1, tokens =>
    match tokens with
    | .number n :: rest => some (.number n, rest)
    | .name name :: rest => some (.variable name, rest)
    | .sign "(" :: rest => do
      let (e, rest) ← expression fuel rest
      let (_, rest) ← signIn [")"] rest
      return (e, rest)
    | tokens => do
      let (operator, rest) ← signIn ["+", "-", "!", "~"] tokens
      let (e, rest) ← unary fuel rest
      return (.unary operator e, rest)

end

def parse? (text : String) : Option Expression := do
  let tokens ← tokensUpTo (text.length + 1) text.toList
  let (e, rest) ← expression (20 * tokens.length + 20) tokens
  if rest = [] then return e else none

/-! ## Evaluating -/

/-- Numbers have sixty-four bits. -/
def wrapped (n : Int) : Int := n.bmod (1 <<< 64)

def truth (b : Bool) : Int := if b then 1 else 0

def binary (operator : String) (a b : Int) : Option Int :=
  let bits (f : BitVec 64 → BitVec 64 → BitVec 64) : Int := (f (.ofInt 64 a) (.ofInt 64 b)).toInt
  let amount := (b.emod 64).toNat
  match operator with
  | "+" => some (wrapped (a + b))
  | "-" => some (wrapped (a - b))
  | "*" => some (wrapped (a * b))
  | "/" => if b = 0 then none else some (wrapped (a.tdiv b))
  | "%" => if b = 0 then none else some (wrapped (a.tmod b))
  | "<<" => some (wrapped (a * (1 <<< amount : Nat)))
  | ">>" => some (a / (1 <<< amount : Nat))
  | "&" => some (bits (· &&& ·))
  | "|" => some (bits (· ||| ·))
  | "^" => some (bits (· ^^^ ·))
  | "==" => some (truth (a = b))
  | "!=" => some (truth (a ≠ b))
  | "<" => some (truth (a < b))
  | ">" => some (truth (a > b))
  | "<=" => some (truth (a ≤ b))
  | ">=" => some (truth (a ≥ b))
  | _ => none

def unaryValue (operator : String) (a : Int) : Int :=
  match operator with
  | "-" => wrapped (-a)
  | "!" => truth (a = 0)
  | "~" => -a - 1
  | _ => a

/-- The values of the variables. A variable that holds no number has no value. -/
abbrev Values := String → Option Int

def Values.set (v : Values) (name : String) (n : Int) : Values := fun k => if k = name then some n else v k

structure State where
  values : Values
  assigned : List (String × Int)

def State.assign (s : State) (name : String) (n : Int) : State := ⟨s.values.set name n, s.assigned ++ [(name, n)]⟩

def evaluate : Expression → StateT State Option Int
  | .number n => return wrapped n
  | .variable name => do (← get).values name
  | .unary operator e => return unaryValue operator (← evaluate e)
  | .binary "&&" left right => do
    if (← evaluate left) = 0 then return 0
    return truth ((← evaluate right) ≠ 0)
  | .binary "||" left right => do
    if (← evaluate left) ≠ 0 then return 1
    return truth ((← evaluate right) ≠ 0)
  | .binary operator left right => do
    let a ← evaluate left
    let b ← evaluate right
    binary operator a b
  | .choice test left right => do
    if (← evaluate test) ≠ 0 then evaluate left else evaluate right
  | .assignment name operator e => do
    let b ← evaluate e
    let n ← if operator = "" then pure b else do
      let a ← (← get).values name
      binary operator a b
    modify (·.assign name n)
    return n

def value? (values : Values) (text : String) : Option (Int × List (String × Int)) := do
  let (n, state) ← (evaluate (← parse? text)).run ⟨values, []⟩
  return (n, state.assigned)

end Handover.Host.Shell.Arithmetic

import Handover.Host.Shell.Command
import Handover.Text.Utf8

/-! # Tokens of a shell script

A script is cut into words, signs and redirections. Quotes and backslashes make characters ordinary; a dollar sign
refers to a variable, to the output of a script or to the value of an expression. What cannot be read is a token of its
own, at which everything ends.
-/
namespace Handover.Host.Shell

inductive Token where
  | word (word : Word)
  | sign (text : String)
  /-- The target is the next word, unless it is here already. -/
  | redirect (descriptor : Nat) (channel : Channel) (target : Option Word)
  | unreadable
deriving Repr

namespace Lexer

/-! ## Names and nesting -/

def mayBegin (c : Char) : Bool := c.isAlpha || decide (c = '_')

def mayContinue (c : Char) : Bool := mayBegin c || c.isDigit

def isSpecial (c : Char) : Bool := c.isDigit || "$?#@*!-".toList.contains c

def isName (name : List Char) : Bool :=
  match name with
  | c :: rest => mayBegin c && rest.all mayContinue
  | [] => false

/-! ## Lines -/

def splitLines (cs : List Char) : List (List Char) :=
  cs.foldr (fun c lines =>
    if c = '\n' then [] :: lines
    else match lines with
      | [] => [[c]]
      | line :: lines => (c :: line) :: lines) [[]]

def joinLines (lines : List (List Char)) : List Char := ['\n'].intercalate lines

/-- How many lines a here-text takes with its delimiter. -/
def hereLength (stripsTabs : Bool) (delimiter : List Char) (lines : List (List Char)) : Nat :=
  (lines.takeWhile fun line => decide ((if stripsTabs then line.dropWhile (· = '\t') else line) ≠ delimiter)).length + 1

/-! ## Scripts in words -/

def isBreak (c : Char) : Bool := " \t\n;&|<>()".toList.contains c

inductive Quotes where
  | plain | single | double
  | escaped (inDouble : Bool)
deriving DecidableEq, Repr

structure Scan where
  quotes : Quotes
  word : List Char
  atCommand : Bool
  choices : List Nat
  /-- The here-texts that begin on the next line. -/
  expected : List (Bool × List Char)

namespace Scan

def begin : Scan := ⟨.plain, [], true, [0], []⟩

def countChoices (scan : Scan) (f : Nat → Nat) : Scan :=
  { scan with choices := (scan.choices.head?.map f).toList ++ scan.choices.drop 1 }

def endWord (scan : Scan) : Scan :=
  let word := String.ofList scan.word.reverse
  let ended := { scan with word := [] }
  if word = "" then scan
  else if !scan.atCommand then { ended with atCommand := decide (word = "in") }
  else if word = "case" then { ended.countChoices (· + 1) with atCommand := false }
  else if word = "esac" then ended.countChoices (· - 1)
  else
    { ended with atCommand := ["if", "then", "elif", "else", "while", "until", "do", "!", "\x7b", "in"].contains word }

end Scan

def delimiter (cs : List Char) : Bool × List Char :=
  let stripsTabs := decide (cs.head? = some '-')
  let cs := (if stripsTabs then cs.drop 1 else cs).dropWhile (· = ' ')
  (stripsTabs, (cs.takeWhile fun c => !isBreak c).filter fun c => !"'\"\\".toList.contains c)

/-- Splits at the parenthesis that closes a script; `fuel` bounds the number of steps. -/
def closing : Nat → Scan → List Char → Option (List Char × List Char)
  | 0, _, _ | _, _, [] => none
  | fuel + 1, scan, c :: rest =>
    let after (taken : List Char) (scan : Scan) : Option (List Char × List Char) :=
      (closing fuel scan ((c :: rest).drop taken.length)).map fun (inner, rest) => (taken ++ inner, rest)
    let turn (quotes : Quotes) : Option (List Char × List Char) :=
      after [c] { scan with quotes := quotes, word := c :: scan.word }
    match scan.quotes, c with
    | .single, '\'' => turn .plain
    | .single, _ => turn .single
    | .double, '"' => turn .plain
    | .double, '\\' => turn (.escaped true)
    | .double, '$' =>
      if rest.head? = some '(' then
        match closing fuel .begin (rest.drop 1) with
        | some (inner, _) => after ("$(".toList ++ inner ++ [')']) scan
        | none => none
      else turn .double
    | .double, _ => turn .double
    | .escaped inDouble, _ => turn (if inDouble then .double else .plain)
    | .plain, '\'' => turn .single
    | .plain, '"' => turn .double
    | .plain, '\\' => turn (.escaped false)
    | .plain, ')' =>
      let scan := scan.endWord
      match scan.choices with
      | [] | [0] => some ([], rest)
      | 0 :: choices => after [c] { scan with choices := choices, atCommand := true }
      | _ => after [c] { scan with atCommand := true }
    | .plain, '(' =>
      let scan := scan.endWord
      after [c] { scan with choices := 0 :: scan.choices, atCommand := true }
    | .plain, '<' =>
      let scan := scan.endWord
      if rest.head? = some '<' then
        after ['<', '<'] { scan with expected := scan.expected ++ [delimiter (rest.drop 1)] }
      else after [c] scan
    | .plain, '\n' =>
      let lines := splitLines rest
      let length := scan.expected.foldl (fun n (stripsTabs, delimiter) =>
        n + hereLength stripsTabs delimiter (lines.drop n)) 0
      let skipped := (lines.take length).flatMap fun line => line ++ ['\n']
      after (c :: skipped) { scan.endWord with atCommand := true, expected := [] }
    | .plain, c =>
      if c = '#' && scan.word.isEmpty then after ('#' :: rest.takeWhile (· ≠ '\n')) scan
      else if !isBreak c then turn .plain
      else
        let scan := scan.endWord
        after [c] { scan with atCommand := scan.atCommand || ";&|".toList.contains c }

def backquote : Char := '\x60'

/-- Splits at the next backquote without a backslash, which is taken off before what it protects. -/
def toBackquote : List Char → Option (List Char × List Char)
  | [] => none
  | '\\' :: c :: rest =>
    (toBackquote rest).map fun (inner, rest) =>
      (if c = backquote ∨ c = '\\' ∨ c = '$' then c :: inner else '\\' :: c :: inner, rest)
  | c :: rest => if c = backquote then some ([], rest) else (toBackquote rest).map fun (inner, rest) => (c :: inner, rest)

/-! ## Words -/

inductive Setting where
  | bare | double | here
  | braces (quoted : Bool)
deriving DecidableEq, Repr

namespace Setting

def quoted : Setting → Bool
  | .bare => false
  | .double | .here => true
  | .braces quoted => quoted

def ends (setting : Setting) (c : Char) : Bool :=
  match setting with
  | .bare => isBreak c
  | .double => decide (c = '"')
  | .here => false
  | .braces _ => decide (c = '\x7d')

def protects (setting : Setting) (c : Char) : Bool :=
  decide (c = '$' ∨ c = backquote ∨ c = '\\') || (decide (c = '"') && decide (setting ≠ .here)) || setting.ends c

end Setting

abbrev Reader := Setting → List Char → Option (Word × List Char)

def text (cs : List Char) (quoted : Bool) : Piece := .text (Bytes.ofString (String.ofList cs)) quoted

def modifier? (cs : List Char) : Option (Modifier × List Char) :=
  match cs with
  | '-' :: rest => some (.fallback false, rest)
  | '=' :: rest => some (.fallback true, rest)
  | '+' :: rest => some (.replacement, rest)
  | '?' :: rest => some (.demand, rest)
  | '%' :: '%' :: rest => some (.cut true true, rest)
  | '%' :: rest => some (.cut true false, rest)
  | '#' :: '#' :: rest => some (.cut false true, rest)
  | '#' :: rest => some (.cut false false, rest)
  | _ => none

def parameterName (cs : List Char) : List Char :=
  match cs with
  | c :: _ =>
    if c.isDigit then cs.takeWhile Char.isDigit else if isSpecial c then [c] else cs.takeWhile mayContinue
  | [] => []

/-- A reference in braces, after the opening one. The quotes around it do not make a pattern in it ordinary. -/
def braced (read : Reader) (quoted : Bool) (cs : List Char) : Option (Piece × List Char) := do
  let ordinary : Option (Piece × List Char) := do
    let name := parameterName cs
    if name = [] then none
    let named := String.ofList name
    match cs.drop name.length with
    | '\x7d' :: rest => some (.parameter named quoted, rest)
    | ':' :: rest =>
      let (modifier, rest) ← modifier? rest
      let (word, rest) ← read (.braces quoted) rest
      if modifier matches .cut _ _ then none
      some (.modified named modifier true word quoted, rest)
    | rest =>
      let (modifier, rest) ← modifier? rest
      let (word, rest) ← read (.braces (quoted && !(modifier matches .cut _ _))) rest
      some (.modified named modifier false word quoted, rest)
  match cs with
  | '#' :: rest =>
    let name := parameterName rest
    match rest.drop name.length with
    | '\x7d' :: rest => if name = [] then ordinary else some (.size (String.ofList name) quoted, rest)
    | _ => ordinary
  | _ => ordinary

/-- What an expression in two pairs of parentheses, or a script in one, stands for. -/
def parenthesized (read : Reader) (quoted : Bool) (inner : List Char) : Option Piece :=
  let script : Piece := .output (String.ofList inner) quoted
  match inner with
  | '(' :: expression => match closing (expression.length + 1) .begin expression with
    | some (expression, []) => (read .here expression).map fun (word, _) => .arithmetic word quoted
    | _ => some script
  | _ => some script

def reference (read : Reader) (quoted : Bool) (cs : List Char) : Option (Piece × List Char) :=
  match cs with
  | '\x7b' :: rest => braced read quoted rest
  | '(' :: rest => do
    let (inner, rest) ← closing (rest.length + 1) .begin rest
    return (← parenthesized read quoted inner, rest)
  | c :: rest =>
    if mayBegin c then
      let name := cs.takeWhile mayContinue
      some (.parameter (String.ofList name) quoted, cs.drop name.length)
    else if isSpecial c then some (.parameter (String.ofList [c]) quoted, rest)
    else some (text ['$'] quoted, cs)
  | [] => some (text ['$'] quoted, [])

/-- The pieces of a word and what follows it; `fuel` bounds their number. -/
def pieces : Nat → Reader
  | 0, _, _ => none
  | fuel + 1, setting, cs =>
    let quoted := setting.quoted
    let continued (piece : Piece) (rest : List Char) : Option (Word × List Char) :=
      (pieces fuel setting rest).map fun (word, rest) => (Word.add piece word, rest)
    match cs with
    | [] => if setting = .bare ∨ setting = .here then some ([], []) else none
    | c :: rest =>
      if setting.ends c then some ([], if setting = .bare then cs else rest)
      else if c = '\\' then
        match rest with
        | [] => continued (text ['\\'] quoted) []
        | '\n' :: rest => pieces fuel setting rest
        | d :: rest =>
          if quoted && !setting.protects d then continued (text ['\\', d] true) rest else continued (text [d] true) rest
      else if c = '\'' && !quoted then
        let inner := rest.takeWhile (· ≠ '\'')
        match rest.drop inner.length with
        | _ :: rest => continued (text inner true) rest
        | [] => none
      else if c = '"' && decide (setting ≠ .here) then do
        let (inner, rest) ← pieces fuel .double rest
        let (word, rest) ← pieces fuel setting rest
        return (text [] true :: (inner ++ word), rest)
      else if c = '$' then do
        let (piece, rest) ← reference (pieces fuel) quoted rest
        continued piece rest
      else if c = backquote then do
        let (inner, rest) ← toBackquote rest
        continued (.output (String.ofList inner) quoted) rest
      else continued (text [c] quoted) rest

/-! ## Scripts -/

/-- The text after a here-sign: it begins on the next line and ends before the delimiter. A quoted delimiter makes all
of it ordinary. -/
def hereText (stripsTabs : Bool) (cs : List Char) : Option (Word × List Char) := do
  let cs := cs.dropWhile (· = ' ')
  let (word, rest) ← pieces (cs.length + 1) .bare cs
  let quoted := word.any Word.isQuoted
  let delimiter ← word.foldlM (fun seen piece =>
    match piece with
    | .text bytes _ => some (seen ++ bytes)
    | _ => none) []
  let lines := splitLines rest
  let length := hereLength stripsTabs (Text.lossy delimiter).toList lines.tail
  let after := lines.tail.drop length
  let strip (line : List Char) : List Char := if stripsTabs then line.dropWhile (· = '\t') else line
  let body := (lines.tail.take (length - 1)).flatMap fun line => strip line ++ ['\n']
  let inner ← if quoted then some [text body true] else (pieces (body.length + 1) .here body).map Prod.fst
  return (inner, joinLines (lines.headD [] :: after))

def redirection? (digits cs : List Char) : Option (Token × List Char) :=
  let named (standard : Nat) : Nat :=
    if digits = [] then standard else digits.foldl (fun n c => n * 10 + (c.toNat - 48)) 0
  match cs with
  | '>' :: '>' :: rest => some (.redirect (named 1) .append none, rest)
  | '>' :: '&' :: rest => some (.redirect (named 1) .duplicate none, rest)
  | '>' :: '|' :: rest | '>' :: rest => some (.redirect (named 1) .write none, rest)
  | '<' :: '<' :: '-' :: rest => (hereText true rest).map fun (body, rest) => (.redirect (named 0) .here (some body), rest)
  | '<' :: '<' :: rest => (hereText false rest).map fun (body, rest) => (.redirect (named 0) .here (some body), rest)
  | '<' :: '&' :: rest => some (.redirect (named 0) .duplicate none, rest)
  | '<' :: '>' :: rest | '<' :: rest => some (.redirect (named 0) .read none, rest)
  | _ => none

def sign? (cs : List Char) : Option (String × List Char) :=
  match cs with
  | '&' :: '&' :: rest => some ("&&", rest)
  | '|' :: '|' :: rest => some ("||", rest)
  | ';' :: ';' :: rest => some (";;", rest)
  | c :: rest => if "\n;&|()".toList.contains c then some (String.ofList [c], rest) else none
  | [] => none

/-- `fuel` bounds the number of tokens and of the blanks and comments between them. -/
def ofCharsUpTo : Nat → List Char → List Token
  | 0, _ => [.unreadable]
  | _, [] => [.sign "\n"]
  | fuel + 1, c :: rest =>
    let cs := c :: rest
    let digits := cs.takeWhile Char.isDigit
    if c = ' ' ∨ c = '\t' then ofCharsUpTo fuel rest
    else if c = '\\' && decide (rest.head? = some '\n') then ofCharsUpTo fuel (rest.drop 1)
    else if c = '#' then ofCharsUpTo fuel (rest.dropWhile (· ≠ '\n'))
    else match sign? cs with
      | some (text, rest) => .sign text :: ofCharsUpTo fuel rest
      | none =>
        if (cs.drop digits.length).head?.any fun c => c = '<' ∨ c = '>' then
          match redirection? digits (cs.drop digits.length) with
          | some (token, rest) => token :: ofCharsUpTo fuel rest
          | none => [.unreadable]
        else match pieces (cs.length + 1) .bare cs with
          | some (word, rest) => .word (Word.withHome word) :: ofCharsUpTo fuel rest
          | none => [.unreadable]

def tokens (script : String) : List Token := ofCharsUpTo (script.length + 1) script.toList

end Lexer

end Handover.Host.Shell

import Handover.Bytes

/-! # Shell commands

A script is a list of commands. Their words are kept as pieces, since what a word stands for depends on the variables at
the time it is used. A quoted piece is neither split into fields nor read as a pattern.
-/
namespace Handover.Host.Shell

inductive Modifier where
  /-- Stands in for a value that is missing, and may be assigned as well. -/
  | fallback (assigns : Bool)
  | replacement
  | demand
  | cut (atEnd longest : Bool)
deriving DecidableEq, Repr

inductive Piece where
  | text (bytes : Bytes) (quoted : Bool)
  | parameter (name : String) (quoted : Bool)
  | size (name : String) (quoted : Bool)
  /-- An empty value counts as missing if `forEmpty`. -/
  | modified (name : String) (modifier : Modifier) (forEmpty : Bool) (word : List Piece) (quoted : Bool)
  | arithmetic (expression : List Piece) (quoted : Bool)
  | output (script : String) (quoted : Bool)
deriving Repr

abbrev Word := List Piece

inductive Channel where
  | read | write | append | duplicate
  | here
deriving DecidableEq, Repr

structure Redirection where
  descriptor : Nat
  channel : Channel
  target : Word
deriving Repr

inductive Command where
  | simple (words : List Word) (redirections : List Redirection)
  | sequence (commands : List Command)
  | subshell (commands : List Command)
  | background (command : Command)
  | pipeline (commands : List Command)
  | negation (command : Command)
  /-- The second command runs only if the status of the first is success or, if `onFailure`, failure. -/
  | chain (onFailure : Bool) (first second : Command)
  | conditional (test body alternative : Command)
  /-- Repeats the body as long as the test has the status `goal`. -/
  | loop (goal : Bool) (test body : Command)
  /-- Without any words it goes through the arguments of the script. -/
  | iteration (name : String) (words : Option (List Word)) (body : Command)
  | choice (subject : Word) (branches : List (List Word × Command))
  | definition (name : String) (body : Command)
  | redirected (command : Command) (redirections : List Redirection)
deriving Repr

namespace Word

def isQuoted : Piece → Bool
  | .text _ quoted => quoted
  | _ => false

def literal? (word : Word) : Option Bytes :=
  word.foldlM (fun seen piece =>
    match piece with
    | .text bytes false => some (seen ++ bytes)
    | _ => none) []

def add (piece : Piece) (word : Word) : Word :=
  match piece, word with
  | .text a p, .text b q :: rest => if p = q then .text (a ++ b) p :: rest else piece :: word
  | _, _ => piece :: word

/-- A tilde at the beginning, up to a slash or the end, stands for the home directory if that is known. -/
def withHome (word : Word) : Word :=
  match word with
  | .text (tilde :: rest) false :: more =>
    let ends := decide (rest.head? = some Bytes.slash) || rest.isEmpty && more.isEmpty
    if ends && decide (tilde = 126) then
      let others : Word := if rest = [] then more else .text rest false :: more
      .modified "HOME" (.fallback false) false [.text [tilde] true] true :: others
    else word
  | _ => word

end Word

end Handover.Host.Shell

import Handover.Host.Shell.Token

/-! # The grammar of shell scripts

A script is read a line at a time, and a line is run before the next one is read. So what stands before a mistake counts.
-/
namespace Handover.Host.Shell.Grammar

abbrev Parser (α : Type) := List Token → Option (α × List Token)

def keyword? : List Token → Option String
  | .word word :: _ => (Word.literal? word).map Text.lossy
  | _ => none

def atKeyword (words : List String) (tokens : List Token) : Bool := (keyword? tokens).any words.contains

def atSign (texts : List String) : List Token → Bool
  | .sign text :: _ => texts.contains text
  | _ => false

def expectKeyword (word : String) (tokens : List Token) : Option (List Token) :=
  if atKeyword [word] tokens then some (tokens.drop 1) else none

def expectSign (text : String) (tokens : List Token) : Option (List Token) :=
  if atSign [text] tokens then some (tokens.drop 1) else none

def isNewline : Token → Bool
  | .sign text => decide (text = "\n")
  | _ => false

def skipNewlines (tokens : List Token) : List Token := tokens.dropWhile isNewline

def words : List Token → List Word × List Token
  | .word word :: tokens => ((words tokens).map (word :: ·) id)
  | tokens => ([], tokens)

def redirections : List Token → List Redirection × List Token
  | .redirect descriptor channel (some target) :: tokens =>
    ((redirections tokens).map (⟨descriptor, channel, target⟩ :: ·) id)
  | .redirect descriptor channel none :: .word target :: tokens =>
    ((redirections tokens).map (⟨descriptor, channel, target⟩ :: ·) id)
  | tokens => ([], tokens)

def simple : List Token → (List Word × List Redirection) × List Token
  | .word word :: tokens =>
    let ((words, redirections), tokens) := simple tokens
    ((word :: words, redirections), tokens)
  | .redirect descriptor channel (some target) :: tokens =>
    let ((words, redirections), tokens) := simple tokens
    ((words, ⟨descriptor, channel, target⟩ :: redirections), tokens)
  | .redirect descriptor channel none :: .word target :: tokens =>
    let ((words, redirections), tokens) := simple tokens
    ((words, ⟨descriptor, channel, target⟩ :: redirections), tokens)
  | tokens => (([], []), tokens)

/-- The words that end what stands before them, and so begin no command. -/
def closers : List String := ["then", "else", "elif", "fi", "do", "done", "esac", "\x7d"]

def ofList : List Command → Command
  | [command] => command
  | commands => .sequence commands

def patterns : List Token → Option (List Word × List Token)
  | .word word :: .sign "|" :: tokens => (patterns tokens).map fun (words, tokens) => (word :: words, tokens)
  | .word word :: .sign ")" :: tokens => some ([word], tokens)
  | _ => none

mutual

/-- Commands up to one of the closing words or signs; `fuel` bounds the depth and the length. -/
def list : Nat → Parser (List Command)
  | 0, _ => none
  | fuel + 1, tokens =>
    let tokens := skipNewlines tokens
    if tokens.isEmpty || atKeyword closers tokens || atSign [")", ";;"] tokens then some ([], tokens)
    else do
      let (command, tokens) ← separated fuel tokens
      let (commands, tokens) ← list fuel tokens
      return (command :: commands, tokens)

def separated : Nat → Parser Command
  | 0, _ => none
  | fuel + 1, tokens => do
    let (command, tokens) ← andOr fuel tokens
    if atSign ["&"] tokens then return (.background command, tokens.drop 1)
    else if atSign [";"] tokens then return (command, tokens.drop 1)
    else if tokens.isEmpty || atSign ["\n", ")", ";;"] tokens || atKeyword closers tokens then return (command, tokens)
    else none

def andOr : Nat → Parser Command
  | 0, _ => none
  | fuel + 1, tokens => do
    let (first, tokens) ← pipeline fuel tokens
    chained fuel first tokens

/-- Chains are read from the left. -/
def chained : Nat → Command → Parser Command
  | 0, _, _ => none
  | fuel + 1, first, tokens =>
    if atSign ["&&", "||"] tokens then do
      let (second, rest) ← pipeline fuel (skipNewlines (tokens.drop 1))
      chained fuel (.chain (atSign ["||"] tokens) first second) rest
    else some (first, tokens)

def pipeline : Nat → Parser Command
  | 0, _ => none
  | fuel + 1, tokens =>
    do
      let negates := atKeyword ["!"] tokens
      let (commands, tokens) ← piped fuel (if negates then tokens.drop 1 else tokens)
      let command := match commands with
        | [command] => command
        | commands => .pipeline commands
      return (if negates then .negation command else command, tokens)

def piped : Nat → Parser (List Command)
  | 0, _ => none
  | fuel + 1, tokens => do
    let (command, tokens) ← command fuel tokens
    if atSign ["|"] tokens then
      let (commands, tokens) ← piped fuel (skipNewlines (tokens.drop 1))
      return (command :: commands, tokens)
    else return ([command], tokens)

def command : Nat → Parser Command
  | 0, _ => none
  | fuel + 1, tokens =>
    match compound fuel tokens with
    | some (command, tokens) =>
      let (redirections, tokens) := redirections tokens
      some (if redirections.isEmpty then command else .redirected command redirections, tokens)
    | none =>
      if atKeyword (["!", "if", "while", "until", "for", "case", "\x7b"] ++ closers) tokens || atSign ["("] tokens then none
      else match tokens with
        | .word word :: .sign "(" :: .sign ")" :: rest => do
          let (body, tokens) ← command fuel (skipNewlines rest)
          return (.definition (Text.lossy (← Word.literal? word)) body, tokens)
        | _ =>
          let ((words, redirections), tokens) := simple tokens
          if words.isEmpty && redirections.isEmpty then none else some (.simple words redirections, tokens)

def compound : Nat → Parser Command
  | 0, _ => none
  | fuel + 1, tokens =>
    let rest := tokens.drop 1
    if atSign ["("] tokens then do
      let (body, tokens) ← body fuel rest
      return (.subshell [body], ← expectSign ")" tokens)
    else match keyword? tokens with
    | some "\x7b" => do
      let (body, tokens) ← body fuel rest
      return (body, ← expectKeyword "\x7d" tokens)
    | some "if" => conditional fuel rest
    | some "while" => loop fuel true rest
    | some "until" => loop fuel false rest
    | some "for" => iteration fuel rest
    | some "case" => do
      match rest with
      | .word subject :: tokens =>
        let tokens ← expectKeyword "in" (skipNewlines tokens)
        let (branches, tokens) ← branches fuel (skipNewlines tokens)
        return (.choice subject branches, tokens)
      | _ => none
    | _ => none

def body : Nat → Parser Command
  | 0, _ => none
  | fuel + 1, tokens => do
    let (commands, tokens) ← list fuel tokens
    if commands.isEmpty then none else return (ofList commands, tokens)

def conditional : Nat → Parser Command
  | 0, _ => none
  | fuel + 1, tokens => do
    let (test, tokens) ← body fuel tokens
    let (consequence, tokens) ← body fuel (← expectKeyword "then" tokens)
    if atKeyword ["elif"] tokens then
      let (alternative, tokens) ← conditional fuel (tokens.drop 1)
      return (.conditional test consequence alternative, tokens)
    else if atKeyword ["else"] tokens then
      let (alternative, tokens) ← body fuel (tokens.drop 1)
      return (.conditional test consequence alternative, ← expectKeyword "fi" tokens)
    else return (.conditional test consequence (.sequence []), ← expectKeyword "fi" tokens)

def group : Nat → Parser Command
  | 0, _ => none
  | fuel + 1, tokens => do
    let (body, tokens) ← body fuel (← expectKeyword "do" (skipNewlines tokens))
    return (body, ← expectKeyword "done" tokens)

def loop : Nat → Bool → Parser Command
  | 0, _, _ => none
  | fuel + 1, goal, tokens => do
    let (test, tokens) ← body fuel tokens
    let (body, tokens) ← group fuel tokens
    return (.loop goal test body, tokens)

def iteration : Nat → Parser Command
  | 0, _ => none
  | fuel + 1, tokens => do
    let name ← keyword? tokens
    if !Lexer.isName name.toList then none
    let tokens := tokens.drop 1
    if atKeyword ["in"] (skipNewlines tokens) then
      let (words, tokens) := words ((skipNewlines tokens).drop 1)
      if !atSign [";", "\n"] tokens then none
      let (body, tokens) ← group fuel (tokens.drop 1)
      return (.iteration name (some words) body, tokens)
    else
      let (body, tokens) ← group fuel (if atSign [";"] tokens then tokens.drop 1 else tokens)
      return (.iteration name none body, tokens)

def branches : Nat → Parser (List (List Word × Command))
  | 0, _ => none
  | fuel + 1, tokens =>
    if atKeyword ["esac"] tokens then some ([], tokens.drop 1)
    else do
      let (patterns, tokens) ← patterns (if atSign ["("] tokens then tokens.drop 1 else tokens)
      let (commands, tokens) ← list fuel tokens
      if atSign [";;"] tokens then
        let (more, tokens) ← branches fuel (skipNewlines (tokens.drop 1))
        return ((patterns, ofList commands) :: more, tokens)
      else return ([(patterns, ofList commands)], ← expectKeyword "esac" tokens)

end

/-- The commands of one line, which may go on over several if a command does. -/
def line (fuel : Nat) : Nat → Parser (List Command)
  | 0, _ => none
  | length + 1, tokens =>
    if tokens.isEmpty then some ([], [])
    else if atSign ["\n"] tokens then some ([], tokens.drop 1)
    else do
      let (command, tokens) ← separated fuel tokens
      let (commands, tokens) ← line fuel length tokens
      return (command :: commands, tokens)

/-- The scripts whose output is used in a piece; `fuel` bounds how deep it is nested. -/
def scriptsIn : Nat → Piece → List String
  | 0, _ => []
  | fuel + 1, piece =>
    match piece with
    | .output script _ => [script]
    | .arithmetic word _ | .modified _ _ _ word _ => word.flatMap (scriptsIn fuel)
    | _ => []

def scriptsOf : Token → List String
  | .word word | .redirect _ _ (some word) => word.flatMap (scriptsIn 100)
  | _ => []

/-- The commands before the first mistake, and whether there is one. A mistake in a script that occurs in a line is one
in the line itself. The first number bounds how deep scripts are nested, the second one the lines. -/
def linesUpTo : Nat → Nat → List Token → List Command × Bool
  | 0, _, _ | _, 0, _ => ([], true)
  | depth + 1, fuel + 1, tokens =>
    if tokens.isEmpty then ([], false)
    else match line (12 * tokens.length + 12) (tokens.length + 1) tokens with
      | none => ([], true)
      | some (commands, rest) =>
        let scripts := (tokens.take (tokens.length - rest.length)).flatMap scriptsOf
        let mistaken := scripts.any fun script =>
          let tokens := Lexer.tokens script
          (linesUpTo depth (tokens.length + 1) tokens).2
        if mistaken then ([], true) else (linesUpTo (depth + 1) fuel rest).map (commands ++ ·) id

def maxDepth : Nat := 50

def ofScript (script : String) : List Command × Bool :=
  let tokens := Lexer.tokens script
  linesUpTo maxDepth (tokens.length + 1) tokens

end Handover.Host.Shell.Grammar

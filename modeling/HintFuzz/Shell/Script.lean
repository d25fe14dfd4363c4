import HintFuzz.Text.Octets

/-!
# Shell scripts

The scripts that commands may be given as: words with expansions in them, simple
commands with redirections, and the ways of putting commands together.
-/

namespace HintFuzz.Shell

/-- What is made of the value of a parameter. -/
inductive ParameterForm
  | plain
  | length
  /-- The operand in place of a value that is missing. -/
  | orElse
  /-- Like `orElse`, and the parameter is set. -/
  | assign
  /-- The operand if there is a value. -/
  | replaced
  /-- The value, or the end of the script. -/
  | required
  /-- Without the shortest front that the operand matches. -/
  | dropFront
  | dropLongestFront
  /-- Without the shortest end that the operand matches. -/
  | dropEnd
  | dropLongestEnd
  /-- No form at all: the script ends when it comes to such an expansion. -/
  | unknown
deriving DecidableEq

/-- How a redirection opens its target. -/
inductive TargetMode
  | read
  | write
  /-- Writes even over a file that is protected. -/
  | overwrite
  | append
  | update
deriving DecidableEq

mutual

/-- A part of a word.  What an expansion gives is split into fields unless it is
quoted. -/
inductive Piece
  | plain (text : Octets)
  | quoted (text : Octets)
  /-- With `orEmpty`, an empty value counts as missing. -/
  | parameter (name : Octets) (form : ParameterForm) (orEmpty quoted : Bool)
      (operand : List Piece)
  /-- What a script writes to its output. -/
  | output (body : Script) (quoted : Bool)
  | arithmetic (expression : List Piece) (quoted : Bool)

/-- A redirection of a descriptor. -/
inductive Redirect
  | file (descriptor : Nat) (mode : TargetMode) (target : List Piece)
  /-- The target is the number of another descriptor. -/
  | duplicate (descriptor : Nat) (target : List Piece)
  /-- The input is the document of a number in the script. -/
  | document (descriptor : Nat) (number : Nat)

/-- A script.  Commands know the lines that they start at. -/
inductive Script
  | nothing
  | simple (line : Nat) (assignments : List (Octets × List Piece)) (words : List (List Piece))
      (redirects : List Redirect)
  | sequence (first second : Script)
  /-- The second one runs if the first one succeeds. -/
  | both (first second : Script)
  /-- The second one runs if the first one fails. -/
  | either (first second : Script)
  | negated (body : Script)
  /-- The output of each command is the input of the next one. -/
  | pipeline (commands : List Script)
  | background (line : Nat) (body : Script)
  /-- Runs in a shell of its own. -/
  | subshell (line : Nat) (body : Script) (redirects : List Redirect)
  | redirected (line : Nat) (body : Script) (redirects : List Redirect)
  | branch (condition yes no : Script)
  /-- Repeats its body while its condition succeeds, or fails if `negated`. -/
  | loop (negated : Bool) (condition body : Script)
  /-- Runs its body for every field, or for every argument of the script. -/
  | each (line : Nat) (name : Octets) (words : Option (List (List Piece))) (body : Script)
  | select (line : Nat) (subject : List Piece) (arms : List (List (List Piece) × Script))
  /-- Gives a command a name. -/
  | define (line : Nat) (name : Octets) (body : Script)

end

/-- A word: parts without a blank between them. -/
abbrev Word := List Piece

/-- Whether a part runs a script. -/
def Piece.isOutput : Piece → Bool
  | output _ _ => true
  | _ => false

/-- A text that is the input of a command. -/
inductive Document
  | plain (text : Octets)
  | expanded (text : Word)

/-- What is wrong with a text that is no script. -/
inductive SyntaxFault
  | unterminatedQuote
  | unterminatedBackquote
  | missingBrace
  | missingParentheses
  | badLoopVariable
  | badFunctionName
  /-- A token, as it is shown, and the one that belongs in its place if there is
  only one. -/
  | unexpected (token : String) (expected : Option String)

/-- The wording of a fault. -/
def SyntaxFault.message : SyntaxFault → String
  | unterminatedQuote => "Syntax error: Unterminated quoted string"
  | unterminatedBackquote => "Syntax error: EOF in backquote substitution"
  | missingBrace => "Syntax error: Missing '\x7d'"
  | missingParentheses => "Syntax error: Missing '))'"
  | badLoopVariable => "Syntax error: Bad for loop variable"
  | badFunctionName => "Syntax error: Bad function name"
  | unexpected token expected =>
    "Syntax error: " ++ token ++ " unexpected" ++
      match expected with
      | some token => " (expecting " ++ token ++ ")"
      | none => ""

end HintFuzz.Shell

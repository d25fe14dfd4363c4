import HintFuzz.Files.Standard
import HintFuzz.Shell.State

/-!
# Home directories in words

A tilde at the start of a word stands for a home directory: that of the script, or
that of the user whose name is behind it.  In the value of a variable it may stand
behind any colon too.
-/

namespace HintFuzz.Shell

/-- The home directory of a user of a name. -/
def userHome? (name : Octets) : Option Octets :=
  (Text.stretches '\n' Files.users.toList).findSome? fun line =>
    match Text.stretches ':' line with
    | user :: _ :: _ :: _ :: _ :: home :: _ =>
      if String.ofList user = name then some (String.ofList home) else none
    | _ => none

/-- The home directory that a name behind a tilde stands for. -/
def State.home? (state : State) (name : Octets) : Option Octets :=
  if name.isEmpty then state.value? "HOME" else userHome? name

/-- The pieces of a plain text in which a tilde may stand where it starts, and with
`colons` behind any colon.  A name that the text ends with is whole if nothing is
`behind` the text. -/
def homePieces (state : State) (colons behind : Bool) : (fuel : Nat) → (start : Bool) →
    List Char → List Piece
  | 0, _, text => [.plain (String.ofList text)]
  | _, _, [] => []
  | fuel + 1, start, text =>
    let ends (c : Char) : Bool := c = '/' || (colons && c = ':')
    let plainFront (text : List Char) : List Piece :=
      if colons then
        let front := text.takeWhile (· ≠ ':')
        match text.drop front.length with
        | colon :: rest =>
          .plain (String.ofList (front ++ [colon])) :: homePieces state colons behind fuel true rest
        | [] => [.plain (String.ofList front)]
      else [.plain (String.ofList text)]
    match start, text with
    | true, '~' :: rest =>
      let name := rest.takeWhile fun c => !ends c
      let rest := rest.drop name.length
      if rest.isEmpty ∧ behind then plainFront text
      else
        match state.home? (String.ofList name) with
        | some home => .quoted home :: homePieces state colons behind fuel false rest
        | none => plainFront text
    | _, text => plainFront text

/-- A word in which tildes are replaced by home directories. -/
def withHomes (state : State) (colons : Bool) : (start : Bool) → Word → Word
  | _, [] => []
  | start, .plain text :: rest =>
    homePieces state colons (!rest.isEmpty) (text.length + 1) start text.toList ++
      withHomes state colons false rest
  | _, piece :: rest => piece :: withHomes state colons false rest

end HintFuzz.Shell

import HintFuzz.Json.Basic

/-!
# Writing JSON

Two layouts: all on one line without spaces, or one item a line.  In strings
only the quotation mark, the backslash and control characters are escaped, so
what is written on one line holds no line feed.
-/

namespace HintFuzz.Json

/-- The letter that stands for a control character after a backslash. -/
def shortEscape? : Char → Option Char
  | '\x08' => some 'b'
  | '\t' => some 't'
  | '\n' => some 'n'
  | '\x0c' => some 'f'
  | '\r' => some 'r'
  | '"' => some '"'
  | '\\' => some '\\'
  | _ => none

/-- A character as it stands in a string. -/
def escaped (c : Char) : List Char :=
  match shortEscape? c with
  | some letter => ['\\', letter]
  | none =>
    if c.toNat < 32 then
      ['\\', 'u', '0', '0', (c.toNat / 16).digitChar, (c.toNat % 16).digitChar]
    else [c]

/-- A string between quotation marks. -/
def quoted (text : String) : List Char :=
  '"' :: text.toList.flatMap escaped ++ ['"']

/-- A string value.  One half of a pair of surrogates has no text of its own. -/
def textChars (text : Json.Text) : List Char :=
  quoted (text.getD "\ufffd")

mutual

/-- A value on one line. -/
def compactChars : Json → List Char
  | null => "null".toList
  | bool true => "true".toList
  | bool false => "false".toList
  | number lexeme => lexeme.toList
  | string text => textChars text
  | array [] => ['[', ']']
  | array (item :: rest) => '[' :: compactChars item ++ compactItems rest
  | object [] => ['{', '}']
  | object ((name, value) :: rest) =>
    '{' :: textChars name ++ ':' :: compactChars value ++ compactMembers rest

/-- The items after the first one, and the bracket that closes them. -/
def compactItems : List Json → List Char
  | [] => [']']
  | item :: rest => ',' :: compactChars item ++ compactItems rest

/-- The members after the first one, and the brace that closes them. -/
def compactMembers : List (Json.Text × Json) → List Char
  | [] => ['}']
  | (name, value) :: rest =>
    ',' :: textChars name ++ ':' :: compactChars value ++ compactMembers rest

end

/-- A value on one line. -/
def compact (value : Json) : String :=
  String.ofList value.compactChars

/-- The start of a line at some depth. -/
def lineStart (depth : Nat) : List Char :=
  '\n' :: List.replicate (2 * depth) ' '

mutual

/-- A value at some depth, one item a line. -/
def prettyChars (depth : Nat) : Json → List Char
  | array (item :: rest) =>
    '[' :: lineStart (depth + 1) ++ prettyChars (depth + 1) item ++ prettyItems depth rest
  | object ((name, value) :: rest) =>
    '{' :: lineStart (depth + 1) ++ textChars name ++ ':' :: ' ' ::
      prettyChars (depth + 1) value ++ prettyMembers depth rest
  | value => value.compactChars

/-- The items after the first one, and the bracket that closes them. -/
def prettyItems (depth : Nat) : List Json → List Char
  | [] => lineStart depth ++ [']']
  | item :: rest =>
    ',' :: lineStart (depth + 1) ++ prettyChars (depth + 1) item ++ prettyItems depth rest

/-- The members after the first one, and the brace that closes them. -/
def prettyMembers (depth : Nat) : List (Json.Text × Json) → List Char
  | [] => lineStart depth ++ ['}']
  | (name, value) :: rest =>
    ',' :: lineStart (depth + 1) ++ textChars name ++ ':' :: ' ' ::
      prettyChars (depth + 1) value ++ prettyMembers depth rest

end

/-- A value over several lines, each level two spaces deeper. -/
def pretty (value : Json) : String :=
  String.ofList (value.prettyChars 0)

end HintFuzz.Json

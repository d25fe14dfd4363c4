import HintFuzz.Toml.Basic

/-!
# Writing TOML

Each string is written in the plainest way that needs no escapes where that is
possible: between apostrophes if there is a backslash in it, over several lines
if there is a line feed in it, and otherwise between quotation marks.
-/

namespace HintFuzz.Toml

/-! ### Strings -/

/-- A control character that cannot stand in a string as it is. -/
def needsEscape (c : Char) : Bool :=
  (c.toNat < 32 || c.toNat = 127) && c ≠ '\t' && c ≠ '\n'

/-- The length of the longest run of apostrophes, given the length of the run
that is open. -/
def longestRun (run : Nat) : List Char → Nat
  | [] => run
  | c :: rest => if c = '\'' then longestRun (run + 1) rest else max run (longestRun 0 rest)

/-- Whether a string is written without escapes: it holds a backslash, nothing
that needs an escape, no three apostrophes in a row and none at its end. -/
def isLiteral (text : List Char) : Bool :=
  text.contains '\\' && !text.any needsEscape && longestRun 0 text < 3 &&
    text.getLast? ≠ some '\''

/-- The last `count` digits of a number in base sixteen, in upper case. -/
def upperHex : (count value : Nat) → List Char
  | 0, _ => []
  | count + 1, value => upperHex count (value / 16) ++ [(value % 16).digitChar.toUpper]

/-- A character of a string with escapes. -/
def escaped (severalLines : Bool) (c : Char) : List Char :=
  match c with
  | '\x08' => ['\\', 'b']
  | '\t' => ['\\', 't']
  | '\n' => if severalLines then ['\n'] else ['\\', 'n']
  | '\x0c' => ['\\', 'f']
  | '\r' => ['\\', 'r']
  | '"' => ['\\', '"']
  | '\\' => ['\\', '\\']
  | c => if needsEscape c then '\\' :: 'u' :: upperHex 4 c.toNat else [c]

/-- A string. -/
def quoted (text : String) : List Char :=
  let characters := text.toList
  let severalLines := characters.contains '\n'
  if isLiteral characters then
    if severalLines then "'''\n".toList ++ characters ++ "'''".toList
    else if characters.contains '\'' then "'''".toList ++ characters ++ "'''".toList
    else '\'' :: characters ++ ['\'']
  else
    let body := characters.flatMap (escaped severalLines)
    if severalLines then "\"\"\"\n".toList ++ body ++ "\"\"\"".toList
    else '"' :: body ++ ['"']

/-! ### Documents -/

/-- The line of a key. -/
def keyLine (key : String) (value : List Char) : List Char :=
  key.toList ++ " = ".toList ++ value ++ ['\n']

/-- The line of a key whose value is a text. -/
def textLine (key value : String) : List Char :=
  keyLine key (quoted value)

/-- The line of a key whose value is a number. -/
def numberLine (key : String) (value : Nat) : List Char :=
  keyLine key (toString value).toList

/-- The line of a key whose value is a truth value. -/
def truthLine (key : String) (value : Bool) : List Char :=
  keyLine key (if value then "true".toList else "false".toList)

/-- An array of texts: on one line up to one item, and else one item a line. -/
def textArray : List String → List Char
  | [] => ['[', ']']
  | [item] => '[' :: quoted item ++ [']']
  | items =>
    "[\n".toList ++
      items.flatMap (fun item => "    ".toList ++ quoted item ++ ",\n".toList) ++ [']']

/-- The line of a header, with an empty line in front of it. -/
def headerLine (name : String) : List Char :=
  "\n[".toList ++ name.toList ++ "]\n".toList

end HintFuzz.Toml

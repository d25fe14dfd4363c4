import HintFuzz.Json.Reader

/-!
# Strings and keys of TOML

Four kinds of string: with escapes or without, on one line or over several.  A
line end inside a string counts as one line feed, however it is written.
-/

namespace HintFuzz.Toml

/-- Blanks within a line. -/
def isSpace (c : Char) : Bool :=
  c = ' ' || c = '\t'

/-- A text without the blanks at its start. -/
def skipSpaces (text : List Char) : List Char :=
  text.dropWhile isSpace

/-- Characters that may stand in a line: no control character but the tab. -/
def isPlain (c : Char) : Bool :=
  c = '\t' || (32 ≤ c.toNat && c.toNat ≠ 127)

/-- A text behind the line end that it starts with. -/
def afterLineEnd? : List Char → Option (List Char)
  | '\n' :: rest => some rest
  | '\r' :: '\n' :: rest => some rest
  | _ => none

/-- A text without the blanks and line ends at its start. -/
def skipBlankLines : List Char → List Char
  | '\n' :: rest => skipBlankLines rest
  | '\r' :: '\n' :: rest => skipBlankLines rest
  | c :: rest => if isSpace c then skipBlankLines rest else c :: rest
  | [] => []

/-! ### Escapes -/

/-- The character with a number, unless it is the number of a surrogate or of no
character at all. -/
def character? (code : Nat) : Option Char :=
  if code.isValidChar then some (Char.ofNat code) else none

/-- The character that an escape stands for, from behind its backslash on. -/
def readEscape : List Char → Option (Char × List Char)
  | 'u' :: rest => do
    if rest.length < 4 then none
    else return (← character? (← Json.hexNumber? (rest.take 4)), rest.drop 4)
  | 'U' :: rest => do
    if rest.length < 8 then none
    else return (← character? (← Json.hexNumber? (rest.take 8)), rest.drop 8)
  | 'b' :: rest => some ('\x08', rest)
  | 't' :: rest => some ('\t', rest)
  | 'n' :: rest => some ('\n', rest)
  | 'f' :: rest => some ('\x0c', rest)
  | 'r' :: rest => some ('\r', rest)
  | '"' :: rest => some ('"', rest)
  | '\\' :: rest => some ('\\', rest)
  | _ => none

/-! ### Strings on one line -/

/-- A string with escapes, from behind its opening quotation mark on. -/
def readBasic : (fuel : Nat) → List Char → Option (List Char × List Char)
  | 0, _ => none
  | _, [] => none
  | _ + 1, '"' :: rest => some ([], rest)
  | fuel + 1, '\\' :: rest => do
    let (c, rest) ← readEscape rest
    let (text, rest) ← readBasic fuel rest
    return (c :: text, rest)
  | fuel + 1, c :: rest => do
    if !isPlain c then none
    else
      let (text, rest) ← readBasic fuel rest
      return (c :: text, rest)

/-- A string without escapes, from behind its opening apostrophe on. -/
def readLiteral : List Char → Option (List Char × List Char)
  | [] => none
  | c :: rest => do
    if c = '\'' then return ([], rest)
    else if !isPlain c then none
    else
      let (text, rest) ← readLiteral rest
      return (c :: text, rest)

/-! ### Strings over several lines -/

/-- The end of a string over several lines, from behind its three closing marks
on: up to two more marks belong to the string. -/
def closeLines (mark : Char) : List Char → List Char × List Char
  | c :: d :: rest =>
    if c = mark ∧ d = mark then ([mark, mark], rest)
    else if c = mark then ([mark], d :: rest)
    else ([], c :: d :: rest)
  | [c] => if c = mark then ([mark], []) else ([], [c])
  | [] => ([], [])

/-- What is left of a text behind three marks that it starts with. -/
def afterThree? (mark : Char) : List Char → Option (List Char)
  | c :: d :: e :: rest => if c = mark ∧ d = mark ∧ e = mark then some rest else none
  | _ => none

/-- A string over several lines.  In one with escapes, a backslash at the end of
a line takes the line end and all blanks after it away. -/
def readLines (mark : Char) (escapes : Bool) :
    (fuel : Nat) → List Char → Option (List Char × List Char)
  | 0, _ => none
  | _, [] => none
  | fuel + 1, c :: rest =>
    match afterThree? mark (c :: rest) with
    | some rest => some (closeLines mark rest)
    | none =>
      match afterLineEnd? (c :: rest) with
      | some rest => do
        let (text, rest) ← readLines mark escapes fuel rest
        return ('\n' :: text, rest)
      | none => do
        if escapes ∧ c = '\\' then
          if (afterLineEnd? (skipSpaces rest)).isSome then
            readLines mark escapes fuel (skipBlankLines (skipSpaces rest))
          else
            let (escaped, rest) ← readEscape rest
            let (text, rest) ← readLines mark escapes fuel rest
            return (escaped :: text, rest)
        else if !isPlain c then none
        else
          let (text, rest) ← readLines mark escapes fuel rest
          return (c :: text, rest)

/-- A string of any kind. -/
def readText (text : List Char) : Option (List Char × List Char) :=
  match text with
  | '"' :: rest =>
    match afterThree? '"' text with
    | some lines => readLines '"' true text.length ((afterLineEnd? lines).getD lines)
    | none => readBasic text.length rest
  | '\'' :: rest =>
    match afterThree? '\'' text with
    | some lines => readLines '\'' false text.length ((afterLineEnd? lines).getD lines)
    | none => readLiteral rest
  | _ => none

/-! ### Keys -/

/-- Characters of a key without quotation marks. -/
def isBareKey (c : Char) : Bool :=
  c.isAlphanum || c = '_' || c = '-'

/-- One name of a key. -/
def readName (text : List Char) : Option (String × List Char) :=
  match text with
  | '"' :: rest => (readBasic text.length rest).map fun (name, rest) => (String.ofList name, rest)
  | '\'' :: rest => (readLiteral rest).map fun (name, rest) => (String.ofList name, rest)
  | _ =>
    match text.takeWhile isBareKey with
    | [] => none
    | name => some (String.ofList name, text.dropWhile isBareKey)

/-- The names of a key with points between them, and the blanks around it. -/
def readKeyFrom : (fuel : Nat) → List Char → Option (List String × List Char)
  | 0, _ => none
  | fuel + 1, text => do
    let (name, rest) ← readName (skipSpaces text)
    match skipSpaces rest with
    | '.' :: rest =>
      let (names, rest) ← readKeyFrom fuel rest
      return (name :: names, rest)
    | rest => return ([name], rest)

/-- How many names a key may have, and how deep values may be nested. -/
def nestingLimit : Nat := 127

/-- A key. -/
def readKey (text : List Char) : Option (List String × List Char) :=
  readKeyFrom nestingLimit text

end HintFuzz.Toml

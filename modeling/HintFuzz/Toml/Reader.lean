import HintFuzz.Toml.Scalar
import HintFuzz.Toml.Table

/-!
# Reading TOML

A document is a sequence of lines: blank ones, headers of tables, and keys with
values.  Only arrays and certain strings go on over a line end.
-/

namespace HintFuzz.Toml

/-! ### Lines -/

/-- A text behind a comment, if it starts with one. -/
def skipComment : List Char → List Char
  | '#' :: rest => rest.dropWhile isPlain
  | text => text

/-- The text behind the rest of a line, in which only blanks and a comment may
stand. -/
def endOfLine? (text : List Char) : Option (List Char) :=
  match skipComment (skipSpaces text) with
  | [] => some []
  | rest => afterLineEnd? rest

/-- A text without the blanks, comments and line ends at its start. -/
def skipLines : (fuel : Nat) → List Char → List Char
  | 0, text => text
  | fuel + 1, text =>
    match skipBlankLines text with
    | '#' :: rest => skipLines fuel (rest.dropWhile isPlain)
    | rest => rest

/-! ### Values -/

/-- The members of a table with a value under a key, which stands nowhere yet.  A
key with points leads through the tables that are there. -/
def place (value : Toml) : (path : List String) → (name : String) → List (String × Toml) →
    Option (List (String × Toml))
  | [], name, members =>
    if members.any fun member => member.1 = name then none else some (members ++ [(name, value)])
  | first :: path, name, members =>
    match members.find? fun member => member.1 = first with
    | none => do return members ++ [(first, .table (← place value path name []))]
    | some (_, .table inner) => do
      let inner ← place value path name inner
      return members.map fun member => if member.1 = first then (first, .table inner) else member
    | some _ => none

/-- The table that keys and values between braces make. -/
def inlineTable? (pairs : List (List String × Toml)) : Option Toml := do
  let members ← pairs.foldlM (fun members (key, value) => do
    let (path, name) ← Entry.splitPath? key
    place value path name members) []
  return .table members

mutual

/-- A value, nested at most `depth` deep. -/
def readValue : (fuel depth : Nat) → List Char → Option (Toml × List Char)
  | 0, _, _ => none
  | fuel + 1, depth, text =>
    match text with
    | '"' :: _ | '\'' :: _ =>
      (readText text).map fun (text, rest) => (.string (String.ofList text), rest)
    | '[' :: rest =>
      if depth = 0 then none
      else
        (readItems fuel (depth - 1) (skipLines rest.length rest)).map fun (items, rest) =>
          (.array items, rest)
    | '{' :: rest => do
      if depth = 0 then none
      else
        match skipSpaces rest with
        | '}' :: rest => return (.table [], rest)
        | rest =>
          let (pairs, rest) ← readPairs fuel (depth - 1) rest
          return (← inlineTable? pairs, rest)
    | _ => readScalar text

/-- Items up to the bracket that closes their array. -/
def readItems : (fuel depth : Nat) → List Char → Option (List Toml × List Char)
  | 0, _, _ => none
  | _, _, ']' :: rest => some ([], rest)
  | fuel + 1, depth, text => do
    let (item, rest) ← readValue fuel depth text
    match skipLines rest.length rest with
    | ']' :: rest => return ([item], rest)
    | ',' :: rest =>
      let (items, rest) ← readItems fuel depth (skipLines rest.length rest)
      return (item :: items, rest)
    | _ => none

/-- Keys and values up to the brace that closes their table. -/
def readPairs : (fuel depth : Nat) → List Char → Option (List (List String × Toml) × List Char)
  | 0, _, _ => none
  | fuel + 1, depth, text => do
    let (key, rest) ← readKey text
    match rest with
    | '=' :: rest =>
      let (value, rest) ← readValue fuel depth (skipSpaces rest)
      match skipSpaces rest with
      | '}' :: rest => return ([(key, value)], rest)
      | ',' :: rest =>
        let (pairs, rest) ← readPairs fuel depth rest
        return ((key, value) :: pairs, rest)
      | _ => none
    | _ => none

end

/-! ### Documents -/

/-- What is known of a document, and the header of the table that is open. -/
structure Draft where
  members : List (String × Entry)
  header : List String

/-- Reads a header, from behind its first bracket on. -/
def readHeader (draft : Draft) (text : List Char) : Option (Draft × List Char) := do
  match text with
  | '[' :: rest =>
    match ← readKey rest with
    | (header, ']' :: ']' :: rest) =>
      return (⟨← Entry.openSeries draft.members header, header⟩, ← endOfLine? rest)
    | _ => none
  | _ =>
    match ← readKey text with
    | (header, ']' :: rest) =>
      return (⟨← Entry.openTable draft.members header, header⟩, ← endOfLine? rest)
    | _ => none

/-- Reads a key and its value. -/
def readAssignment (draft : Draft) (text : List Char) : Option (Draft × List Char) := do
  match ← readKey text with
  | (key, '=' :: rest) =>
    let (value, rest) ← readValue (2 * text.length) nestingLimit (skipSpaces rest)
    let members ← Entry.assignUnder draft.members draft.header key value
    return (⟨members, draft.header⟩, ← endOfLine? rest)
  | _ => none

/-- Reads the lines of a document. -/
def readDocument : (fuel : Nat) → Draft → List Char → Option Draft
  | 0, _, _ => none
  | fuel + 1, draft, text =>
    match skipSpaces text with
    | [] => some draft
    | '[' :: rest => do
      let (draft, rest) ← readHeader draft rest
      readDocument fuel draft rest
    | rest =>
      match endOfLine? rest with
      | some rest => readDocument fuel draft rest
      | none => do
        let (draft, rest) ← readAssignment draft rest
        readDocument fuel draft rest

/-- The table that a text writes.  A mark of byte order at its start is passed
over. -/
def ofText? (text : String) : Option (List (String × Toml)) := do
  let characters :=
    match text.toList with
    | '\ufeff' :: rest => rest
    | characters => characters
  let draft ← readDocument (characters.length + 1) ⟨[], []⟩ characters
  return Entry.memberValues draft.members

end HintFuzz.Toml

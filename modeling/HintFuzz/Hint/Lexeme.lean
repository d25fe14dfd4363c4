import HintFuzz.Text.Blank

/-!
# Reading a hint line character by character

Hint bodies are Python.  Of its lexical rules three matter here: a comment ends
the code of a line, a string literal hides what it holds, and the braces of an
f-string may hold code again.  A line is read from left to right in a `Mode`;
the result is the line's code with every character marked by the `Lexeme` it
belongs to.
-/

namespace HintFuzz.Hint

/-- What a character of a line belongs to. -/
inductive Lexeme
  | code
  /-- A plain string literal, quotes included. -/
  | text
  /-- An f-string, quotes included. -/
  | format
deriving DecidableEq, Repr

/-- A character of a line's code, marked. -/
structure Cell where
  char : Char
  lexeme : Lexeme
deriving DecidableEq, Repr

/-- Where in a line the reader stands. -/
inductive Mode
  | code
  /-- Inside the literal that `quote` opened; `escaped` when the last character
  was a backslash that escapes the next one. -/
  | literal (quote : Char) (kind : Lexeme) (escaped : Bool)
  | comment
deriving DecidableEq, Repr

/-- A letter, a digit or an underscore of ASCII. -/
def isNameChar (c : Char) : Bool :=
  c.isAlphanum || c = '_'

/-- A letter or an underscore of ASCII. -/
def isNameStart (c : Char) : Bool :=
  c.isAlpha || c = '_'

/-- Whether the quote that follows `before` opens an f-string.  `before` holds
the characters of the line so far, the last one first: the word right before the
quote has at most two letters, all of them string markers, and an `f` in it. -/
def marksFormat (before : List Char) : Bool :=
  let word := before.takeWhile isNameChar
  word.length ≤ 2 && word.all ("fFrRbBuU".toList.contains ·) && word.any ("fF".toList.contains ·)

/-- The lexeme of the next character, or `none` when it is in a comment, and the
mode after it. -/
def Mode.read (mode : Mode) (before : List Char) (c : Char) : Option Lexeme × Mode :=
  match mode with
  | .comment => (none, .comment)
  | .literal quote kind true => (some kind, .literal quote kind false)
  | .literal quote kind false =>
    if c = '\\' then (some kind, .literal quote kind true)
    else if c = quote then (some kind, .code)
    else (some kind, .literal quote kind false)
  | .code =>
    if c = '#' then (none, .comment)
    else if c = '\'' ∨ c = '"' then
      let kind := if marksFormat before then Lexeme.format else Lexeme.text
      (some kind, .literal c kind false)
    else (some .code, .code)

/-- The mode after a stretch of a line. -/
def Mode.after (mode : Mode) (before : List Char) : List Char → Mode
  | [] => mode
  | c :: rest => (mode.read before c).2.after (c :: before) rest

/-- The marked code of a stretch of a line. -/
def cells (mode : Mode) (before : List Char) : List Char → List Cell
  | [] => []
  | c :: rest =>
    match mode.read before c with
    | (some lexeme, mode) => ⟨c, lexeme⟩ :: cells mode (c :: before) rest
    | (none, _) => []

end HintFuzz.Hint

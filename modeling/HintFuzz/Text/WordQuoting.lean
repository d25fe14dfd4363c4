/-!
# Words in messages

How a word is shown in a message so that it can be told from what is around it:
as a shell would take it, or between apostrophes.
-/

namespace HintFuzz.Text

/-- Whether a character is visible or a blank. -/
def isVisible (c : Char) : Bool :=
  32 ≤ c.toNat && c.toNat < 127

/-- Three octal digits of a character of one byte. -/
def octalOf (c : Char) : List Char :=
  [c.toNat / 64 % 8, c.toNat / 8 % 8, c.toNat % 8].map fun digit => Char.ofNat (48 + digit)

/-- A character that is not visible, with a backslash. -/
def escapedCharacter (c : Char) : List Char :=
  '\\' :: match c with
    | '\x07' => ['a']
    | '\x08' => ['b']
    | '\t' => ['t']
    | '\n' => ['n']
    | '\x0b' => ['v']
    | '\x0c' => ['f']
    | '\r' => ['r']
    | c => octalOf c

/-- Whether a character means something to a shell; `first` tells that it starts the
word, and `alone` that nothing else is in it. -/
def isSpecialInWord (first alone : Bool) (c : Char) : Bool :=
  " !\"$&()*;<=>[^\x60|?\\'".toList.contains c || !isVisible c ||
    (first && (c = '#' || c = '~')) || (alone && (c = '\x7b' || c = '\x7d'))

/-- Whether a word has to be quoted so that a shell takes it as it is. -/
def needsQuoting : List Char → Bool
  | [] => true
  | c :: rest => isSpecialInWord true rest.isEmpty c || rest.any (isSpecialInWord false false)

/-- A word between apostrophes.  Apostrophes are written outside of them, and so
are characters that are not visible; `escaping` tells that some of these have just
been written. -/
def apostrophed : (escaping : Bool) → List Char → List Char
  | escaping, [] => if escaping then [] else ['\'']
  | escaping, c :: rest =>
    if c = '\'' then
      (if escaping then [] else ['\'']) ++ '\\' :: '\'' :: '\'' :: apostrophed false rest
    else if isVisible c then (if escaping then ['\'', '\''] else []) ++ c :: apostrophed false rest
    else
      (if escaping then [] else ['\'', '$', '\'']) ++ escapedCharacter c ++
        (match rest with
          | [] => ['\'']
          | d :: _ => if isVisible d ∧ d ≠ '\'' then apostrophed true rest
            else if d = '\'' then '\'' :: '\'' :: apostrophed false rest
            else apostrophed true rest)

/-- Whether a word means the same between quotation marks. -/
def fitsQuotationMarks (characters : List Char) : Bool :=
  characters.all fun c =>
    isVisible c && !"!\"$&()*;<=>[^\x60|?\\".toList.contains c

/-- A word as a shell may be given it. -/
def shellWord (text : String) : String :=
  let characters := text.toList
  if characters.contains '\'' ∧ fitsQuotationMarks characters then "\"" ++ text ++ "\""
  else "'" ++ String.ofList (apostrophed false characters)

/-- A word as a shell may be given it, quoted only if it has to be. -/
def shellWordIfNeeded (text : String) : String :=
  if needsQuoting text.toList then shellWord text else text

/-- A word between apostrophes, with backslashes for what cannot stand there. -/
def quotedWord (text : String) : String :=
  let shown := text.toList.flatMap fun c =>
    if c = '\'' ∨ c = '\\' then ['\\', c]
    else if isVisible c then [c]
    else escapedCharacter c
  "'" ++ String.ofList shown ++ "'"

end HintFuzz.Text

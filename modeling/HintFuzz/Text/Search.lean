/-!
# Finding and replacing a stretch of text

Searching a text for ASCII words without regard to case needs only the
characters whose lower case has an ASCII letter in it: the ASCII capitals, the
kelvin sign, and the dotted capital i, whose lower case is an i and a combining
dot.  The lower case of any other character is no part of an ASCII word.
-/

namespace HintFuzz.Text

/-- Whether `needle` occurs in `hay`. -/
def occursIn (needle : List Char) : List Char → Bool
  | [] => needle.isEmpty
  | c :: rest => needle.isPrefixOf (c :: rest) || occursIn needle rest

/-- `text` with every occurrence of `needle` replaced, from left to right.
Only `fuel` characters of `text` are read. -/
def replaceFrom (needle replacement : List Char) : Nat → List Char → List Char
  | 0, text => text
  | _, [] => []
  | fuel + 1, c :: rest =>
    if needle.isPrefixOf (c :: rest) then
      replacement ++ replaceFrom needle replacement fuel ((c :: rest).drop needle.length)
    else c :: replaceFrom needle replacement fuel rest

/-- `text` with every occurrence of a needle that is not empty replaced. -/
def replaceAll (needle replacement text : String) : String :=
  String.ofList
    (replaceFrom needle.toList replacement.toList text.toList.length text.toList)

/-! ### Lower case, as far as ASCII words can see it -/

/-- The lower case of a character that has an ASCII letter in its lower case;
any other character stays. -/
def lowerAscii (c : Char) : List Char :=
  if c = '\u212a' then ['k']
  else if c = '\u0130' then ['i', '\u0307']
  else [c.toLower]

/-- A text in which the characters above are in lower case. -/
def folded (text : String) : List Char :=
  text.toList.flatMap lowerAscii

end HintFuzz.Text

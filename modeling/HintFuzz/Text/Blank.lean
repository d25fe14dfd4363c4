/-!
# Blank characters

The characters with the Unicode property `White_Space`, and trimming by them.
-/

namespace HintFuzz

/-- The character ranges of the property `White_Space`, both ends included. -/
def blankRanges : List (Nat × Nat) :=
  [(0x9, 0xD), (0x20, 0x20), (0x85, 0x85), (0xA0, 0xA0), (0x1680, 0x1680),
   (0x2000, 0x200A), (0x2028, 0x2029), (0x202F, 0x202F), (0x205F, 0x205F),
   (0x3000, 0x3000)]

/-- Whether a character lies in one of the ranges of a table. -/
def inRanges (table : List (Nat × Nat)) (c : Char) : Bool :=
  table.any fun range => range.1 ≤ c.toNat && c.toNat ≤ range.2

/-- A character of the property `White_Space`. -/
def isBlank (c : Char) : Bool :=
  inRanges blankRanges c

/-- Whether a text holds nothing but blank characters. -/
def Text.isBlank (text : String) : Bool :=
  text.toList.all HintFuzz.isBlank

/-- A text without the blank characters at its two ends. -/
def Text.trim (text : String) : String :=
  let front := text.toList.dropWhile HintFuzz.isBlank
  String.ofList (front.reverse.dropWhile HintFuzz.isBlank).reverse

end HintFuzz

/-!
# Text measured in UTF-8 bytes
-/

namespace HintFuzz.Text

/-- How many bytes a list of characters takes in UTF-8. -/
def width (text : List Char) : Nat :=
  (text.map Char.utf8Size).foldr (· + ·) 0

/-- The longest front of a text that takes at most `room` bytes. -/
def frontWithin (room : Nat) : List Char → List Char
  | [] => []
  | c :: rest => if c.utf8Size ≤ room then c :: frontWithin (room - c.utf8Size) rest else []

/-- The bytes of a text. -/
def bytes (text : String) : List UInt8 :=
  text.toUTF8.toList

/-- The text that a byte list spells, unless the bytes are no UTF-8. -/
def ofBytes? (bytes : List UInt8) : Option String :=
  String.fromUTF8? (ByteArray.mk bytes.toArray)

end HintFuzz.Text

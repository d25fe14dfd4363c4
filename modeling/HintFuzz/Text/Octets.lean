import HintFuzz.Bytes.LittleEndian

/-!
# Texts of bytes

Commands read and write bytes, which need not be the text of anything.  Here each
byte is one character, so that such texts can be worked on like others.  Bytes
that are no text become the last characters there are when a text is made of
them, and these give the bytes back.
-/

namespace HintFuzz

/-- A text of which each character is one byte. -/
abbrev Octets := String

namespace Octets

/-- The characters of bytes. -/
def charactersOf (bytes : ByteArray) : List Char :=
  bytes.data.toList.map fun byte => Char.ofNat byte.toNat

/-- The byte at an index; 0 behind the end. -/
def byteAt (bytes : ByteArray) (index : Nat) : UInt8 :=
  if h : index < bytes.size then bytes[index] else 0

/-- The text of bytes. -/
def ofBytes (bytes : ByteArray) : Octets :=
  String.ofList (charactersOf bytes)

/-- The bytes of characters. -/
def bytesOf (characters : List Char) : ByteArray :=
  ⟨(characters.map fun c => UInt8.ofNat c.toNat).toArray⟩

/-- The bytes of a text of bytes. -/
def toBytes (octets : Octets) : ByteArray :=
  bytesOf octets.toList

/-- Whether a text is the same in characters and in bytes. -/
def isPlain (text : String) : Bool :=
  text.toList.all fun c => c.toNat < 128

/-- The first one of the characters that stand for bytes. -/
def spare : Nat := 0x10FF00

/-- The bytes of a text. -/
def ofText (text : String) : Octets :=
  if isPlain text then text
  else
    String.ofList <| text.toList.flatMap fun c =>
      if spare ≤ c.toNat then [Char.ofNat (c.toNat - spare)]
      else charactersOf (String.singleton c).toUTF8

/-- The text of bytes. -/
def toText (octets : Octets) : String :=
  if isPlain octets then octets
  else
    match String.fromUTF8? (toBytes octets) with
    | some text => text
    | none =>
      String.ofList <| octets.toList.map fun c =>
        if c.toNat < 128 then c else Char.ofNat (spare + c.toNat)

end Octets

end HintFuzz

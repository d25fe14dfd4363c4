import HintFuzz.Bytes.Hex
import HintFuzz.Bytes.Sha256
import HintFuzz.Utility.Options

/-!
# Codes and digests

Bytes as letters, several bits each, and the digests by which files are checked.
-/

namespace HintFuzz.Utility

open Kernel (ask)

/-! ### Bytes as letters -/

/-- A code: its letters, the bits of a letter, and how many letters stand together. -/
structure LetterCode where
  letters : List Char
  bits : Nat
  group : Nat

namespace LetterCode

/-- The code with sixty-four letters. -/
def sixtyFour : LetterCode :=
  ⟨"ABCDEFGHIJKLMNOPQRSTUVWXYZabcdefghijklmnopqrstuvwxyz0123456789+/".toList, 6, 4⟩

/-- The code with thirty-two letters. -/
def thirtyTwo : LetterCode :=
  ⟨"ABCDEFGHIJKLMNOPQRSTUVWXYZ234567".toList, 5, 8⟩

/-- The bytes of a group of letters. -/
def bytes (code : LetterCode) : Nat := code.bits * code.group / 8

/-- The number that bytes write, the first one counting most. -/
def numberOf (bytes : List UInt8) : Nat :=
  bytes.foldl (fun number byte => 256 * number + byte.toNat) 0

/-- The letters of one group of bytes. -/
def encodeGroup (code : LetterCode) (bytes : List UInt8) : List Char :=
  let count := (8 * bytes.length + code.bits - 1) / code.bits
  let number := numberOf (bytes ++ List.replicate (code.bytes - bytes.length) 0)
  (List.range code.group).map fun index =>
    if index < count then
      let value := (number >>> (code.bits * (code.group - 1 - index))) % (1 <<< code.bits)
      (code.letters[value]?).getD '='
    else '='

/-- The letters of bytes. -/
def encode (code : LetterCode) (bytes : List UInt8) : List Char :=
  ((partsOf code.bytes (bytes.length + 1) bytes).map code.encodeGroup).flatten

/-- The value of a letter. -/
def value? (code : LetterCode) (letter : Char) : Option Nat :=
  let index := (code.letters.takeWhile (· ≠ letter)).length
  if index < code.letters.length then some index else none

/-- The bytes of one group of letters, and whether the group is a whole one. -/
def decodeGroup (code : LetterCode) (letters : List Char) : List UInt8 × Bool :=
  let values := letters.map code.value?
  let known := (values.takeWhile Option.isSome).map fun value => value.getD 0
  let padding := letters.drop known.length
  let count := code.bits * known.length / 8
  let number := (known ++ List.replicate (code.group - known.length) 0).foldl
    (fun number value => number <<< code.bits ||| value) 0
  let bytes := (List.range count).map fun index =>
    UInt8.ofNat (number >>> (8 * (code.bytes - 1 - index)))
  let isWhole := letters.length = code.group && padding.all (· = '=') && 0 < count &&
    (8 * count + code.bits - 1) / code.bits = known.length
  (bytes, isWhole)

/-- The bytes of letters, and whether all letters make sense. -/
def decode (code : LetterCode) (letters : List Char) : List UInt8 × Bool :=
  (partsOf code.group (letters.length + 1) letters).foldl (fun (bytes, fine) group =>
    if fine then
      let (more, fine) := code.decodeGroup group
      (bytes ++ more, fine)
    else (bytes, fine)) ([], true)

end LetterCode

/-- The content of the only operand, or of the input. -/
def onlyContent (operands : List Octets) : Act ByteArray := do
  match operands with
  | _ :: extra :: _ => failExtra extra
  | operands =>
    let path := operands.headD "-"
    match ← contentOf path with
    | .ok bytes => return bytes
    | .error fault => fail (faultMessage path fault)

/-- `base64` and `base32`: write bytes as letters, or read them back. -/
def encodeLetters (code : LetterCode) (args : List Octets) : Act Unit := do
  let given ← given
    [.flag 'd' "decode", .flag 'i' "ignore-garbage", .valued 'w' "wrap", .letterFlag 'D'] args
    false
  let width ← match given.value? "wrap" with
    | none => pure 76
    | some text =>
      match text.toNat? with
      | some width => pure width
      | none => fail ("invalid wrap size: " ++ Text.quotedWord text)
  let bytes ← onlyContent given.operands
  if given.has "decode" || given.has "D" then
    let letters := (Octets.charactersOf bytes).filter fun c =>
      c ≠ '\n' && (!given.has "ignore-garbage" || c = '=' || (code.value? c).isSome)
    let (decoded, fine) := code.decode letters
    writeBytes ⟨decoded.toArray⟩
    unless fine do fail "invalid input"
  else
    let letters := code.encode bytes.data.toList
    if width = 0 then print (String.ofList letters)
    else
      for line in partsOf width (letters.length + 1) letters do
        printLine (String.ofList line)

/-! ### Digests -/

/-- `sha256sum`: shows the digests of files. -/
def showDigests (args : List Octets) : Act Unit := do
  let given ← given
    [.flag 'b' "binary", .flag 't' "text", .flag 'z' "zero", .wordFlag "tag"] args false
  for path in pathsOf given.operands do
    match ← contentOf path with
    | .error fault => complain (faultMessage path fault)
    | .ok bytes =>
      let digest := Hex.encode (sha256 bytes.data.toList)
      let mark := if given.has "zero" then "\x00" else "\n"
      if given.has "tag" then print ("SHA256 (" ++ path ++ ") = " ++ digest ++ mark)
      else print (digest ++ (if given.has "binary" then " *" else "  ") ++ path ++ mark)

/-- What a byte makes of a check sum. -/
def checkStep (sum : UInt32) (byte : UInt8) : UInt32 :=
  (List.range 8).foldl (fun sum _ =>
    if sum &&& 0x80000000 ≠ 0 then (sum <<< 1) ^^^ 0x04C11DB7 else sum <<< 1)
    (sum ^^^ (byte.toUInt32 <<< 24))

/-- The check sum of bytes; their number counts too. -/
def checkSum (bytes : List UInt8) : UInt32 :=
  let length := (LittleEndian.ofNat 8 bytes.length).reverse.dropWhile (· = 0)
  (length.reverse.foldl checkStep (bytes.foldl checkStep 0)) ^^^ 0xFFFFFFFF

/-- `cksum`: shows check sums and sizes of files. -/
def showSums (args : List Octets) : Act Unit := do
  let given ← given [] args false
  for path in pathsOf given.operands do
    match ← contentOf path with
    | .error fault => complain (faultMessage path fault)
    | .ok bytes =>
      let name := if given.operands.isEmpty then "" else " " ++ path
      printLine (toString (checkSum bytes.data.toList) ++ " " ++ toString bytes.size ++ name)

end HintFuzz.Utility

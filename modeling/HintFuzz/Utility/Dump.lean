import HintFuzz.Utility.Options

/-!
# Dumps

`od` shows bytes one by one or several together, as numbers or as characters.
-/

namespace HintFuzz.Utility

open Kernel (ask)

/-- What the fields of a dump show. -/
inductive DumpKind
  | names
  | characters
  | signed
  | unsigned
  | octal
  | hexadecimal
deriving DecidableEq

/-- The fields of a line of a dump. -/
structure DumpFields where
  kind : DumpKind
  /-- The bytes of a field. -/
  size : Nat
  /-- The characters of the line are shown behind it. -/
  trailer : Bool

namespace DumpFields

/-- The columns of a field. -/
def width (fields : DumpFields) : Nat :=
  match fields.kind, fields.size with
  | .names, _ | .characters, _ => 3
  | .octal, 1 => 3
  | .octal, 2 => 6
  | .octal, 4 => 11
  | .octal, _ => 22
  | .hexadecimal, size => 2 * size
  | .unsigned, 1 => 3
  | .unsigned, 2 => 5
  | .unsigned, 4 => 10
  | .unsigned, _ => 20
  | .signed, 1 => 4
  | .signed, 2 => 6
  | .signed, 4 => 11
  | .signed, _ => 20

end DumpFields

/-- The names of the bytes that cannot be seen. -/
def byteNames : List String :=
  ["nul", "soh", "stx", "etx", "eot", "enq", "ack", "bel", "bs", "ht", "nl", "vt", "ff", "cr",
   "so", "si", "dle", "dc1", "dc2", "dc3", "dc4", "nak", "syn", "etb", "can", "em", "sub",
   "esc", "fs", "gs", "rs", "us", "sp"]

/-- A byte as a character. -/
def shownByte (byte : Nat) : String :=
  match byte with
  | 0 => "\\0"
  | 7 => "\\a"
  | 8 => "\\b"
  | 9 => "\\t"
  | 10 => "\\n"
  | 11 => "\\v"
  | 12 => "\\f"
  | 13 => "\\r"
  | _ =>
    if 32 ≤ byte ∧ byte < 127 then String.singleton (Char.ofNat byte)
    else String.ofList (Text.octalOf (Char.ofNat byte))

/-- A number in a base with so many digits. -/
def digitsOf (base width number : Nat) : String :=
  let digits := Nat.toDigits base number
  String.ofList (List.replicate (width - digits.length) '0' ++ digits)

/-- The text of a field. -/
def DumpFields.shown (fields : DumpFields) (bytes : List UInt8) : String :=
  let number := LittleEndian.toNat bytes
  match fields.kind with
  | .names =>
    let byte := number % 128
    if byte = 127 then "del"
    else (byteNames[byte]?).getD (String.singleton (Char.ofNat byte))
  | .characters => shownByte number
  | .signed =>
    let half := 1 <<< (8 * fields.size - 1)
    if half ≤ number then "-" ++ toString (2 * half - number) else toString number
  | .unsigned => toString number
  | .octal => digitsOf 8 fields.width number
  | .hexadecimal => digitsOf 16 fields.width number

/-- How a dump is shown. -/
structure DumpManner where
  fields : List DumpFields
  /-- The base of the addresses, if they are shown. -/
  radix : Option Nat
  /-- The bytes of a line. -/
  length : Nat
  /-- Lines are shown even if they are the same as those in front. -/
  verbose : Bool

namespace DumpManner

/-- An address. -/
def address (manner : DumpManner) (place : Nat) : String :=
  match manner.radix with
  | some radix => digitsOf radix (if radix = 16 then 6 else 7) place
  | none => ""

/-- The columns of the widest fields of a line, with blanks between them. -/
def columns (manner : DumpManner) : Nat :=
  manner.fields.foldl (fun most fields =>
    let columns := manner.length / fields.size * (fields.width + 1)
    if most ≤ columns then columns else most) 0

/-- One line of fields, behind what is in front of it. -/
def line (manner : DumpManner) (fields : DumpFields) (bytes : List UInt8) : String :=
  let count := manner.length / fields.size
  let pad := manner.columns - count * fields.width
  let parts := partsOf fields.size (bytes.length + 1) bytes
  let texts := parts.zipIdx.map fun (part, index) =>
    let part := part ++ List.replicate (fields.size - part.length) 0
    let left := count - index
    let columns := pad * left / count - pad * (left - 1) / count + fields.width
    let text := fields.shown part
    String.ofList (List.replicate (columns - text.length) ' ') ++ text
  let characters := bytes.map fun byte =>
    if 32 ≤ byte ∧ byte < 127 then Char.ofNat byte.toNat else '.'
  let trailer :=
    if fields.trailer then
      let blanks := (count - parts.length) * (fields.width + pad / count)
      String.ofList (List.replicate blanks ' ') ++ "  >" ++ String.ofList characters ++ "<"
    else ""
  String.join texts ++ trailer ++ "\n"

/-- The lines of bytes from a place on.  `before` are the bytes of the line in front,
and `starred` tells that lines like it were left out. -/
def lines (manner : DumpManner) : (place : Nat) → (before : Option (List UInt8)) →
    (starred : Bool) → List (List UInt8) → List String
  | _, _, _, [] => []
  | place, before, starred, bytes :: rest =>
    let next := place + bytes.length
    if !manner.verbose ∧ before = some bytes ∧ bytes.length = manner.length then
      (if starred then [] else ["*\n"]) ++ manner.lines next before true rest
    else
      let lead := manner.address place
      let blank := String.ofList (List.replicate lead.length ' ')
      let shown := manner.fields.zipIdx.map fun (fields, index) =>
        (if index = 0 then lead else blank) ++ manner.line fields bytes
      shown ++ manner.lines next (some bytes) false rest

end DumpManner

/-- The fields that a text asks for, or a letter that asks for none. -/
def dumpFieldsOf (text : List Char) : (fuel : Nat) → Except Char (List DumpFields)
  | 0 => .ok []
  | fuel + 1 =>
    match text with
    | [] => .ok []
    | letter :: rest =>
      let kind? : Option DumpKind := match letter with
        | 'a' => some .names
        | 'c' => some .characters
        | 'd' => some .signed
        | 'u' => some .unsigned
        | 'o' => some .octal
        | 'x' => some .hexadecimal
        | _ => none
      match kind? with
      | none => .error letter
      | some kind =>
        let (size, rest) : Nat × List Char :=
          if kind = .names ∨ kind = .characters then (1, rest)
          else
            match rest with
            | '1' :: rest | 'C' :: rest => (1, rest)
            | '2' :: rest | 'S' :: rest => (2, rest)
            | '4' :: rest | 'I' :: rest => (4, rest)
            | '8' :: rest | 'L' :: rest => (8, rest)
            | rest => (4, rest)
        let (trailer, rest) := match rest with
          | 'z' :: rest => (true, rest)
          | rest => (false, rest)
        match dumpFieldsOf rest fuel with
        | .ok others => .ok (⟨kind, size, trailer⟩ :: others)
        | .error letter => .error letter

/-- The fields that the letters of older options ask for. -/
def letterFields : List (String × DumpFields) :=
  [("a", ⟨.names, 1, false⟩), ("b", ⟨.octal, 1, false⟩), ("c", ⟨.characters, 1, false⟩),
   ("d", ⟨.unsigned, 2, false⟩), ("i", ⟨.signed, 4, false⟩), ("l", ⟨.signed, 8, false⟩),
   ("o", ⟨.octal, 2, false⟩), ("s", ⟨.signed, 2, false⟩), ("x", ⟨.hexadecimal, 2, false⟩),
   ("h", ⟨.hexadecimal, 2, false⟩)]

/-- A size that an option gives, or some other one. -/
def sizeOption (given : Given) (key : String) (other : Nat) : Act Nat := do
  match given.value? key with
  | none => return other
  | some "" => return other
  | some text =>
    match sizeOf? text with
    | some size => return size
    | none => fail ("invalid -" ++ String.ofList (key.toList.take 1) ++ " argument " ++
        Text.quotedWord text)

/-- `od`: shows bytes. -/
def dump (args : List Octets) : Act Unit := do
  let letters := letterFields.map fun entry => OptionSpec.letterFlag (entry.1.toList.headD 'a')
  let given ← given
    ([.valued 'A' "address-radix", .valued 't' "format", .valued 'N' "Number",
      .valued 'j' "jump", .flag 'v' "output-duplicates", ⟨some 'w', "width", .may⟩] ++ letters)
    args false
  let fields ← given.options.flatMapM fun (key, value) => do
    if key = "format" then
      match dumpFieldsOf value.toList (value.length + 1) with
      | .ok fields => return fields
      | .error letter =>
        fail ("invalid character " ++ Text.quotedWord (String.singleton letter) ++
          " in type string " ++ Text.quotedWord value)
    else return ((letterFields.find? fun entry => entry.1 = key).map Prod.snd).toList
  let fields := if fields.isEmpty then [⟨.octal, 2, false⟩] else fields
  let radix ← match given.value? "address-radix" with
    | none | some "o" => pure (some 8)
    | some "d" => pure (some 10)
    | some "x" => pure (some 16)
    | some "n" => pure none
    | some other =>
      fail ("invalid output address radix " ++ Text.quotedWord other ++
        "; it must be one character from [doxn]")
  let width ← sizeOption given "width" (if (given.value? "width") = some "" then 32 else 16)
  let jump ← sizeOption given "jump" 0
  let parts ← (pathsOf given.operands).mapM fun path => do
    match ← contentOf path with
    | .ok bytes => return some bytes
    | .error fault =>
      complain (faultMessage path fault)
      return none
  if parts.all Option.isNone then throw 1
  let bytes := parts.foldl (fun all part => all ++ part.getD .empty) .empty
  let count ← sizeOption given "Number" bytes.size
  let chosen := (bytes.extract jump (jump + count)).data.toList
  let manner : DumpManner := {
    fields, radix
    length := if width = 0 then 16 else width
    verbose := given.has "output-duplicates" }
  let lines := manner.lines jump none false
    (partsOf manner.length (chosen.length + 1) chosen)
  lines.forM print
  if radix.isSome then printLine (manner.address (jump + chosen.length))

end HintFuzz.Utility

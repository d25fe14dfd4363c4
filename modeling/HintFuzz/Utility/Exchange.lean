import HintFuzz.Text.CharacterClass
import HintFuzz.Utility.Options

/-!
# Exchanging characters

`tr` replaces, deletes or squeezes the characters of its input.  What it works on
are sets of characters in an order: ranges, classes, and characters that are
repeated.
-/

namespace HintFuzz.Utility

open Text (CharacterClass)

/-- A part of a set. -/
inductive SetPart
  | characters (characters : List Char)
  | named (kind : CharacterClass)
  /-- A character so many times, or as often as there is room for. -/
  | repeated (c : Char) (count : Option Nat)

namespace SetPart

/-- All characters that there are. -/
def allCharacters : List Char :=
  (List.range 256).map Char.ofNat

/-- The characters of a part, of which a repeated one fills so much room. -/
def expand (room : Nat) : SetPart → List Char
  | .characters cs => cs
  | .named kind => allCharacters.filter kind.holds
  | .repeated c (some count) => List.replicate count c
  | .repeated c none => List.replicate room c

/-- Whether a part fills all room. -/
def isFiller : SetPart → Bool
  | .repeated _ none => true
  | _ => false

end SetPart

/-- A character of a set, and whether it was written with a backslash. -/
abbrev SetCharacter := Char × Bool

/-- The characters of a set without backslashes. -/
def setCharacters : (fuel : Nat) → List Char → List SetCharacter
  | 0, _ => []
  | _, [] => []
  | fuel + 1, '\\' :: c :: rest =>
    let isOctal (c : Char) : Bool := '0' ≤ c && c ≤ '7'
    if isOctal c then
      let valueOf (digits : List Char) : Nat :=
        digits.foldl (fun value c => value * 8 + (c.toNat - 48)) 0
      let digits := ((c :: rest).takeWhile isOctal).take 3
      let digits := if 255 < valueOf digits then digits.take 2 else digits
      (Char.ofNat (valueOf digits), true) :: setCharacters fuel ((c :: rest).drop digits.length)
    else
      let meant := match c with
        | 'a' => '\x07'
        | 'b' => '\x08'
        | 'f' => '\x0c'
        | 'n' => '\n'
        | 'r' => '\r'
        | 't' => '\t'
        | 'v' => '\x0b'
        | c => c
      (meant, true) :: setCharacters fuel rest
  | fuel + 1, c :: rest => (c, false) :: setCharacters fuel rest

/-- A character as a message shows it. -/
def shownSetCharacter (c : Char) : Octets :=
  if 32 ≤ c.toNat ∧ c.toNat < 127 then String.singleton c
  else String.ofList ('\\' :: Text.octalOf c)

/-- The text in front of a mark and a closing bracket, and what stands behind. -/
def inBrackets? (mark : Char) : List SetCharacter → Option (List SetCharacter × List SetCharacter)
  | [] => none
  | (c, false) :: (']', false) :: rest =>
    if c = mark then some ([], rest)
    else
      (inBrackets? mark ((']', false) :: rest)).map fun (front, rest) => ((c, false) :: front, rest)
  | c :: rest => (inBrackets? mark rest).map fun (front, rest) => (c :: front, rest)

/-- The number of a repeated character: octal if it starts with a zero. -/
def repeatCount? (digits : List Char) : Option (Option Nat) :=
  if digits.isEmpty then some none
  else if digits.all Char.isDigit then
    let base := if digits.head? = some '0' then 8 else 10
    let value := digits.foldl (fun value c => value * base + (c.toNat - 48)) 0
    if base = 8 ∧ digits.any fun c => '7' < c then none
    else some (if value = 0 then none else some value)
  else none

/-- A character, or the range that starts with it, and what stands behind. -/
def readRange (c : SetCharacter) : List SetCharacter → Act (SetPart × List SetCharacter)
  | ('-', false) :: d :: rest =>
    if d.1 < c.1 then
      fail ("range-endpoints of '" ++ shownSetCharacter c.1 ++ "-" ++ shownSetCharacter d.1 ++
        "' are in reverse collating sequence order")
    else
      let range := (List.range (d.1.toNat - c.1.toNat + 1)).map fun offset =>
        Char.ofNat (c.1.toNat + offset)
      return (.characters range, rest)
  | rest => return (.characters [c.1], rest)

/-- The first part of a set, and what stands behind. -/
def readPart (first : SetCharacter) (behind : List SetCharacter) :
    Act (SetPart × List SetCharacter) := do
  let textOf (name : List SetCharacter) : Octets := String.ofList (name.map Prod.fst)
  match first, behind with
  | ('[', false), (':', false) :: rest =>
    match inBrackets? ':' rest with
    | none => readRange first behind
    | some (name, rest) =>
      match CharacterClass.ofName? (textOf name) with
      | some kind => return (.named kind, rest)
      | none =>
        if name.isEmpty then fail "missing character class name '[::]'"
        else fail ("invalid character class " ++ Text.quotedWord (textOf name))
  | ('[', false), ('=', false) :: rest =>
    match inBrackets? '=' rest with
    | none => readRange first behind
    | some ([(c, _)], rest) => return (.characters [c], rest)
    | some ([], _) => fail "missing equivalence class character '[==]'"
    | some (name, _) =>
      fail (textOf name ++ ": equivalence class operand must be a single character")
  | ('[', false), c :: ('*', false) :: rest =>
    let digits := rest.takeWhile fun (c, _) => c ≠ ']'
    match rest.drop digits.length, repeatCount? (digits.map Prod.fst) with
    | _ :: rest, some count => return (.repeated c.1 count, rest)
    | _ :: _, none =>
      fail ("invalid repeat count " ++ Text.quotedWord (textOf digits) ++ " in [c*n] construct")
    | [], _ => readRange first behind
  | _, _ => readRange first behind

/-- Reads the parts of a set. -/
def readSet : (fuel : Nat) → List SetCharacter → Act (List SetPart)
  | 0, _ => return []
  | _, [] => return []
  | fuel + 1, first :: behind => do
    let (part, rest) ← readPart first behind
    return part :: (← readSet fuel rest)

/-- The parts that a text stands for. -/
def setOf (text : Octets) : Act (List SetPart) :=
  readSet (text.length + 1) (setCharacters (text.length + 1) text.toList)

/-! ### What is done -/

/-- How characters are replaced, which are left out, and of which several in a row
become one. -/
structure Exchange where
  replaced : Array UInt8
  deleted : Array Bool
  squeezed : Array Bool

namespace Exchange

/-- A set of bytes as an array. -/
def setArray (set : List Char) : Array Bool :=
  set.foldl (fun array c => array.set! c.toNat true) (Array.replicate 256 false)

/-- Nothing changes. -/
def none : Exchange where
  replaced := ((List.range 256).map UInt8.ofNat).toArray
  deleted := Array.replicate 256 false
  squeezed := Array.replicate 256 false

/-- The characters of one set are replaced by those of another one. -/
def replace (before after : List Char) (exchange : Exchange) : Exchange :=
  { exchange with
    replaced := (before.zip after).foldl
      (fun array (c, d) => array.set! c.toNat (UInt8.ofNat d.toNat)) exchange.replaced }

/-- Does its work on one byte behind others, the last one of them first.  `last`
is the byte that was written last. -/
def apply (exchange : Exchange) :
    Option UInt8 × ByteArray → UInt8 → Option UInt8 × ByteArray
  | (last, output), byte =>
    if exchange.deleted.getD byte.toNat false then (last, output)
    else
      let byte := exchange.replaced.getD byte.toNat byte
      if exchange.squeezed.getD byte.toNat false && last = some byte then (last, output)
      else (some byte, output.push byte)

end Exchange

/-- Exchanges all that is read. -/
def exchangeInput (exchange : Exchange) : (fuel : Nat) → (last : Option UInt8) → Act Unit
  | 0, _ => pure ()
  | fuel + 1, last => do
    match ← readSome 0 with
    | .error fault => fail ("read error: " ++ fault.words)
    | .ok bytes =>
      unless bytes.isEmpty do
        let (last, output) := bytes.data.foldl exchange.apply (last, .empty)
        unless output.isEmpty do
          print (Octets.ofBytes output)
        if (← get).broken.isNone then exchangeInput exchange fuel last

/-- The classes of cases in a set, each with how many characters are in front. -/
def caseClasses (room : Nat) : (before : Nat) → List SetPart → List (Nat × CharacterClass)
  | _, [] => []
  | before, part :: rest =>
    let others := caseClasses room (before + (part.expand room).length) rest
    match part with
    | .named .upper => (before, .upper) :: others
    | .named .lower => (before, .lower) :: others
    | _ => others

/-- The sets of an exchange, of which the second one is as long as the first
one. -/
def pairedSets (complement truncates : Bool) (first second : List SetPart) :
    Act (List Char × List Char) := do
  let plain := first.flatMap (SetPart.expand 0)
  let before :=
    if complement then SetPart.allCharacters.filter fun c => !plain.contains c else plain
  let fillers := second.countP SetPart.isFiller
  if 1 < fillers then fail "only one [c*] repeat construct may appear in string2"
  let length := (second.flatMap (SetPart.expand 0)).length
  let room := before.length - length
  let isForeign : SetPart → Bool
    | .named kind => kind ≠ .upper && kind ≠ .lower
    | _ => false
  if second.any isForeign then
    fail ("when translating, the only character classes that may appear in\n" ++
      "string2 are 'upper' and 'lower'")
  let firstCases := caseClasses 0 0 first
  let isMatched (entry : Nat × CharacterClass) : Bool :=
    firstCases.any fun other => other.1 = entry.1
  if !(caseClasses room 0 second).all isMatched then
    fail "misaligned [:upper:] and/or [:lower:] construct"
  let after := second.flatMap (SetPart.expand room)
  if truncates then return (before.take after.length, after)
  else
    match after.getLast? with
    | none =>
      if before.isEmpty then return (before, after)
      else fail "when not truncating set1, string2 must be non-empty"
    | some last =>
      let isClass : Bool := match second.getLast? with
        | some (.named _) => true
        | _ => false
      if isClass && after.length < before.length then
        fail ("when translating with string1 longer than string2,\n" ++
          "the latter string must not end with a character class")
      else return (before, after ++ List.replicate (before.length - after.length) last)

/-- `tr`: replaces, deletes or squeezes characters. -/
def exchange (args : List Octets) : Act Unit := do
  let given ← given
    [.flag 'c' "complement", .letterFlag 'C', .flag 'd' "delete", .flag 's' "squeeze-repeats",
     .flag 't' "truncate-set1"] args true
  let complement := given.has "complement" || given.has "C"
  let deletes := given.has "delete"
  let squeezes := given.has "squeeze-repeats"
  let needsTwo := deletes = squeezes
  let failWith (message hint : Octets) : Act Unit := do
    warn message
    unless hint = "" do
      printError (hint ++ "\n")
    printError (← helpLine)
    throw 1
  match given.operands with
  | [] => failUsage "missing operand"
  | [only] =>
    if needsTwo then
      failWith ("missing operand after " ++ Text.quotedWord only)
        (if deletes then "Two strings must be given when both deleting and squeezing repeats."
          else "Two strings must be given when translating.")
  | [_, second] =>
    if deletes ∧ !squeezes then
      failWith ("extra operand " ++ Text.quotedWord second)
        "Only one string may be given when deleting without squeezing repeats."
  | _ :: _ :: extra :: _ => failUsage ("extra operand " ++ Text.quotedWord extra)
  let first ← setOf (given.operands.headD "")
  let second ← given.operands[1]?.mapM setOf
  if first.any SetPart.isFiller then
    fail "the [c*] repeat construct may not appear in string1"
  let plain := first.flatMap (SetPart.expand 0)
  let set :=
    if complement then SetPart.allCharacters.filter fun c => !plain.contains c else plain
  let start := Exchange.none
  let exchange : Exchange ← match second with
    | none =>
      pure (if deletes then { start with deleted := Exchange.setArray set }
        else { start with squeezed := Exchange.setArray set })
    | some second =>
      if deletes then
        pure { start with
          deleted := Exchange.setArray set
          squeezed := Exchange.setArray (second.flatMap (SetPart.expand 0)) }
      else
        let (before, after) ← pairedSets complement (given.has "truncate-set1") first second
        let replaced := start.replace before after
        pure (if squeezes then { replaced with squeezed := Exchange.setArray after }
          else replaced)
  exchangeInput exchange Kernel.ages none

end HintFuzz.Utility

import HintFuzz.Format.Number
import HintFuzz.Utility.Options

/-!
# Lines in order

Utilities that sort lines, and that compare lines that are sorted: `sort`, `uniq`
and `comm`.  Texts are compared byte by byte.
-/

namespace HintFuzz.Utility

open Kernel (ask)

/-! ### Numbers in texts -/

/-- A decimal number: its sign and its digits, without zeros in front of the point
and without zeros at the end behind it. -/
structure DecimalText where
  negative : Bool
  whole : List Char
  fraction : List Char
deriving DecidableEq

namespace DecimalText

/-- The number at the front of a text behind blanks, and the rest. -/
def read (text : List Char) : DecimalText × List Char :=
  let text := text.dropWhile fun c => c = ' ' || c = '\t'
  let (negative, text) := match text with
    | '-' :: rest => (true, rest)
    | text => (false, text)
  let whole := text.takeWhile Char.isDigit
  let rest := text.drop whole.length
  let (fraction, rest) := match rest with
    | '.' :: behind =>
      let fraction := behind.takeWhile Char.isDigit
      (fraction, behind.drop fraction.length)
    | rest => ([], rest)
  (⟨negative, whole.dropWhile (· = '0'), (fraction.reverse.dropWhile (· = '0')).reverse⟩, rest)

/-- Whether a number is zero. -/
def isZero (number : DecimalText) : Bool :=
  number.whole.isEmpty && number.fraction.isEmpty

/-- The order of the magnitudes of two numbers. -/
def compareMagnitudes (a b : DecimalText) : Ordering :=
  (compare a.whole.length b.whole.length).then
    ((compareOfLessAndEq a.whole b.whole).then (compareOfLessAndEq a.fraction b.fraction))

/-- The order of two numbers. -/
def order (a b : DecimalText) : Ordering :=
  let below (number : DecimalText) : Bool := number.negative && !number.isZero
  match below a, below b with
  | true, true => compareMagnitudes b a
  | true, false => .lt
  | false, true => .gt
  | false, false => compareMagnitudes a b

end DecimalText

/-- The rank of the unit behind a number. -/
def unitRank (rest : List Char) : Nat :=
  match rest.head? with
  | none => 0
  | some c =>
    let units : List Char := ['K', 'M', 'G', 'T', 'P', 'E', 'Z', 'Y', 'R', 'Q']
    let c := if c = 'k' then 'K' else c
    let place := (units.takeWhile (· ≠ c)).length
    if place < units.length then place + 1 else 0

/-- The order of two numbers with units. -/
def compareSizes (a b : List Char) : Ordering :=
  let (first, restA) := DecimalText.read a
  let (second, restB) := DecimalText.read b
  let rank (number : DecimalText) (rest : List Char) : Int :=
    if number.isZero then 0
    else
      let rank : Int := unitRank rest
      if number.negative then -rank else rank
  let sign (number : DecimalText) : Int :=
    if number.isZero then 0 else if number.negative then -1 else 1
  (compare (sign first) (sign second)).then
    ((compare (rank first restA) (rank second restB)).then (first.order second))

/-- The rank of the name of a month; zero for anything else. -/
def monthRank (text : List Char) : Nat :=
  let months : List String := ["JAN", "FEB", "MAR", "APR", "MAY", "JUN", "JUL", "AUG", "SEP",
    "OCT", "NOV", "DEC"]
  let name := String.ofList
    (((text.dropWhile fun c => c = ' ' || c = '\t').take 3).map Char.toUpper)
  let place := (months.takeWhile (· ≠ name)).length
  if place < months.length then place + 1 else 0

/-- The rank of a character in the text of a version. -/
def versionRank (c : Char) : Nat :=
  if c = '~' then 0 else if c.isAlpha then c.toNat + 2 else c.toNat + 258

/-- The order of two texts in which numbers count as numbers. -/
def compareVersions : (fuel : Nat) → List Char → List Char → Ordering
  | 0, _, _ => .eq
  | _, [], [] => .eq
  | fuel + 1, a, b =>
    let isText (c : Char) : Bool := !c.isDigit
    let textA := (a.takeWhile isText).map versionRank
    let textB := (b.takeWhile isText).map versionRank
    -- The end of a text is before all but a tilde.
    let byText := compareOfLessAndEq (textA ++ [1]) (textB ++ [1])
    let restA := a.dropWhile isText
    let restB := b.dropWhile isText
    let number (rest : List Char) : Nat :=
      (rest.takeWhile Char.isDigit).foldl (fun value c => value * 10 + (c.toNat - 48)) 0
    byText.then ((compare (number restA) (number restB)).then
      (compareVersions fuel (restA.dropWhile Char.isDigit) (restB.dropWhile Char.isDigit)))

/-- The order of two floating point numbers; what is no number comes first. -/
def compareFloats (a b : List Char) : Ordering :=
  match Format.floatFront? a, Format.floatFront? b with
  | none, none => .eq
  | none, some _ => .lt
  | some _, none => .gt
  | some (x, _), some (y, _) =>
    if x.isNaN ∨ y.isNaN then compare (!x.isNaN).toNat (!y.isNaN).toNat
    else if x < y then .lt
    else if y < x then .gt
    else .eq

/-! ### Keys -/

/-- How texts are compared. -/
inductive KeyKind
  | text
  | number
  | general
  | size
  | month
  | version
deriving DecidableEq

/-- What is compared of lines, and how. -/
structure SortManner where
  kind : KeyKind
  reverse : Bool
  foldCase : Bool
  /-- Only letters, digits and blanks count. -/
  dictionary : Bool
  /-- Only visible characters count. -/
  printing : Bool
  /-- Blanks in front do not count, at the start and at the end of a key. -/
  startBlanks : Bool
  endBlanks : Bool
deriving DecidableEq

namespace SortManner

/-- Texts as they are. -/
def plain : SortManner := ⟨.text, false, false, false, false, false, false⟩

/-- A manner with one letter more. -/
def with? (manner : SortManner) (start finish : Bool) (letter : Char) : Option SortManner :=
  match letter with
  | 'b' => some { manner with
      startBlanks := manner.startBlanks || start, endBlanks := manner.endBlanks || finish }
  | 'd' => some { manner with dictionary := true }
  | 'f' => some { manner with foldCase := true }
  | 'g' => some { manner with kind := .general }
  | 'h' => some { manner with kind := .size }
  | 'i' => some { manner with printing := true }
  | 'M' => some { manner with kind := .month }
  | 'n' => some { manner with kind := .number }
  | 'r' => some { manner with reverse := true }
  | 'V' => some { manner with kind := .version }
  | 'R' => some manner
  | _ => none

/-- Whether nothing is said but the direction. -/
def isPlain (manner : SortManner) : Bool :=
  { manner with reverse := false } = plain

/-- The characters that count. -/
def counted (manner : SortManner) (text : List Char) : List Char :=
  let text :=
    if manner.dictionary then
      text.filter fun c => c.isAlphanum || c = ' ' || c = '\t'
    else if manner.printing then text.filter fun c => 32 ≤ c.toNat && c.toNat < 127
    else text
  if manner.foldCase then text.map Char.toUpper else text

/-- The order of two keys, not yet turned around. -/
def order (manner : SortManner) (a b : List Char) : Ordering :=
  match manner.kind with
  | .text => compareOfLessAndEq (manner.counted a) (manner.counted b)
  | .number => (DecimalText.read a).1.order (DecimalText.read b).1
  | .general => compareFloats a b
  | .size => compareSizes a b
  | .month => compare (monthRank a) (monthRank b)
  | .version => compareVersions (a.length + b.length + 1) a b

end SortManner

/-- A key: where it starts and ends in a line. -/
structure SortKey where
  /-- How many fields and then how many characters are skipped. -/
  startField : Nat
  startCharacter : Nat
  /-- The field that the key ends in, and how many characters of it belong to the
  key; all of them if it is zero.  None if the key ends with the line. -/
  finish : Option (Nat × Nat)
  manner : SortManner

namespace SortKey

/-- Whether a character separates fields if nothing else does. -/
def isBlank (c : Char) : Bool :=
  c = ' ' || c = '\t' || c = '\n'

/-- How far one field reaches, with the blanks in front of it. -/
def fieldLength (text : List Char) : Nat :=
  let blanks := (text.takeWhile isBlank).length
  blanks + ((text.drop blanks).takeWhile fun c => !isBlank c).length

/-- How many characters so many fields take; with `closing`, the mark behind the last
one counts too. -/
def fieldsLength (mark : Option Char) (closing : Bool) : (count : Nat) → List Char → Nat
  | 0, _ => 0
  | count + 1, text =>
    match mark with
    | none =>
      let length := fieldLength text
      length + fieldsLength mark closing count (text.drop length)
    | some mark =>
      let length := (text.takeWhile (· ≠ mark)).length
      let length :=
        if length < text.length ∧ (closing ∨ count ≠ 0) then length + 1 else length
      length + fieldsLength (some mark) closing count (text.drop length)

/-- The key of a line. -/
def ofLine (key : SortKey) (mark : Option Char) (line : List Char) : List Char :=
  let blanksFrom (index : Nat) : Nat := ((line.drop index).takeWhile isBlank).length
  let start := fieldsLength mark true key.startField line
  let start := if key.manner.startBlanks then start + blanksFrom start else start
  let start := start + key.startCharacter
  match key.finish with
  | none => line.drop start
  | some (field, 0) =>
    let finish := fieldsLength mark false (field + 1) line
    (line.take finish).drop start
  | some (field, count) =>
    let finish := fieldsLength mark true field line
    let finish := if key.manner.endBlanks then finish + blanksFrom finish else finish
    (line.take (finish + count)).drop start

/-- A number in the description of a key, and the rest. -/
def readNumber (text : List Char) (message : String) (whole : Octets) :
    Act (Nat × List Char) := do
  let digits := text.takeWhile Char.isDigit
  match (String.ofList digits).toNat? with
  | some number => return (number, text.drop digits.length)
  | none =>
    fail (message ++ ": invalid count at start of " ++ Text.quotedWord whole)

/-- The letters of a manner at the front of a text, and the rest. -/
def readLetters (start finish : Bool) : SortManner → List Char → SortManner × List Char
  | manner, c :: rest =>
    match manner.with? start finish c with
    | some manner => readLetters start finish manner rest
    | none => (manner, c :: rest)
  | manner, [] => (manner, [])

/-- Reads the description of a key. -/
def read (text : Octets) : Act SortKey := do
  let bad (message : String) : Act SortKey :=
    fail (message ++ ": invalid field specification " ++ Text.quotedWord text)
  let (field, rest) ← readNumber text.toList "invalid number at field start" text
  if field = 0 then bad "field number is zero"
  else
    let (character, rest) ← match rest with
      | '.' :: rest =>
        readNumber rest "invalid number after '.'" (String.ofList rest)
      | rest => pure (1, rest)
    if character = 0 then bad "character offset is zero"
    else
      let (manner, rest) := readLetters true false SortManner.plain rest
      match rest with
      | [] => return ⟨field - 1, character - 1, none, manner⟩
      | ',' :: rest =>
        let (last, rest) ← readNumber rest "invalid number after ','" (String.ofList rest)
        if last = 0 then bad "field number is zero"
        else
          let (count, rest) ← match rest with
            | '.' :: rest => readNumber rest "invalid number after '.'" (String.ofList rest)
            | rest => pure (0, rest)
          let (manner, rest) := readLetters false true manner rest
          if rest.isEmpty then return ⟨field - 1, character - 1, some (last - 1, count), manner⟩
          else bad "stray character in field spec"
      | _ => bad "stray character in field spec"

end SortKey

/-! ### Sorting -/

/-- How lines are sorted. -/
structure Sorting where
  keys : List SortKey
  mark : Option Char
  manner : SortManner
  unique : Bool
  stable : Bool

namespace Sorting

/-- The order of two lines by their keys. -/
def byKeys (sorting : Sorting) (a b : List Char) : Ordering :=
  sorting.keys.foldl (fun order key =>
    order.then <|
      let order := key.manner.order (key.ofLine sorting.mark a) (key.ofLine sorting.mark b)
      if key.manner.reverse then order.swap else order) .eq

/-- The order of two lines. -/
def order (sorting : Sorting) (a b : List Char) : Ordering :=
  let byKeys := sorting.byKeys a b
  if sorting.unique ∨ sorting.stable then byKeys
  else
    let whole := compareOfLessAndEq a b
    byKeys.then (if sorting.manner.reverse then whole.swap else whole)

/-- Lines of which those with the same keys are one. -/
def withoutRepeats (sorting : Sorting) : List (List Char) → List (List Char)
  | a :: b :: rest =>
    if sorting.byKeys a b = .eq then withoutRepeats sorting (a :: rest)
    else a :: withoutRepeats sorting (b :: rest)
  | lines => lines
termination_by lines => lines.length

/-- The lines in order. -/
def sorted (sorting : Sorting) (lines : List (List Char)) : List (List Char) :=
  let sorted := lines.mergeSort fun a b => sorting.order a b ≠ .gt
  if sorting.unique then sorting.withoutRepeats sorted else sorted

/-- The first line that is not in its place, and its number. -/
def disorder? (sorting : Sorting) : (number : Nat) → List (List Char) → Option (Nat × List Char)
  | number, a :: b :: rest =>
    let order := sorting.order a b
    if order = .gt ∨ (sorting.unique ∧ order = .eq) then some (number, b)
    else disorder? sorting (number + 1) (b :: rest)
  | _, _ => none

end Sorting

/-- The sorting that options ask for. -/
def sortingOf (given : Given) : Act Sorting := do
  let letters := given.options.foldl (fun letters (key, value) =>
    match key with
    | "ignore-leading-blanks" => 'b' :: letters
    | "dictionary-order" => 'd' :: letters
    | "ignore-case" => 'f' :: letters
    | "general-numeric-sort" => 'g' :: letters
    | "human-numeric-sort" => 'h' :: letters
    | "ignore-nonprinting" => 'i' :: letters
    | "month-sort" => 'M' :: letters
    | "numeric-sort" => 'n' :: letters
    | "reverse" => 'r' :: letters
    | "version-sort" => 'V' :: letters
    | "sort" =>
      (match value with
        | "general-numeric" => 'g'
        | "human-numeric" => 'h'
        | "month" => 'M'
        | "numeric" => 'n'
        | "version" => 'V'
        | _ => 'R') :: letters
    | _ => letters) []
  let manner := letters.foldl
    (fun manner letter => (manner.with? true true letter).getD manner) SortManner.plain
  let mark ← match given.value? "field-separator" with
    | none => pure none
    | some text =>
      match text.toList with
      | [] => fail "empty tab"
      | [c] => pure (some c)
      | ['\\', '0'] => pure (some '\x00')
      | _ => fail ("multi-character tab " ++ Text.quotedWord text)
  let keys ← (given.values "key").mapM SortKey.read
  let keys := keys.map fun key => if key.manner = SortManner.plain then { key with manner } else key
  return {
    keys := if keys.isEmpty then [⟨0, 0, none, manner⟩] else keys
    mark
    manner
    unique := given.has "unique"
    stable := given.has "stable" }

/-- The lines of several files. -/
def linesOfFiles (mark : Char) (paths : List Octets) : Act (List (List Char)) := do
  let contents ← paths.mapM fun path => do
    match ← contentOf path with
    | .ok bytes =>
      let (lines, last) := cutLines mark [] (Octets.charactersOf bytes) []
      return lines.map Line.text ++ (if last.isEmpty then [] else [last.reverse])
    | .error .isDirectory => fail ("read failed: " ++ faultMessage path .isDirectory)
    | .error fault => fail ("cannot read: " ++ faultMessage path fault)
  return contents.flatten

/-- The options of `sort`. -/
def sortOptions : List OptionSpec :=
  [.flag 'b' "ignore-leading-blanks", .flag 'd' "dictionary-order", .flag 'f' "ignore-case",
   .flag 'g' "general-numeric-sort", .flag 'h' "human-numeric-sort",
   .flag 'i' "ignore-nonprinting", .flag 'M' "month-sort", .flag 'n' "numeric-sort",
   .flag 'r' "reverse", .flag 'R' "random-sort", .flag 'V' "version-sort", .wordValued "sort",
   ⟨none, "check", .may⟩, .letterFlag 'c', .letterFlag 'C', .valued 'k' "key", .flag 'm' "merge",
   .valued 'o' "output", .flag 's' "stable", .valued 'S' "buffer-size",
   .valued 't' "field-separator", .valued 'T' "temporary-directory", .flag 'u' "unique",
   .flag 'z' "zero-terminated", .wordValued "parallel", .wordFlag "debug"]

/-- `sort`: writes lines in order. -/
def sortLines (args : List Octets) : Act Unit := do
  let given ← given sortOptions args false
  let sorting ← sortingOf given
  let mark := if given.has "zero-terminated" then '\x00' else '\n'
  let paths := pathsOf given.operands
  let quiet := given.has "C" || (given.value? "check").any fun value =>
    value = "quiet" || value = "silent"
  if given.has "c" ∨ given.has "C" ∨ given.has "check" then
    match paths with
    | _ :: extra :: _ =>
      fail ("extra operand " ++ Text.quotedWord extra ++ " not allowed with -" ++
        if quiet then "C" else "c")
    | paths =>
      let lines ← linesOfFiles mark paths
      match sorting.disorder? 2 lines with
      | none => pure ()
      | some (number, line) =>
        unless quiet do
          warn (paths.headD "-" ++ ":" ++ toString number ++ ": disorder: " ++ String.ofList line)
        setStatus 1
  else
    let lines ← linesOfFiles mark paths
    if let some path := given.value? "output" then
      match ← ask (.open (atPath path) .writing newFileMode) with
      | .error fault => fail ("open failed: " ++ faultMessage path fault)
      | .ok descriptor =>
        let _ ← ask (.duplicate descriptor 1)
        let _ ← ask (.close descriptor)
    for line in sorting.sorted lines do
      print (String.ofList (line ++ [mark]))

/-! ### Lines that are repeated -/

/-- What is compared of lines, and which are written. -/
structure RepeatManner where
  skippedFields : Nat
  skippedCharacters : Nat
  checked : Option Nat
  foldCase : Bool
  counts : Bool
  /-- Only lines that are repeated. -/
  repeated : Bool
  /-- All of them. -/
  allRepeated : Bool
  /-- Only lines that are not repeated. -/
  unique : Bool

/-- The part of a line that is compared. -/
def RepeatManner.key (manner : RepeatManner) (line : List Char) : List Char :=
  let isBlank (c : Char) : Bool := c = ' ' || c = '\t'
  let skip (text : List Char) : List Char :=
    (text.dropWhile isBlank).dropWhile fun c => !isBlank c
  let text := (List.range manner.skippedFields).foldl (fun text _ => skip text) line
  let text := text.drop manner.skippedCharacters
  let text := match manner.checked with
    | some count => text.take count
    | none => text
  if manner.foldCase then text.map Char.toUpper else text

/-- Writes lines of which all are the same. -/
def writeRepeats (manner : RepeatManner) (mark : Char) (lines : List (List Char)) :
    Act Unit := do
  let count := lines.length
  if manner.allRepeated then
    if 1 < count then
      for line in lines do
        print (String.ofList (line ++ [mark]))
  else if (manner.repeated ∧ count = 1) ∨ (manner.unique ∧ 1 < count) then pure ()
  else
    let digits := toString count
    let lead :=
      if manner.counts then
        String.ofList (List.replicate (7 - digits.length) ' ') ++ digits ++ " "
      else ""
    print (lead ++ String.ofList (lines.headD [] ++ [mark]))

/-- `uniq`: leaves lines out that are repeated. -/
def dropRepeats (args : List Octets) : Act Unit := do
  let given ← given
    [.flag 'c' "count", .flag 'd' "repeated", .letterFlag 'D', ⟨none, "all-repeated", .may⟩,
     .valued 'f' "skip-fields", .flag 'i' "ignore-case", .valued 's' "skip-chars",
     .flag 'u' "unique", .flag 'z' "zero-terminated", .valued 'w' "check-chars"] args false
  let number (key message : String) : Act (Option Nat) := do
    match given.value? key with
    | none => return none
    | some text =>
      match text.toNat? with
      | some number => return some number
      | none => fail (text ++ ": invalid number of " ++ message)
  let manner : RepeatManner := {
    skippedFields := (← number "skip-fields" "fields to skip").getD 0
    skippedCharacters := (← number "skip-chars" "bytes to skip").getD 0
    checked := ← number "check-chars" "bytes to compare"
    foldCase := given.has "ignore-case"
    counts := given.has "count"
    repeated := given.has "repeated"
    allRepeated := given.has "D" || given.has "all-repeated"
    unique := given.has "unique" }
  let mark := if given.has "zero-terminated" then '\x00' else '\n'
  match given.operands with
  | _ :: _ :: extra :: _ => failExtra extra
  | operands =>
    let path := operands.headD "-"
    let descriptor ← if path = "-" then pure 0 else do
      match ← ask (.open (atPath path) .reading 0) with
      | .ok descriptor => pure descriptor
      | .error fault => fail (faultMessage path fault)
    if let some target := operands[1]? then
      unless target = "-" do
        match ← ask (.open (atPath target) .writing newFileMode) with
        | .error fault => fail (faultMessage target fault)
        | .ok opened =>
          let _ ← ask (.duplicate opened 1)
          let _ ← ask (.close opened)
    let (last, _) ← readLines path descriptor mark (fun (same : List (List Char)) line => do
      match same with
      | [] => return ([line.text], true)
      | latest :: _ =>
        if manner.key latest = manner.key line.text then return (line.text :: same, true)
        else
          writeRepeats manner mark same.reverse
          return ([line.text], (← get).broken.isNone)) Kernel.ages [] []
    unless last.isEmpty do
      writeRepeats manner mark last.reverse

/-! ### Lines of two files -/

/-- Goes through the lines of two files that are in order, and writes each in the
column of where it is. -/
def compareColumns (write : Nat → List Char → Act Unit) :
    (fuel : Nat) → List (List Char) → List (List Char) → Act Unit
  | 0, _, _ => pure ()
  | _, [], [] => pure ()
  | fuel + 1, a :: first, [] => do
    write 0 a
    compareColumns write fuel first []
  | fuel + 1, [], b :: second => do
    write 1 b
    compareColumns write fuel [] second
  | fuel + 1, a :: first, b :: second => do
    match compareOfLessAndEq a b with
    | .lt =>
      write 0 a
      compareColumns write fuel first (b :: second)
    | .gt =>
      write 1 b
      compareColumns write fuel (a :: first) second
    | .eq =>
      write 2 a
      compareColumns write fuel first second

/-- `comm`: writes which lines two files share. -/
def compareFiles (args : List Octets) : Act Unit := do
  let given ← given
    [.letterFlag '1', .letterFlag '2', .letterFlag '3', .flag 'z' "zero-terminated",
     .wordFlag "check-order", .wordFlag "nocheck-order", .wordValued "output-delimiter",
     .wordFlag "total"] args false
  match given.operands with
  | [] => failMissing
  | [only] => failUsage ("missing operand after " ++ Text.quotedWord only)
  | _ :: _ :: extra :: _ => failExtra extra
  | [left, right] =>
    let readFile (path : Octets) : Act (List (List Char)) := do
      match ← contentOf path with
      | .ok bytes =>
        let (lines, last) := cutLines '\n' [] (Octets.charactersOf bytes) []
        return lines.map Line.text ++ (if last.isEmpty then [] else [last.reverse])
      | .error fault => fail (faultMessage path fault)
    let first ← readFile left
    let second ← readFile right
    let link := (given.value? "output-delimiter").getD "\t"
    let isShown (column : Nat) : Bool := !given.has (toString (column + 1))
    let write (column : Nat) (line : List Char) : Act Unit := do
      if isShown column then
        let front := (List.range column).filter isShown
        print (String.join (front.map fun _ => link) ++ String.ofList line ++ "\n")
    compareColumns write (first.length + second.length + 1) first second
    unless given.has "nocheck-order" do
      let plain : Sorting := ⟨[⟨0, 0, none, .plain⟩], none, .plain, false, true⟩
      let wrong := [(1, first), (2, second)].filter fun (_, lines) =>
        (plain.disorder? 2 lines).isSome
      for (number, _) in wrong do
        complain ("file " ++ toString number ++ " is not in sorted order")
      unless wrong.isEmpty do
        complain "input is not in sorted order"

end HintFuzz.Utility

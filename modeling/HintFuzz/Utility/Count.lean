import HintFuzz.Utility.Options

/-!
# Counting

`wc` counts the lines, words and bytes of files.
-/

namespace HintFuzz.Utility

open Kernel (ask)

/-- What is counted of a text. -/
structure Counts where
  lines : Nat
  words : Nat
  bytes : Nat
  /-- The columns of the widest line. -/
  widest : Nat

namespace Counts

/-- Nothing. -/
def zero : Counts := ⟨0, 0, 0, 0⟩

/-- Counts of two texts together. -/
def add (a b : Counts) : Counts :=
  ⟨a.lines + b.lines, a.words + b.words, a.bytes + b.bytes,
    if a.widest ≤ b.widest then b.widest else a.widest⟩

end Counts

/-- Where a count stands: whether it is in a word, and at which column. -/
structure CountPlace where
  counts : Counts
  inWord : Bool
  column : Nat

namespace CountPlace

/-- The place at the start of a text. -/
def start : CountPlace := ⟨.zero, false, 0⟩

/-- The place at another column. -/
def atColumn (place : CountPlace) (column : Nat) : CountPlace :=
  { place with
    column
    counts := { place.counts with
      widest := if place.counts.widest ≤ column then column else place.counts.widest } }

/-- The place behind one more byte.  Only visible characters make words. -/
def after (place : CountPlace) (byte : UInt8) : CountPlace :=
  let place := { place with counts := { place.counts with bytes := place.counts.bytes + 1 } }
  if byte = 10 then
    { place with
      inWord := false
      column := 0
      counts := { place.counts with lines := place.counts.lines + 1 } }
  else if byte = 13 ∨ byte = 12 then { place with inWord := false, column := 0 }
  else if byte = 9 then { place.atColumn (place.column / 8 * 8 + 8) with inWord := false }
  else if byte = 32 then { place.atColumn (place.column + 1) with inWord := false }
  else if byte = 11 then { place with inWord := false }
  else if 32 < byte ∧ byte < 127 then
    let place := place.atColumn (place.column + 1)
    if place.inWord then place
    else
      { place with
        inWord := true
        counts := { place.counts with words := place.counts.words + 1 } }
  else place

end CountPlace

/-- Counts all that is read from a descriptor. -/
def countAll (path : Octets) (descriptor : Nat) : (fuel : Nat) → CountPlace → Act Counts
  | 0, place => return place.counts
  | fuel + 1, place => do
    match ← readSome descriptor with
    | .error fault =>
      complain (faultMessage path fault)
      return place.counts
    | .ok bytes =>
      if bytes.isEmpty then return place.counts
      else countAll path descriptor fuel (bytes.data.foldl CountPlace.after place)

/-- A number in so many columns. -/
def paddedNumber (width number : Nat) : String :=
  let digits := toString number
  String.ofList (List.replicate (width - digits.length) ' ') ++ digits

/-- What is shown of counts. -/
structure CountManner where
  lines : Bool
  words : Bool
  characters : Bool
  bytes : Bool
  widest : Bool

namespace CountManner

/-- The numbers that are shown. -/
def numbers (manner : CountManner) (counts : Counts) : List Nat :=
  (if manner.lines then [counts.lines] else []) ++
    (if manner.words then [counts.words] else []) ++
    (if manner.characters then [counts.bytes] else []) ++
    (if manner.bytes then [counts.bytes] else []) ++
    (if manner.widest then [counts.widest] else [])

/-- Whether one number alone is shown. -/
def isSingle (manner : CountManner) : Bool :=
  (manner.numbers .zero).length = 1

end CountManner

/-- The columns that a number takes.  The size of all files together must fit, and
what is no file takes more. -/
def countWidth (manner : CountManner) (paths : List (Option Octets)) : Act Nat := do
  if paths.length = 1 ∧ manner.isSingle then return 1
  else
    let facts ← paths.mapM fun path => match path with
      | none | some "-" => ask (.factsOf 0)
      | some path => factsOf path true
    let known := facts.filterMap Except.toOption
    let total := (known.filter fun facts => facts.kind = .file).foldl
      (fun total facts => total + facts.size) 0
    let digits := (toString total).length
    let least := if known.all fun facts => facts.kind = .file then 1 else 7
    return if digits < least then least else digits

/-- `wc`: counts lines, words and bytes. -/
def count (args : List Octets) : Act Unit := do
  let given ← given
    [.flag 'l' "lines", .flag 'w' "words", .flag 'm' "chars", .flag 'c' "bytes",
     .flag 'L' "max-line-length", .wordValued "files0-from", .wordValued "total"] args false
  let asked : CountManner := {
    lines := given.has "lines"
    words := given.has "words"
    characters := given.has "chars"
    bytes := given.has "bytes"
    widest := given.has "max-line-length" }
  let manner : CountManner :=
    if (asked.numbers .zero).isEmpty then ⟨true, true, false, true, false⟩ else asked
  let paths := if given.operands.isEmpty then [none] else given.operands.map some
  let width ← countWidth manner paths
  let showCounts (counts : Counts) (name : Option Octets) : Act Unit := do
    let numbers := (manner.numbers counts).map (paddedNumber width)
    printLine (String.intercalate " " (numbers ++ name.toList))
  let countOne (path : Option Octets) : Act Counts := do
    let name := path.getD "-"
    if name = "-" then
      let counts ← countAll (if path.isSome then "-" else "standard input") 0 Kernel.ages .start
      showCounts counts path
      return counts
    else
      match ← ask (.open (atPath name) .reading 0) with
      | .error fault =>
        complain (faultMessage name fault)
        return .zero
      | .ok descriptor =>
        let counts ← countAll name descriptor Kernel.ages .start
        let _ ← ask (.close descriptor)
        showCounts counts path
        return counts
  let counts ← paths.mapM countOne
  if 1 < paths.length then showCounts (counts.foldl Counts.add .zero) (some "total")

end HintFuzz.Utility

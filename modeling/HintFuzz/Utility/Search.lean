import HintFuzz.Regex.Reader
import HintFuzz.Regex.Search
import HintFuzz.Shell.Glob
import HintFuzz.Utility.Options

/-!
# Searching lines

`grep` writes the lines of its input that patterns cover.  A pattern is a regular
expression or a plain text.
-/

namespace HintFuzz.Utility

open Files (Fault)
open Kernel (ask)

/-- What is searched for, and what is written of it. -/
structure SearchManner where
  programs : List Regex.Program
  /-- Lines that are not covered are selected. -/
  invert : Bool
  counts : Bool
  /-- Only the names of files are written: of those with selected lines, or of those
  without. -/
  names : Option Bool
  onlyCovered : Bool
  quiet : Bool
  silent : Bool
  withName : Bool
  /-- The names of files in directories that are gone through are written. -/
  namesBelow : Bool
  /-- Only files in directories whose names one of these patterns covers are searched, if
  there are any. -/
  included : List (List Shell.Glob)
  /-- Files in directories whose names these patterns cover are left out. -/
  excluded : List (List Shell.Glob)
  withNumber : Bool
  withOffset : Bool
  /-- Files that are no text are treated like others. -/
  isText : Bool
  most : Option Nat
  before : Nat
  after : Nat
  /-- What is written between groups of lines of which some are left out. -/
  gap : Option Octets
  mark : Char
  zeroName : Bool
  /-- Paths are written without the directory itself in front. -/
  bare : Bool
  inputName : Octets

/-- The first stretch of a line from some place on that a pattern covers, the longest
one of those. -/
def SearchManner.find? (manner : SearchManner) (line : Array Char) (start : Nat) (any : Bool) :
    Option Regex.Covered :=
  (manner.programs.filterMap fun program => program.find? line start any).foldl
    (fun best covered =>
      match best with
      | none => some covered
      | some before =>
        if covered.first < before.first ∨
            (covered.first = before.first ∧ before.last < covered.last) then some covered
        else some before) none

/-- Whether a line is selected. -/
def SearchManner.selects (manner : SearchManner) (line : Array Char) : Bool :=
  (manner.programs.any fun program => (program.find? line 0 true).isSome) != manner.invert

/-- All stretches of a line that are covered and are not empty. -/
def SearchManner.allCovered (manner : SearchManner) (line : Array Char) :
    (fuel : Nat) → (start : Nat) → List (Nat × Nat)
  | 0, _ => []
  | fuel + 1, start =>
    match manner.find? line start false with
    | none => []
    | some covered =>
      if covered.last = covered.first then
        if covered.first < line.size then allCovered manner line fuel (covered.first + 1) else []
      else (covered.first, covered.last) :: allCovered manner line fuel covered.last

/-- How far the search of a file has come. -/
structure SearchPlace where
  number : Nat
  offset : Nat
  selected : Nat
  /-- Lines that are written if a selected one follows, the last one first. -/
  kept : List (Nat × Nat × List Char)
  /-- How many lines behind a selected one are still to be written. -/
  left : Nat
  /-- The number of the last line that was written. -/
  written : Option Nat
  /-- Lines of another file were written. -/
  behindOther : Bool
  binary : Bool

/-- Writes what stands in front of a line, with a mark behind every part. -/
def writeLead (manner : SearchManner) (name : Octets) (mark : Char) (number offset : Nat) :
    Act Unit := do
  let link := String.singleton mark
  if manner.withName then print (name ++ if manner.zeroName then "\x00" else link)
  if manner.withNumber then print (toString number ++ link)
  if manner.withOffset then print (toString offset ++ link)

/-- Writes one line. -/
def writeFound (manner : SearchManner) (name : Octets) (mark : Char)
    (line : Nat × Nat × List Char) : Act Unit := do
  let (number, offset, text) := line
  writeLead manner name mark number offset
  print (String.ofList (text ++ [manner.mark]))

/-- Whether lines around others are written too. -/
def SearchManner.hasContext (manner : SearchManner) : Bool :=
  (manner.before ≠ 0 || manner.after ≠ 0) && !manner.onlyCovered

/-- Writes a mark between groups of lines if some are left out, or if the last group was
one of another file. -/
def writeGap (manner : SearchManner) (place : SearchPlace) (number : Nat) : Act Unit := do
  if let some gap := manner.gap then
    match place.written with
    | some last => if last + 1 < number then printLine gap
    | none => if place.behindOther then printLine gap

/-- Writes a selected line with what belongs to it. -/
def writeSelected (manner : SearchManner) (name : Octets) (place : SearchPlace)
    (text : List Char) : Act SearchPlace := do
  let number := place.number
  if manner.onlyCovered then
    unless manner.invert do
      for (first, last) in manner.allCovered text.toArray (text.length + 1) 0 do
        writeLead manner name ':' number (place.offset + first)
        print (String.ofList ((text.take last).drop first ++ [manner.mark]))
  else
    writeGap manner place ((place.kept.getLast?.map Prod.fst).getD number)
    for line in place.kept.reverse do
      writeFound manner name '-' line
    writeFound manner name ':' (number, place.offset, text)
  return { place with kept := [], left := manner.after, written := some number }

/-- Whether nothing but a number or a name is written for a file. -/
def SearchManner.isSummary (manner : SearchManner) : Bool :=
  manner.counts || manner.names.isSome || manner.quiet

/-- Searches one line, and tells whether to go on. -/
def searchLine (manner : SearchManner) (name : Octets) (place : SearchPlace) (line : Line) :
    Act (SearchPlace × Bool) := do
  let text := line.text
  let place := { place with number := place.number + 1 }
  let isFull := manner.most.any fun most => most ≤ place.selected
  let entry := (place.number, place.offset, text)
  let (place, more) ← if !isFull && manner.selects text.toArray then do
      let place := { place with selected := place.selected + 1 }
      if manner.isSummary then pure (place, manner.counts && manner.names.isNone && !manner.quiet)
      else if place.binary && !manner.isText then
        flush
        warn (name ++ ": binary file matches")
        pure (place, false)
      else
        let place ← writeSelected manner name place text
        pure (place, true)
    else if manner.isSummary then pure (place, true)
    else if 0 < place.left && manner.hasContext then
      writeFound manner name '-' entry
      pure ({ place with left := place.left - 1, written := some place.number }, true)
    else if manner.hasContext then
      pure ({ place with kept := (entry :: place.kept).take manner.before }, true)
    else pure (place, true)
  let isFull := manner.most.any fun most => most ≤ place.selected
  let more := more && !(isFull && (place.left = 0 || manner.isSummary))
  return ({ place with offset := place.offset + text.length + 1 }, more && (← get).broken.isNone)

/-- Searches all that is read from a descriptor. -/
def searchAll (manner : SearchManner) (name : Octets) (descriptor : Nat) :
    (fuel : Nat) → (before : List Char) → SearchPlace → Act SearchPlace
  | 0, _, place => return place
  | fuel + 1, before, place => do
    match ← readSome descriptor with
    | .error fault =>
      unless manner.silent do
        warn (name ++ ": " ++ fault.words)
      setStatus 2
      return place
    | .ok bytes =>
      if bytes.isEmpty then
        if before.isEmpty then return place
        else return (← searchLine manner name place ⟨before.reverse, false⟩).1
      else
        let hasZero := manner.mark ≠ '\x00' && bytes.data.contains 0
        let place := { place with binary := place.binary || hasZero }
        let (lines, before) := cutLines manner.mark before (Octets.charactersOf bytes) []
        match ← stepLines (searchLine manner name) place lines with
        | (place, true) => searchAll manner name descriptor fuel before place
        | (place, false) => return place

/-- Searches a descriptor, writes what is to be known of it, and tells whether any line
was selected.  `behindOther` tells that lines of another file were selected before. -/
def searchFile (manner : SearchManner) (behindOther : Bool) (name : Octets) (descriptor : Nat) :
    Act Bool := do
  let start : SearchPlace := ⟨0, 0, 0, [], 0, none, behindOther, false⟩
  let place ← if manner.most = some 0 then pure start
    else searchAll manner name descriptor Kernel.ages [] start
  let found := place.selected ≠ 0
  let nameEnd := if manner.zeroName then "\x00" else "\n"
  if !manner.quiet then
    if manner.counts ∧ manner.names.isNone then
      if manner.withName then print (name ++ if manner.zeroName then "\x00" else ":")
      printLine (toString place.selected)
    match manner.names with
    | some selected => if found = selected then print (name ++ nameEnd)
    | none => pure ()
  return found

/-- All files below a directory. -/
def filesBelow : (fuel : Nat) → Octets → Act (List Octets)
  | 0, _ => return []
  | fuel + 1, path => do
    match ← ask (.list (atPath path)) with
    | .error _ => return []
    | .ok names =>
      let below ← names.mapM fun name => do
        let path := below path (Octets.ofText name)
        match ← factsOf path false with
        | .ok facts =>
          if facts.kind = .directory then filesBelow fuel path
          else if facts.kind = .file then return [path]
          else return []
        | .error _ => return []
      return below.flatten

/-- The options of `grep`. -/
def searchOptions : List OptionSpec :=
  [.flag 'E' "extended-regexp", .flag 'F' "fixed-strings", .flag 'G' "basic-regexp",
   .flag 'P' "perl-regexp", .valued 'e' "regexp", .valued 'f' "file", .flag 'i' "ignore-case",
   .letterFlag 'y', .wordFlag "no-ignore-case", .flag 'w' "word-regexp", .flag 'x' "line-regexp",
   .flag 'z' "null-data", .flag 's' "no-messages", .flag 'v' "invert-match",
   .valued 'm' "max-count", .flag 'b' "byte-offset", .flag 'n' "line-number",
   .wordFlag "line-buffered", .flag 'H' "with-filename", .flag 'h' "no-filename",
   .wordValued "label",
   .flag 'o' "only-matching", .flag 'q' "quiet", .wordFlag "silent", .wordValued "binary-files",
   .flag 'a' "text", .letterFlag 'I', .valued 'd' "directories", .valued 'D' "devices",
   .flag 'r' "recursive", .flag 'R' "dereference-recursive", .wordValued "include",
   .wordValued "exclude", .wordValued "exclude-dir", .flag 'L' "files-without-match",
   .flag 'l' "files-with-matches", .flag 'c' "count", .flag 'T' "initial-tab", .flag 'Z' "null",
   .valued 'B' "before-context", .valued 'A' "after-context", .valued 'C' "context",
   .wordFlag "no-group-separator", .wordValued "group-separator", ⟨none, "color", .may⟩,
   ⟨none, "colour", .may⟩, .flag 'U' "binary"]

/-- The arguments in which a number as an option is written as the option for lines
around others. -/
def withContextOption (args : List Octets) : List Octets :=
  args.map fun arg =>
    match arg.toList with
    | '-' :: c :: rest =>
      if (c :: rest).all Char.isDigit then "-C" ++ String.ofList (c :: rest) else arg
    | _ => arg

/-- The patterns of options, each in a line of its own. -/
def patternsOf (given : Given) : Act (Option (List Octets)) := do
  let fromOptions := given.values "regexp"
  let fromFiles ← (given.values "file").mapM fun path => do
    match ← contentOf path with
    | .error fault => fail (path ++ ": " ++ fault.words)
    | .ok bytes =>
      let text := Octets.charactersOf bytes
      return if text.isEmpty then [] else
        let lines := Text.stretches '\n' text
        (if text.getLast? = some '\n' then lines.dropLast else lines).map String.ofList
  if fromOptions.isEmpty ∧ (given.values "file").isEmpty then return none
  else
    return some ((fromOptions.flatMap fun text =>
      (Text.stretches '\n' text.toList).map String.ofList) ++ fromFiles.flatten)

/-- The expression of a plain text. -/
def plainRegex (text : List Char) : Regex :=
  text.foldr (fun c rest => .sequence (.one (.only c)) rest) .nothing

/-- The program of a pattern. -/
def patternProgram (given : Given) (plain extended fold : Bool) (pattern : Octets) :
    Act Regex.Program := do
  let dialect : Regex.Dialect := ⟨extended, false⟩
  let regex ←
    if plain then pure (plainRegex pattern.toList)
    else
      match Regex.read dialect pattern.toList with
      | .ok regex =>
        for operator in Regex.strayOperators dialect (pattern.length + 1) true none
            pattern.toList do
          warn ("warning: " ++ operator ++ " at start of expression")
        pure regex
      | .error fault => fail fault.words
  let regex :=
    if given.has "line-regexp" then
      .sequence (.between .lineStart) (.sequence (.group 0 regex) (.between .lineEnd))
    else if given.has "word-regexp" then
      .sequence (.between .noWordBefore) (.sequence (.group 0 regex) (.between .noWordBehind))
    else regex
  return .ofRegex regex fold false

/-- The number that an option gives. -/
def searchNumber (given : Given) (key message : String) : Act (Option Nat) := do
  match given.value? key with
  | none => return none
  | some text =>
    match text.toNat? with
    | some number => return some number
    | none => fail (if message = "" then "invalid max count" else text ++ ": " ++ message)

/-- Notes that a line was selected. -/
def noteFound (found : Bool) : Act Unit := do
  if found ∧ (← get).status = 1 then setStatus 0

/-- Complains about a file. -/
def complainOfSearch (manner : SearchManner) (path : Octets) (fault : Fault) : Act Unit := do
  unless manner.silent do
    warn (path ++ ": " ++ fault.words)
  setStatus 2

/-- Searches the file at a path. -/
def searchPath (manner : SearchManner) (behindOther : Bool) (path : Octets) : Act Bool := do
  match ← ask (.open (atPath path) .reading 0) with
  | .error fault =>
    complainOfSearch manner path fault
    return false
  | .ok descriptor =>
    let name := if manner.bare ∧ path.startsWith "./" then String.ofList (path.toList.drop 2)
      else path
    let found ← searchFile manner behindOther name descriptor
    let _ ← ask (.close descriptor)
    return found

/-- Whether a file in a directory is searched. -/
def SearchManner.accepts (manner : SearchManner) (path : Octets) : Bool :=
  let isCovered (pattern : List Shell.Glob) : Bool :=
    Shell.Glob.covers pattern (lastName path).toList
  (manner.included.isEmpty || manner.included.any isCovered) && !manner.excluded.any isCovered

/-- Searches an operand, and tells whether any line was selected. -/
def searchOperand (manner : SearchManner) (recursive skips behindOther : Bool) (path : Octets) :
    Act Bool := do
  if path = "-" then searchFile manner behindOther manner.inputName 0
  else
    match ← factsOf path true with
    | .error fault =>
      complainOfSearch manner path fault
      return false
    | .ok facts =>
      if facts.kind ≠ .directory then searchPath manner behindOther path
      else if recursive then
        let manner := { manner with withName := manner.withName || manner.namesBelow }
        let paths := (← filesBelow 100 path).filter manner.accepts
        paths.foldlM (fun found path => do
          return (← searchPath manner (behindOther || found) path) || found) false
      else
        unless skips do
          complainOfSearch manner path .isDirectory
        return false

/-- Searches operands one after the other. -/
def searchOperands (manner : SearchManner) (recursive skips : Bool) :
    (behindOther : Bool) → List Octets → Act Unit
  | _, [] => pure ()
  | behindOther, path :: rest => do
    let found ← searchOperand manner recursive skips behindOther path
    noteFound found
    if found ∧ manner.quiet then setStatus 0
    else searchOperands manner recursive skips (behindOther || found) rest

/-- `grep`, or one of its variants that read patterns in one way only. -/
def search (variant : Option String) (args : List Octets) : Act Unit := do
  modify fun tool =>
    { tool with usage := "Usage: " ++ tool.name ++ " [OPTION]... PATTERNS [FILE]...\n" }
  let given ← given searchOptions (withContextOption args) false
  let kind := (variant.map fun key => (key, "")).orElse fun _ =>
    given.last? ["extended-regexp", "fixed-strings", "basic-regexp", "perl-regexp"]
  let plain := kind.any fun kind => kind.1 = "fixed-strings"
  let extended := kind.any fun kind => kind.1 = "extended-regexp" || kind.1 = "perl-regexp"
  let fold := given.has "ignore-case" || given.has "y"
  let fromOptions ← patternsOf given
  let (patterns, paths) ← match fromOptions, given.operands with
    | some patterns, paths => pure (patterns, paths)
    | none, pattern :: paths =>
      pure ((Text.stretches '\n' pattern.toList).map String.ofList, paths)
    | none, [] =>
      printError ((← get).usage ++ (← helpLine))
      throw 2
  let around ← searchNumber given "context" "invalid context length argument"
  let before ← searchNumber given "before-context" "invalid context length argument"
  let after ← searchNumber given "after-context" "invalid context length argument"
  let most ← searchNumber given "max-count" ""
  let programs ← patterns.mapM (patternProgram given plain extended fold)
  let recursive := given.has "recursive" || given.has "dereference-recursive"
  let bare := paths.isEmpty
  let paths := if bare then [if recursive then "." else "-"] else paths
  let kindName := given.last? ["files-with-matches", "files-without-match"]
  let nameOption := given.last? ["with-filename", "no-filename"]
  let hasContext := around.isSome || before.isSome || after.isSome
  let gap := if !hasContext || given.has "only-matching" then none
    else
      match given.last? ["no-group-separator", "group-separator"] with
      | some ("group-separator", text) => some text
      | some _ => none
      | none => some "--"
  let manner : SearchManner := {
    programs
    invert := given.has "invert-match"
    counts := given.has "count"
    names := kindName.map fun key => key.1 = "files-with-matches"
    onlyCovered := given.has "only-matching"
    quiet := given.has "quiet" || given.has "silent"
    silent := given.has "no-messages"
    withName := match nameOption with
      | some (key, _) => key = "with-filename"
      | none => 1 < paths.length
    namesBelow := nameOption.isNone
    included := (given.values "include").map Shell.Glob.ofText
    excluded := (given.values "exclude").map Shell.Glob.ofText
    withNumber := given.has "line-number"
    withOffset := given.has "byte-offset"
    isText := given.has "text" || given.value? "binary-files" = some "text"
    most
    before := (before.orElse fun _ => around).getD 0
    after := (after.orElse fun _ => around).getD 0
    gap
    mark := if given.has "null-data" then '\x00' else '\n'
    zeroName := given.has "null"
    bare
    inputName := (given.value? "label").getD "(standard input)" }
  setStatus 1
  searchOperands manner recursive (given.value? "directories" = some "skip") false paths

end HintFuzz.Utility

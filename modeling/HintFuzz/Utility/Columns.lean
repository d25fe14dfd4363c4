import HintFuzz.Utility.Options

/-!
# Lines in columns

Utilities that change every line by itself: they cut parts out of it, put lines
side by side, break them, number them or turn them around.
-/

namespace HintFuzz.Utility

open Kernel (ask)

/-! ### Ranges -/

/-- Positions from one to another, both counted from 1. -/
structure PositionRange where
  first : Nat
  last : Option Nat

/-- Whether a range holds a position. -/
def PositionRange.holds (range : PositionRange) (position : Nat) : Bool :=
  range.first ≤ position && range.last.all fun last => position ≤ last

/-- What a list of ranges is about. -/
structure RangeWords where
  zero : String
  value : String
  range : String

/-- Complaints about positions of characters. -/
def positionWords : RangeWords :=
  ⟨"byte/character positions are numbered from 1", "invalid byte/character position ",
    "invalid byte or character range"⟩

/-- Complaints about fields. -/
def fieldWords : RangeWords :=
  ⟨"fields are numbered from 1", "invalid field value ", "invalid field range"⟩

/-- Reads a list of ranges.  `value` is the number that is being read, `first` what
stands in front of a hyphen. -/
def readRanges (words : RangeWords) :
    (value : Option Nat) → (first : Option (Option Nat)) → List Char → Act (List PositionRange)
  | value, first, [] => return [← closeRange value first]
  | value, first, c :: rest => do
    if c = '-' then
      match first, value with
      | some _, _ => failUsage words.range
      | none, some 0 => failUsage words.zero
      | none, value => readRanges words none (some value) rest
    else if c = ',' ∨ c = ' ' ∨ c = '\t' then
      return (← closeRange value first) :: (← readRanges words none none rest)
    else if c.isDigit then
      readRanges words (some (value.getD 0 * 10 + (c.toNat - 48))) first rest
    else failUsage (words.value ++ Text.quotedWord (String.ofList (c :: rest)))
where
  /-- The range that ends here. -/
  closeRange (value : Option Nat) : Option (Option Nat) → Act PositionRange
    | none =>
      match value with
      | none | some 0 => failUsage words.zero
      | some value => return ⟨value, some value⟩
    | some first =>
      match first, value with
      | none, none => failUsage "invalid range with no endpoint: -"
      | some first, none => return ⟨first, none⟩
      | first, some last =>
        if last < first.getD 1 then failUsage "invalid decreasing range"
        else return ⟨first.getD 1, some last⟩

/-- Ranges in order, of which those that overlap are one. -/
def mergedRanges (ranges : List PositionRange) : List PositionRange :=
  let sorted := ranges.mergeSort fun a b => a.first ≤ b.first
  let merged := sorted.foldl (fun merged range =>
    match merged with
    | [] => [range]
    | before :: others =>
      if before.holds range.first then
        let last := match before.last, range.last with
          | some a, some b => some (if a ≤ b then b else a)
          | _, _ => none
        ⟨before.first, last⟩ :: others
      else range :: merged) []
  merged.reverse

/-! ### Parts of lines -/

/-- How parts are cut out of lines. -/
structure CutManner where
  ranges : List PositionRange
  complement : Bool
  fields : Bool
  delimiter : Char
  outputDelimiter : Option Octets
  onlyDelimited : Bool

namespace CutManner

/-- Whether a part at a position is kept. -/
def keeps (manner : CutManner) (position : Nat) : Bool :=
  (manner.ranges.any fun range => range.holds position) != manner.complement

/-- The fields of a line that are kept. -/
def keptFields (manner : CutManner) (line : List Char) : Option (List Char) :=
  let fields := Text.stretches manner.delimiter line
  if fields.length = 1 then (if manner.onlyDelimited then none else some line)
  else
    let kept := (fields.zipIdx 1).filterMap fun (field, position) =>
      if manner.keeps position then some field else none
    let link := (manner.outputDelimiter.map String.toList).getD [manner.delimiter]
    some (kept.intersperse link).flatten

/-- The characters of a line that are kept.  What separates the parts stands in
front of a range that does not start the line. -/
def keptCharacters (manner : CutManner) (line : List Char) : List Char :=
  let kept := (line.zipIdx 1).filter fun (_, position) => manner.keeps position
  match manner.outputDelimiter with
  | none => kept.map Prod.fst
  | some link =>
    let starts (position : Nat) : Bool :=
      if manner.complement then !manner.keeps (position - 1)
      else manner.ranges.any fun range => range.first = position
    (kept.zipIdx).flatMap fun ((c, position), index) =>
      if index ≠ 0 ∧ starts position then link.toList ++ [c] else [c]

end CutManner

/-- Does something with every line of several paths. -/
def forEachLine (mark : Char) (paths : List Octets) (action : List Char → Act Unit) : Act Unit :=
  forPaths faultMessage (fun path descriptor => do
    let _ ← readLines path descriptor mark (fun _ line => do
      action line.text
      return ((), (← get).broken.isNone)) Kernel.ages [] ()) paths

/-- `cut`: writes parts of lines. -/
def cutParts (args : List Octets) : Act Unit := do
  let given ← given
    [.valued 'b' "bytes", .valued 'c' "characters", .valued 'd' "delimiter", .valued 'f' "fields",
     .letterFlag 'n', .flag 's' "only-delimited", .flag 'z' "zero-terminated",
     .wordFlag "complement", .wordValued "output-delimiter"] args false
  let lists := given.options.filter fun option =>
    ["bytes", "characters", "fields"].contains option.1
  match lists with
  | [] => failUsage "you must specify a list of bytes, characters, or fields"
  | _ :: _ :: _ => failUsage "only one list may be specified"
  | [(kind, list)] =>
    let fields := kind = "fields"
    let delimiter := given.value? "delimiter"
    if delimiter.any fun text => 1 < text.length then
      failUsage "the delimiter must be a single character"
    if delimiter.isSome ∧ !fields then
      failUsage "an input delimiter may be specified only when operating on fields"
    if given.has "only-delimited" ∧ !fields then
      failUsage ("suppressing non-delimited lines makes sense\n\tonly when operating on fields")
    let ranges ← readRanges (if fields then fieldWords else positionWords) none none list.toList
    let mark := if given.has "zero-terminated" then '\x00' else '\n'
    let manner : CutManner := {
      ranges := mergedRanges ranges
      complement := given.has "complement"
      fields
      delimiter := (delimiter.map fun text => text.toList.headD '\x00').getD '\t'
      outputDelimiter := given.value? "output-delimiter"
      onlyDelimited := given.has "only-delimited" }
    forEachLine mark (pathsOf given.operands) fun line => do
      let kept := if fields then manner.keptFields line else some (manner.keptCharacters line)
      if let some kept := kept then print (String.ofList (kept ++ [mark]))

/-! ### Lines side by side -/

/-- The marks that a text with backslashes stands for; none stands for no mark. -/
def pasteMarks : List Char → List (Option Char)
  | [] => []
  | '\\' :: c :: rest =>
    (match c with
      | '0' => none
      | 'n' => some '\n'
      | 't' => some '\t'
      | 'b' => some '\x08'
      | 'f' => some '\x0c'
      | 'r' => some '\r'
      | 'v' => some '\x0b'
      | c => some c) :: pasteMarks rest
  | c :: rest => some c :: pasteMarks rest

/-- Texts with marks between them, which are used in turn. -/
def pasted (marks : List (Option Char)) (texts : List (List Char)) : List Char :=
  let links := if marks.isEmpty then [none] else marks
  (texts.zipIdx).flatMap fun (text, index) =>
    if index = 0 then text
    else ((links[(index - 1) % links.length]?).bind id).toList ++ text

/-- The lines of one of several paths.  A hyphen that stands there more than once
gets its share of the lines of the input. -/
def pasteColumn (paths : List Octets) (input : List (List Char)) (path : Octets) (index : Nat) :
    Act (Option (List (List Char))) := do
  if path = "-" then
    let shares := paths.count "-"
    let turn := (paths.take index).count "-"
    return some ((input.zipIdx).filterMap fun (line, number) =>
      if number % shares = turn then some line else none)
  else
    match ← contentOf path with
    | .ok bytes => return some (linesIn bytes)
    | .error fault =>
      complain (faultMessage path fault)
      return none
where
  /-- The lines of bytes. -/
  linesIn (bytes : ByteArray) : List (List Char) :=
    let (lines, last) := cutLines '\n' [] (Octets.charactersOf bytes) []
    lines.map Line.text ++ (if last.isEmpty then [] else [last.reverse])

/-- `paste`: writes lines side by side. -/
def paste (args : List Octets) : Act Unit := do
  let given ← given
    [.valued 'd' "delimiters", .flag 's' "serial", .flag 'z' "zero-terminated"] args false
  let marks := pasteMarks ((given.value? "delimiters").getD "\t").toList
  let paths := pathsOf given.operands
  let serial := given.has "serial"
  let input ← if paths.contains "-" then contentOf "-" else pure (.ok .empty)
  let input := pasteColumn.linesIn (input.toOption.getD .empty)
  let columns ← (paths.zipIdx).mapM fun (path, index) =>
    pasteColumn (if serial then ["-"] else paths) input path (if serial then 0 else index)
  if serial then
    for column in columns.filterMap id do
      print (String.ofList (pasted marks column ++ ['\n']))
  else if columns.all Option.isSome then
    let columns := columns.filterMap id
    let height := columns.foldl
      (fun height column => if height < column.length then column.length else height) 0
    for row in List.range height do
      let pieces := columns.map fun column => column[row]?.getD []
      print (String.ofList (pasted marks pieces ++ ['\n']))

/-! ### Breaking -/

/-- The column behind a character. -/
def columnAfter (bytes : Bool) (column : Nat) (c : Char) : Nat :=
  if bytes then column + 1
  else if c = '\t' then column / 8 * 8 + 8
  else if c = '\x08' then column - 1
  else if c = '\r' then 0
  else column + 1

/-- The column behind characters. -/
def columnBehind (bytes : Bool) (characters : List Char) : Nat :=
  characters.foldl (columnAfter bytes) 0

/-- A line broken into several ones.  `current` holds the characters of the open one,
the last one first. -/
def brokenLine (width : Nat) (bytes blanks : Bool) :
    (fuel : Nat) → (current : List Char) → (column : Nat) → List Char → List (List Char)
  | 0, current, _, rest => [current.reverse ++ rest]
  | _, current, _, [] => if current.isEmpty then [] else [current.reverse]
  | fuel + 1, current, column, c :: rest =>
    let next := columnAfter bytes column c
    if next ≤ width ∨ current.isEmpty then
      brokenLine width bytes blanks fuel (c :: current) next rest
    else
      let isBlank (c : Char) : Bool := c = ' ' || c = '\t'
      let tail := current.takeWhile fun c => !isBlank c
      let front := current.drop tail.length
      if blanks ∧ !front.isEmpty then
        front.reverse :: brokenLine width bytes blanks fuel tail
          (columnBehind bytes tail.reverse) (c :: rest)
      else current.reverse :: brokenLine width bytes blanks fuel [] 0 (c :: rest)

/-- `fold`: breaks lines that are too long. -/
def foldLines (args : List Octets) : Act Unit := do
  let given ← given [.flag 'b' "bytes", .flag 's' "spaces", .valued 'w' "width"]
    (args.flatMap fun arg =>
      match arg.toList with
      | '-' :: c :: rest =>
        if (c :: rest).all Char.isDigit then ["-w", String.ofList (c :: rest)] else [arg]
      | _ => [arg]) false
  let text := (given.value? "width").getD "80"
  match text.toNat? with
  | none => fail ("invalid number of columns: " ++ Text.quotedWord text)
  | some 0 =>
    fail ("invalid number of columns: " ++ Text.quotedWord text ++
      ": Numerical result out of range")
  | some width =>
    forPaths faultMessage (fun path descriptor => do
      let _ ← readLines path descriptor '\n' (fun _ line => do
        let parts := brokenLine width (given.has "bytes") (given.has "spaces")
          (2 * line.text.length + 2) [] 0 line.text
        print (String.intercalate "\n" (parts.map String.ofList) ++
          if line.ended then "\n" else "")
        return ((), true)) Kernel.ages [] ()) (pathsOf given.operands)

/-- A line with blanks in place of tabs; `stop` tells how far they reach. -/
def untabbed (stop : Nat) (initialOnly : Bool) :
    (column : Nat) → (initial : Bool) → List Char → List Char
  | _, _, [] => []
  | column, initial, c :: rest =>
    if c = '\t' ∧ (initial ∨ !initialOnly) then
      let count := stop - column % stop
      List.replicate count ' ' ++ untabbed stop initialOnly (column + count) initial rest
    else
      let next := if c = '\x08' then column - 1 else column + 1
      c :: untabbed stop initialOnly next (initial && c = ' ') rest

/-- `expand`: writes blanks in place of tabs. -/
def expandTabs (args : List Octets) : Act Unit := do
  let given ← given [.flag 'i' "initial", .valued 't' "tabs"] args false
  let text := (given.value? "tabs").getD "8"
  match text.toNat? with
  | none => fail ("tab size contains invalid character(s): " ++ Text.quotedWord text)
  | some 0 => fail "tab size cannot be 0"
  | some stop =>
    forPaths faultMessage (fun path descriptor => do
      let _ ← readLines path descriptor '\n' (fun _ line => do
        print (String.ofList (untabbed stop (given.has "initial") 0 true line.text) ++
          if line.ended then "\n" else "")
        return ((), true)) Kernel.ages [] ()) (pathsOf given.operands)

/-! ### Numbers of lines -/

/-- How lines are numbered. -/
structure NumberManner where
  /-- Which lines are numbered: all, those that are not empty, or none. -/
  style : Octets
  first : Int
  step : Int
  separator : Octets
  width : Nat
  format : Octets

namespace NumberManner

/-- A number as it is shown. -/
def shown (manner : NumberManner) (number : Int) : Octets :=
  let digits := toString number.natAbs
  let sign := if number < 0 then "-" else ""
  let fill (c : Char) (length : Nat) : Octets :=
    String.ofList (List.replicate (manner.width - length) c)
  let text := sign ++ digits
  if manner.format = "ln" then text ++ fill ' ' text.length
  else if manner.format = "rz" then sign ++ fill '0' text.length ++ digits
  else fill ' ' text.length ++ text

/-- Whether a line is numbered. -/
def counts (manner : NumberManner) (line : List Char) : Bool :=
  manner.style = "a" || (manner.style = "t" && !line.isEmpty)

end NumberManner

/-- `nl`: numbers lines. -/
def numberLines (args : List Octets) : Act Unit := do
  let given ← given
    [.valued 'b' "body-numbering", .valued 'd' "section-delimiter", .valued 'f' "footer-numbering",
     .valued 'h' "header-numbering", .valued 'i' "line-increment", .valued 'l' "join-blank-lines",
     .valued 'n' "number-format", .flag 'p' "no-renumber", .valued 's' "number-separator",
     .valued 'v' "starting-line-number", .valued 'w' "number-width"] args false
  let number (key : String) (usual : Int) : Int :=
    ((given.value? key).bind String.toInt?).getD usual
  let manner : NumberManner := {
    style := (given.value? "body-numbering").getD "t"
    first := number "starting-line-number" 1
    step := number "line-increment" 1
    separator := (given.value? "number-separator").getD "\t"
    width := (number "number-width" 6).toNat
    format := (given.value? "number-format").getD "rn" }
  let _ ← forLines (fun next line => do
    let text := String.ofList line.text
    if text = "\\:" ∨ text = "\\:\\:" ∨ text = "\\:\\:\\:" then
      printLine ""
      return (manner.first, true)
    else if manner.counts line.text then
      printLine (manner.shown next ++ manner.separator ++ text)
      return (next + manner.step, true)
    else
      let blank := List.replicate (manner.width + manner.separator.length) ' '
      printLine (String.ofList blank ++ text)
      return (next, true)) manner.first (pathsOf given.operands)

/-! ### Turning around -/

/-- `rev`: turns every line around. -/
def turnLines (args : List Octets) : Act Unit := do
  let given ← given [] args false
  forPaths (fun path fault => "cannot open " ++ path ++ ": " ++ fault.words)
    (fun path descriptor => do
      let _ ← readLines path descriptor '\n' (fun _ line => do
        print (String.ofList line.text.reverse ++ if line.ended then "\n" else "")
        return ((), true)) Kernel.ages [] ()) (pathsOf given.operands)

/-- `tac`: writes the lines of every file from the last one to the first one. -/
def turnFiles (args : List Octets) : Act Unit := do
  let given ← given [.flag 'b' "before", .flag 'r' "regex", .valued 's' "separator"] args false
  let mark := ((given.value? "separator").bind fun text => text.toList.head?).getD '\n'
  forPaths (fun path fault =>
      "failed to open " ++ Text.shellWord path ++ " for reading: " ++ fault.words)
    (fun path descriptor => do
      match ← Kernel.readAll descriptor with
      | .error fault => complain (shownPath path ++ ": read error: " ++ fault.words)
      | .ok bytes =>
        let (lines, last) := cutLines mark [] (Octets.charactersOf bytes) []
        unless last.isEmpty do
          print (String.ofList last.reverse)
        for line in lines.reverse do
          print (String.ofList (line.text ++ [mark]))) (pathsOf given.operands)

end HintFuzz.Utility

import HintFuzz.Files.Permission
import HintFuzz.Utility.Options

/-!
# Listings

`ls` lists directories, and `stat` tells what is known about files.
-/

namespace HintFuzz.Utility

open Files (Fault)
open Kernel (ask Facts Kind)

/-! ### Words for what is known -/

/-- The letter of a kind of nodes. -/
def kindLetter : Kind → Char
  | .file => '-'
  | .directory => 'd'
  | .link => 'l'
  | .device => 'c'
  | .channel => 'p'

/-- A kind and a mode in letters. -/
def modeText (kind : Kind) (mode : Nat) : Octets :=
  String.ofList (kindLetter kind :: Files.PermissionSpec.modeLetters mode)

/-- The size that a node is said to have. -/
def shownSize (facts : Facts) : Nat :=
  if facts.kind = .directory then 4096 else facts.size

/-- The bytes of a block on the disk. -/
def blockSize : Nat := 4096

/-- How many units of 1024 bytes a node takes on the disk. -/
def diskUnits (facts : Facts) : Nat :=
  match facts.kind with
  | .file | .directory => (shownSize facts + blockSize - 1) / blockSize * (blockSize / 1024)
  | _ => 0

/-! ### Listing directories -/

/-- By what entries are sorted. -/
inductive ListOrder
  | name
  | size
  | time
  | unsorted

/-- How entries are listed. -/
structure ListManner where
  /-- Names with a point in front are listed. -/
  hidden : Bool
  /-- The directory itself and the one above it are listed. -/
  dots : Bool
  long : Bool
  numeric : Bool
  owner : Bool
  group : Bool
  classify : Bool
  slashes : Bool
  recursive : Bool
  turned : Bool
  order : ListOrder
  numbered : Bool
  sized : Bool
  commas : Bool

/-- An entry that is listed. -/
structure Listed where
  name : Octets
  facts : Facts
  /-- What a link holds. -/
  target : Octets

/-- The entry of a path. -/
def listedAt (path name : Octets) (through : Bool) : Act (Except Fault Listed) := do
  let found ← match ← factsOf path through with
    | .ok facts => pure (.ok facts)
    | .error fault => if through then factsOf path false else pure (.error fault)
  match found with
  | .error fault => return .error fault
  | .ok facts =>
    let target ← if facts.kind = .link then ask (.readLink (atPath path)) else pure (.ok "")
    return .ok ⟨name, facts, Octets.ofText (target.toOption.getD "")⟩

/-- Entries in their order. -/
def sortedEntries (manner : ListManner) (entries : List Listed) : List Listed :=
  let byName := entries.mergeSort fun a b => a.name ≤ b.name
  let sorted := match manner.order with
    | .name => byName
    | .size => byName.mergeSort fun a b => shownSize b.facts ≤ shownSize a.facts
    | .time => byName.mergeSort fun a b => b.facts.modified ≤ a.facts.modified
    | .unsorted => entries
  if manner.turned then sorted.reverse else sorted

/-- What stands behind the name of an entry. -/
def endMark (manner : ListManner) (facts : Facts) : Octets :=
  if facts.kind = .directory then (if manner.classify || manner.slashes then "/" else "")
  else if !manner.classify then ""
  else
    match facts.kind with
    | .link => "@"
    | .channel => "|"
    | .file => if facts.mode &&& 0o111 ≠ 0 then "*" else ""
    | _ => ""

/-- A text with blanks in front. -/
def paddedText (width : Nat) (text : Octets) : Octets :=
  String.ofList (List.replicate (width - text.length) ' ') ++ text

/-- The length of the longest text. -/
def widest (texts : List Octets) : Nat :=
  texts.foldl (fun width text => if width ≤ text.length then text.length else width) 0

/-- The time at which all files were changed, as far as lists know. -/
def shownTime : Octets := "Jan  1 00:00"

/-- Prints entries. -/
def printEntries (manner : ListManner) (entries : List Listed) : Act Unit := do
  let sizeOf (entry : Listed) : Octets :=
    if entry.facts.kind = .device then "1, 3" else toString (shownSize entry.facts)
  let links := widest (entries.map fun entry => toString entry.facts.links)
  let sizes := widest (entries.map sizeOf)
  let numbers := widest (entries.map fun entry => toString entry.facts.id)
  let units := widest (entries.map fun entry => toString (diskUnits entry.facts))
  let who := if manner.numeric then "0" else "root"
  let line (entry : Listed) : Octets :=
    let facts := entry.facts
    (if manner.numbered then paddedText numbers (toString facts.id) ++ " " else "") ++
      (if manner.sized then paddedText units (toString (diskUnits facts)) ++ " " else "") ++
      (if manner.long then
        modeText facts.kind facts.mode ++ " " ++ paddedText links (toString facts.links) ++ " " ++
          (if manner.owner then who ++ " " else "") ++ (if manner.group then who ++ " " else "") ++
          paddedText sizes (sizeOf entry) ++ " " ++ shownTime ++ " "
      else "") ++ entry.name ++
      (if manner.long ∧ facts.kind = .link then " -> " ++ entry.target
      else endMark manner facts)
  if manner.commas ∧ !manner.long then
    unless entries.isEmpty do
      printLine (String.intercalate ", " (entries.map line))
  else
    for entry in entries do printLine (line entry)

/-- Lists a directory, and those in it if that is asked for.  `titled` tells that its
path is shown, and `first` that nothing was printed before. -/
def listDirectory (manner : ListManner) : (fuel : Nat) → (titled first : Bool) →
    (path : Octets) → Act Unit
  | 0, _, _, _ => pure ()
  | fuel + 1, titled, first, path => do
    match ← ask (.list (atPath path)) with
    | .error fault =>
      complain ("cannot open directory " ++ Text.shellWord path ++ ": " ++ fault.words)
    | .ok names =>
      let names := (names.map Octets.ofText).filter fun name =>
        manner.hidden || !name.startsWith "."
      let names := (if manner.dots then [".", ".."] else []) ++ names
      let entries ← names.filterMapM fun name => do
        match ← listedAt (below path name) name false with
        | .ok entry => return some entry
        | .error fault =>
          complain ("cannot access " ++ Text.shellWord (below path name) ++ ": " ++ fault.words)
          return none
      let entries := sortedEntries manner entries
      if titled then
        unless first do print "\n"
        printLine (path ++ ":")
      if manner.long || manner.sized then
        let total := entries.foldl (fun total entry => total + diskUnits entry.facts) 0
        printLine ("total " ++ toString total)
      printEntries manner entries
      if manner.recursive then
        for entry in entries do
          if entry.facts.kind = .directory ∧ entry.name ≠ "." ∧ entry.name ≠ ".." then
            listDirectory manner fuel true false (below path entry.name)

/-- `ls`: lists files and directories. -/
def list (args : List Octets) : Act Unit := do
  let given ← given
    [.flag 'a' "all", .flag 'A' "almost-all", .flag 'd' "directory", .flag 'F' "classify",
     .flag 'r' "reverse", .flag 'R' "recursive", .flag 'n' "numeric-uid-gid",
     .flag 'G' "no-group", .flag 'i' "inode", .flag 's' "size", .flag 'L' "dereference",
     .flag 'N' "literal", .flag 'h' "human-readable", .flag 'k' "kibibytes",
     .flag 'q' "hide-control-chars", .flag 'Q' "quote-name", .flag 'b' "escape",
     .letterFlag 'l', .letterFlag '1', .letterFlag 'C', .letterFlag 'x', .letterFlag 'm',
     .letterFlag 'p', .letterFlag 'S', .letterFlag 't', .letterFlag 'U', .letterFlag 'f',
     .letterFlag 'g', .letterFlag 'o', .letterFlag 'c', .letterFlag 'u', .letterFlag 'H',
     .letterFlag 'v', .letterFlag 'X', ⟨none, "color", .may⟩,
     .wordFlag "group-directories-first", .wordFlag "file-type", .valued 'w' "width",
     .wordValued "sort", .wordValued "format", .wordValued "indicator-style"] args false
  let all := given.has "all" || given.has "f"
  let long := given.has "l" || given.has "g" || given.has "o" || given.has "numeric-uid-gid"
  let style := given.last? ["l", "g", "o", "numeric-uid-gid", "1", "C", "x", "m"]
  let sort := match given.value? "sort" with
    | some "size" => "S"
    | some "time" => "t"
    | some "none" => "U"
    | _ => ""
  let order := match given.last? ["S", "t", "U", "f"] with
    | some (key, _) => key
    | none => sort
  let manner : ListManner := {
    hidden := all || given.has "almost-all"
    dots := all
    long := long && style.any fun option => !(["C", "x", "m"].contains option.1)
    numeric := given.has "numeric-uid-gid"
    owner := !given.has "g"
    group := !given.has "o" && !given.has "no-group"
    classify := given.has "classify"
    slashes := given.has "p" || given.has "file-type"
    recursive := given.has "recursive"
    turned := given.has "reverse"
    order := match order with
      | "S" => .size
      | "t" => .time
      | "U" | "f" => .unsorted
      | _ => .name
    numbered := given.has "inode"
    sized := given.has "size"
    commas := style.any fun option => option.1 = "m" }
  let through := given.has "dereference" || (!long && !manner.classify)
  let paths := if given.operands.isEmpty then ["."] else given.operands
  let entries ← paths.filterMapM fun path => do
    match ← listedAt path path (through && !given.has "directory") with
    | .ok entry => return some entry
    | .error fault =>
      complain ("cannot access " ++ Text.shellWord path ++ ": " ++ fault.words)
      return none
  let isListed (entry : Listed) : Bool :=
    entry.facts.kind = .directory && !given.has "directory"
  let entries := sortedEntries manner entries
  let (directories, files) := entries.partition isListed
  printEntries manner files
  let titled := 1 < paths.length || manner.recursive
  for (entry, index) in directories.zipIdx do
    listDirectory manner 100 titled (index = 0 && files.isEmpty) entry.name

/-! ### Facts about files -/

/-- The words for a kind of nodes. -/
def kindWords (facts : Facts) : Octets :=
  match facts.kind with
  | .file => if facts.size = 0 then "regular empty file" else "regular file"
  | .directory => "directory"
  | .link => "symbolic link"
  | .device => "character special file"
  | .channel => "fifo"

/-- The bits that tell the kind of a node. -/
def kindBits : Kind → Nat
  | .file => 0o100000
  | .directory => 0o040000
  | .link => 0o120000
  | .device => 0o020000
  | .channel => 0o010000

/-- What a letter in a format of facts stands for. -/
def factText (path target : Octets) (facts : Facts) (letter : Char) : Octets :=
  let seconds := toString (facts.modified / 1000000000)
  match letter with
  | 'n' => path
  | 'N' =>
    if facts.kind = .link then Text.shellWord path ++ " -> " ++ Text.shellWord target
    else Text.shellWord path
  | 's' => toString (shownSize facts)
  | 'a' => String.ofList (Nat.toDigits 8 facts.mode)
  | 'A' => modeText facts.kind facts.mode
  | 'f' => String.ofList (Nat.toDigits 16 (kindBits facts.kind ||| facts.mode))
  | 'F' => kindWords facts
  | 'h' => toString facts.links
  | 'i' => toString facts.id
  | 'U' | 'G' => "root"
  | 'u' | 'g' | 't' | 'T' | 'W' => "0"
  | 'b' => toString (2 * diskUnits facts)
  | 'B' => "512"
  | 'o' => toString blockSize
  | 'X' | 'Y' | 'Z' => seconds
  | '%' => "%"
  | _ => "?"

/-- A format with what is known about a file.  With `escapes`, backslashes mean
something. -/
def formatFacts (escapes : Bool) (text : Char → Octets) : (fuel : Nat) → List Char → List Char
  | 0, _ => []
  | _, [] => []
  | _, ['%'] => ['%']
  | fuel + 1, '%' :: rest =>
    let flags := rest.takeWhile fun c => c = '-' || c = '0' || c.isDigit
    match rest.drop flags.length with
    | c :: rest =>
      let shown := text c
      let width := ((String.ofList (flags.filter Char.isDigit)).toNat?).getD 0
      let blanks := List.replicate (width - shown.length) ' '
      (if flags.contains '-' then shown.toList ++ blanks else blanks ++ shown.toList) ++
        formatFacts escapes text fuel rest
    | [] => ['%']
  | fuel + 1, '\\' :: rest =>
    if escapes then
      match rest with
      | 'n' :: rest => '\n' :: formatFacts escapes text fuel rest
      | 't' :: rest => '\t' :: formatFacts escapes text fuel rest
      | c :: rest => c :: formatFacts escapes text fuel rest
      | [] => ['\\']
    else '\\' :: formatFacts escapes text fuel rest
  | fuel + 1, c :: rest => c :: formatFacts escapes text fuel rest

/-- The format that is used if none is given. -/
def usualFacts : String :=
  "  File: %N\n  Size: %-10s\tBlocks: %-10b IO Block: %-6o %F\n" ++
  "Device: 0,0\tInode: %-11i Links: %h\n" ++
  "Access: (0%a/%A)  Uid: (    0/    root)   Gid: (    0/    root)\n"

/-- `stat`: tells what is known about files. -/
def tellFacts (args : List Octets) : Act Unit := do
  let given ← given
    [.flag 'L' "dereference", .flag 'f' "file-system", .valued 'c' "format",
     .wordValued "printf", .flag 't' "terse"] args false
  if given.operands.isEmpty then failMissing
  let (format, escapes) := match given.last? ["format", "printf"] with
    | some ("format", format) => (format ++ "\n", false)
    | some (_, format) => (format, true)
    | none => (usualFacts, false)
  for path in given.operands do
    match ← listedAt path path false with
    | .error fault =>
      complain ("cannot statx " ++ Text.shellWord path ++ ": " ++ fault.words)
    | .ok entry =>
      let facts ← if given.has "dereference" then factsOf path true else pure (.ok entry.facts)
      match facts with
      | .error fault =>
        complain ("cannot statx " ++ Text.shellWord path ++ ": " ++ fault.words)
      | .ok facts =>
        print (String.ofList (formatFacts escapes (factText path entry.target facts)
          (format.length + 1) format.toList))

end HintFuzz.Utility

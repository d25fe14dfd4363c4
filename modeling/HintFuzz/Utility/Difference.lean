import HintFuzz.Utility.Options

/-!
# Differences of files

`cmp` looks for the first byte in which two files differ, and `diff` for the lines
that have to be changed so that one becomes the other.
-/

namespace HintFuzz.Utility

open Kernel (ask)

/-! ### Bytes -/

/-- A byte in octal digits. -/
def octalText (byte : UInt8) : String :=
  let digits := Nat.toDigits 8 byte.toNat
  String.ofList (List.replicate (3 - digits.length) ' ' ++ digits)

/-- The places at which bytes differ, with both bytes and with the number of the
line. -/
def differences : (place line : Nat) → List UInt8 → List UInt8 → List (Nat × Nat × UInt8 × UInt8)
  | place, line, a :: as, b :: bs =>
    let rest := differences (place + 1) (if a = 10 then line + 1 else line) as bs
    if a = b then rest else (place, line, a, b) :: rest
  | _, _, _, _ => []

/-- `cmp`: compares two files byte by byte. -/
def compareBytes (args : List Octets) : Act Unit := do
  modify fun tool => { tool with usage := tool.name ++ ": " }
  let given ← given
    [.flag 's' "quiet", .wordFlag "silent", .flag 'l' "verbose", .flag 'b' "print-bytes",
     .valued 'n' "bytes", .valued 'i' "ignore-initial"] args false
  let quiet := given.has "quiet" || given.has "silent"
  let (first, second) ← match given.operands with
    | [] => failUsage ("missing operand after " ++ Text.quotedWord (← get).name)
    | [path] => pure (path, "-")
    | first :: second :: _ => pure (first, second)
  let read (path : Octets) : Act (List UInt8) := do
    match ← contentOf path with
    | .ok bytes =>
      let bytes := bytes.data.toList.drop (((given.value? "ignore-initial").bind sizeOf?).getD 0)
      return match (given.value? "bytes").bind sizeOf? with
        | some count => bytes.take count
        | none => bytes
    | .error fault =>
      if quiet then throw 2 else fail (path ++ ": " ++ fault.words)
  let a ← read first
  let b ← read second
  let found := differences 1 1 a b
  let shorter := if a.length < b.length then some (first, a) else
    if b.length < a.length then some (second, b) else none
  if !found.isEmpty ∨ shorter.isSome then setStatus 1
  unless quiet do
    if given.has "verbose" then
      let width := (toString (if a.length ≤ b.length then a.length else b.length)).length
      for (place, _, x, y) in found do
        let digits := toString place
        printLine (String.ofList (List.replicate (width - digits.length) ' ') ++ digits ++ " " ++
          octalText x ++ " " ++ octalText y)
    match found, shorter with
    | (place, line, _, _) :: _, _ =>
      unless given.has "verbose" do
        printLine (first ++ " " ++ second ++ " differ: char " ++ toString place ++ ", line " ++
          toString line)
    | [], some (path, bytes) =>
      flush
      if bytes.isEmpty then warn ("EOF on " ++ path ++ " which is empty")
      else
        let lines := (bytes.filter (· = 10)).length
        let tail := if bytes.getLast? = some 10 then ", line " ++ toString lines
          else ", in line " ++ toString (lines + 1)
        warn ("EOF on " ++ path ++ " after byte " ++ toString bytes.length ++
          (if given.has "verbose" then "" else tail))
    | [], none => pure ()

/-! ### Lines -/

/-- For the lines of one text and each end of another one, how many lines they have in
common at the most.  The row of `a` is made of the row of what follows it. -/
def commonRow (a : Line) (below : List Nat) : List Line → List Nat
  | [] => [0]
  | b :: bs =>
    let row := commonRow a (below.drop 1) bs
    let here :=
      if a.text = b.text ∧ a.ended = b.ended then (below.drop 1).headD 0 + 1
      else
        let skipA := below.headD 0
        let skipB := row.headD 0
        if skipA ≤ skipB then skipB else skipA
    here :: row

/-- The rows of all ends of a text, the one of the whole text first. -/
def commonRows (bs : List Line) : List Line → List (List Nat)
  | [] => [bs.map (fun _ => 0) ++ [0]]
  | a :: as =>
    let rows := commonRows bs as
    commonRow a (rows.headD []) bs :: rows

/-- What is done with a line. -/
inductive LineEdit
  | keep
  | delete (line : Line)
  | insert (line : Line)

/-- The edits that make one text out of another one. -/
def editsOf : (fuel : Nat) → (rows : List (List Nat)) → List Line → List Line → List LineEdit
  | 0, _, _, _ => []
  | _, _, [], [] => []
  | _, _, as, [] => as.map .delete
  | _, _, [], bs => bs.map .insert
  | fuel + 1, rows, a :: as, b :: bs =>
    let below := rows.drop 1
    if a.text = b.text ∧ a.ended = b.ended then
      .keep :: editsOf fuel (below.map fun row => row.drop 1) as bs
    else
      let skipA := (below.headD []).headD 0
      let skipB := ((rows.headD []).drop 1).headD 0
      if skipB ≤ skipA then .delete a :: editsOf fuel below as (b :: bs)
      else .insert b :: editsOf fuel (rows.map fun row => row.drop 1) (a :: as) bs

/-- A place at which lines are replaced: how many lines are in front of it in both
texts, and the lines themselves. -/
structure Hunk where
  beforeOld : Nat
  beforeNew : Nat
  deleted : List Line
  inserted : List Line

/-- The places at which edits change something.  `pending` is the place that is being
read, with its lines in reverse. -/
def hunksOf : (pending : Option Hunk) → (old new : Nat) → List LineEdit → List Hunk
  | pending, _, _, [] => (pending.map finished).toList
  | pending, old, new, .keep :: rest =>
    (pending.map finished).toList ++ hunksOf none (old + 1) (new + 1) rest
  | pending, old, new, .delete line :: rest =>
    let hunk := pending.getD ⟨old, new, [], []⟩
    hunksOf (some { hunk with deleted := line :: hunk.deleted }) (old + 1) new rest
  | pending, old, new, .insert line :: rest =>
    let hunk := pending.getD ⟨old, new, [], []⟩
    hunksOf (some { hunk with inserted := line :: hunk.inserted }) old (new + 1) rest
where
  /-- A place with its lines in order. -/
  finished (hunk : Hunk) : Hunk :=
    { hunk with deleted := hunk.deleted.reverse, inserted := hunk.inserted.reverse }

/-- The numbers of lines at a place. -/
def rangeText (before count : Nat) : String :=
  if count = 0 then toString before
  else if count = 1 then toString (before + 1)
  else toString (before + 1) ++ "," ++ toString (before + count)

/-- A line behind a mark. -/
def markedLine (mark : String) (line : Line) : String :=
  mark ++ String.ofList line.text ++ "\n" ++
    (if line.ended then "" else "\\ No newline at end of file\n")

/-- The text of a place. -/
def Hunk.shown (hunk : Hunk) : String :=
  let letter :=
    if hunk.deleted.isEmpty then "a" else if hunk.inserted.isEmpty then "d" else "c"
  rangeText hunk.beforeOld hunk.deleted.length ++ letter ++
    rangeText hunk.beforeNew hunk.inserted.length ++ "\n" ++
    String.join (hunk.deleted.map (markedLine "< ")) ++
    (if letter = "c" then "---\n" else "") ++
    String.join (hunk.inserted.map (markedLine "> "))

/-- The lines of bytes. -/
def linesOfBytes (bytes : ByteArray) : List Line :=
  let (lines, last) := cutLines '\n' [] (Octets.charactersOf bytes) []
  lines ++ if last.isEmpty then [] else [⟨last.reverse, false⟩]

/-- `diff`: shows how the lines of two files differ. -/
def compareLines (args : List Octets) : Act Unit := do
  modify fun tool => { tool with usage := tool.name ++ ": " }
  let given ← given
    [.flag 'q' "brief", .flag 's' "report-identical-files", .flag 'a' "text",
     .wordFlag "normal", .flag 'N' "new-file"] args false
  match given.operands with
  | [] => failUsage ("missing operand after " ++ Text.quotedWord (← get).name)
  | [path] => failUsage ("missing operand after " ++ Text.quotedWord path)
  | _ :: _ :: extra :: _ => failExtra extra
  | [first, second] =>
    let pathAt (path other : Octets) : Act Octets := do
      if path ≠ "-" ∧ other ≠ "-" ∧ (← isDirectory path) ∧ !(← isDirectory other) then
        return below path (lastName other)
      else return path
    let first ← pathAt first second
    let second ← pathAt second first
    let a ← contentOf first
    let b ← contentOf second
    match a, b with
    | .ok a, .ok b =>
      if a.data.toList = b.data.toList then
        if given.has "report-identical-files" then
          printLine ("Files " ++ first ++ " and " ++ second ++ " are identical")
      else
        setStatus 1
        let isBinary := a.data.contains 0 || b.data.contains 0
        if given.has "brief" then
          printLine ("Files " ++ first ++ " and " ++ second ++ " differ")
        else if isBinary ∧ !given.has "text" then
          setStatus 2
          printLine ("Binary files " ++ first ++ " and " ++ second ++ " differ")
        else
          let old := linesOfBytes a
          let new := linesOfBytes b
          let edits := editsOf (old.length + new.length + 1) (commonRows new old) old new
          for hunk in hunksOf none 0 0 edits do print hunk.shown
    | a, b =>
      for (path, content) in [(first, a), (second, b)] do
        if let .error fault := content then complain (path ++ ": " ++ fault.words)

end HintFuzz.Utility

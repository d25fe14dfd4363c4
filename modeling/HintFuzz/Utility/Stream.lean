import HintFuzz.Utility.Options

/-!
# Streams

Utilities that pass on what they read: all of it, its start or its end, in blocks,
or to several places.
-/

namespace HintFuzz.Utility

open Files (Fault)
open Kernel (ask)

/-! ### All of the input -/

/-- How lines are shown. -/
structure ShowManner where
  numbers : Bool
  /-- Only lines that are not empty have numbers. -/
  numbersFull : Bool
  /-- Of several empty lines only one is shown. -/
  squeezes : Bool
  ends : Bool
  tabs : Bool
  /-- Characters that are not visible are shown by others. -/
  visible : Bool

/-- A character that is shown by others. -/
def shownCharacter (manner : ShowManner) (c : Char) : List Char :=
  if c = '\t' then (if manner.tabs then ['^', 'I'] else ['\t'])
  else if !manner.visible then [c]
  else
    let low (n : Nat) : List Char :=
      if n < 32 then ['^', Char.ofNat (n + 64)]
      else if n = 127 then ['^', '?']
      else [Char.ofNat n]
    if c.toNat < 128 then low c.toNat else 'M' :: '-' :: low (c.toNat - 128)

/-- Shows one line.  The state is the number of the last line, and whether it was
empty. -/
def showLine (manner : ShowManner) : Nat × Bool → Line → Act ((Nat × Bool) × Bool)
  | (number, wasEmpty), line => do
    let isEmpty := line.text.isEmpty
    if manner.squeezes ∧ isEmpty ∧ wasEmpty then return ((number, true), true)
    else
      let counts := manner.numbers && (!manner.numbersFull || !isEmpty)
      let number := if counts then number + 1 else number
      let lead :=
        if counts then
          let digits := toString number
          String.ofList (List.replicate (6 - digits.length) ' ') ++ digits ++ "\t"
        else ""
      print (lead ++ String.ofList (line.text.flatMap (shownCharacter manner)) ++
        (if line.ended then (if manner.ends then "$\n" else "\n") else ""))
      return ((number, isEmpty), true)

/-- Writes all that is read from a descriptor. -/
def pass (path : Octets) (descriptor : Nat) : (fuel : Nat) → Act Unit
  | 0 => pure ()
  | fuel + 1 => do
    match ← readSome descriptor with
    | .error fault => complain (faultMessage path fault)
    | .ok bytes =>
      unless bytes.isEmpty do
        writeBytes bytes
        if (← get).broken.isNone then pass path descriptor fuel

/-- Whether what is read is the very file that is written, with something left in
it. -/
def readsOutput (descriptor : Nat) : Act Bool := do
  match ← ask (.factsOf descriptor), ← ask (.factsOf 1) with
  | .ok source, .ok target =>
    if source.kind = .file ∧ target.kind = .file ∧ source.id = target.id then
      match ← ask (.seek descriptor .here 0) with
      | .ok offset => return offset < source.size
      | .error _ => return false
    else return false
  | _, _ => return false

/-- `cat`: writes files one after the other. -/
def concatenate (args : List Octets) : Act Unit := do
  let given ← given
    [.flag 'n' "number", .flag 'b' "number-nonblank", .flag 's' "squeeze-blank",
     .flag 'E' "show-ends", .flag 'T' "show-tabs", .flag 'A' "show-all",
     .flag 'v' "show-nonprinting", .letterFlag 'e', .letterFlag 't', .letterFlag 'u'] args false
  let all := given.has "show-all"
  let manner : ShowManner := {
    numbers := given.has "number" || given.has "number-nonblank"
    numbersFull := given.has "number-nonblank"
    squeezes := given.has "squeeze-blank"
    ends := all || given.has "show-ends" || given.has "e"
    tabs := all || given.has "show-tabs" || given.has "t"
    visible := all || given.has "show-nonprinting" || given.has "e" || given.has "t" }
  let isPlain := !(manner.numbers || manner.squeezes || manner.ends || manner.tabs ||
    manner.visible)
  if isPlain then
    let paths := pathsOf given.operands
    forPaths faultMessage (fun path descriptor => do
      if ← readsOutput descriptor then
        complain (shownPath path ++ ": input file is output file")
      else pass path descriptor Kernel.ages) paths
    let closed := paths.contains "-" && !(← ask (.factsOf 0)).isOk
    flush
    if closed then complain ("closing standard input: " ++ Fault.badDescriptor.words)
  else
    let _ ← forLines (showLine manner) (0, false) (pathsOf given.operands)

/-- Writes all that is read to several descriptors. -/
def spread (targets : List (Octets × Nat)) : (fuel : Nat) → Act Unit
  | 0 => pure ()
  | fuel + 1 => do
    match ← readSome 0 with
    | .error fault => complain ("read error: " ++ fault.words)
    | .ok bytes =>
      unless bytes.isEmpty do
        let left ← targets.filterM fun (path, target) => do
          match ← Kernel.writeAll target bytes with
          | .ok _ => return true
          | .error fault =>
            complain (faultMessage path fault)
            return false
        unless left.isEmpty do spread left fuel

/-- `tee`: writes its input to its output and to files. -/
def branchOut (args : List Octets) : Act Unit := do
  let given ← given
    [.flag 'a' "append", .flag 'i' "ignore-interrupts", .letterFlag 'p',
     ⟨none, "output-error", .may⟩] args false
  let mode : Kernel.OpenMode := if given.has "append" then .appending else .writing
  let targets ← given.operands.filterMapM fun path => do
    match ← ask (.open (atPath path) mode newFileMode) with
    | .ok descriptor => return some (path, descriptor)
    | .error fault =>
      complain (faultMessage path fault)
      return none
  spread (("standard output", 1) :: targets) Kernel.ages

/-! ### The start and the end of the input -/

/-- What is counted, and how much of it. -/
structure Extent where
  lines : Bool
  count : Nat
  /-- The sign in front of the number, if there is one. -/
  sign : Option Char

/-- The length of the front of bytes that holds so many lines, and how many lines
are missing. -/
def lineFront (bytes : ByteArray) (count : Nat) : Nat × Nat :=
  go bytes.size 0 count
where
  /-- Goes on from an offset, with so many lines missing. -/
  go : (fuel offset count : Nat) → Nat × Nat
    | 0, offset, count => (offset, count)
    | _, offset, 0 => (offset, 0)
    | fuel + 1, offset, count + 1 =>
      if Octets.byteAt bytes offset = 10 then go fuel (offset + 1) count
      else go fuel (offset + 1) (count + 1)

/-- Writes the first bytes or lines that are read. -/
def passFront (path : Octets) (descriptor : Nat) (lines : Bool) :
    (fuel count : Nat) → Act Unit
  | 0, _ => pure ()
  | _, 0 => pure ()
  | fuel + 1, count + 1 => do
    let size := if lines ∨ Kernel.readSize < count + 1 then Kernel.readSize else count + 1
    match ← ask (.read descriptor size) with
    | .error fault => complain ("error reading " ++ Text.shellWord path ++ ": " ++ fault.words)
    | .ok bytes =>
      unless bytes.isEmpty do
        if lines then
          let (length, missing) := lineFront bytes (count + 1)
          writeBytes (bytes.extract 0 length)
          if length < bytes.size then
            let _ ← ask (.seek descriptor .here ((length : Int) - bytes.size))
          if (← get).broken.isNone then passFront path descriptor lines fuel missing
        else
          writeBytes bytes
          if (← get).broken.isNone then
            passFront path descriptor lines fuel (count + 1 - bytes.size)

/-- How many line ends bytes hold. -/
def lineCount (bytes : ByteArray) : Nat :=
  bytes.foldl (fun count byte => if byte = 10 then count + 1 else count) 0

/-- The lines of bytes; the last one need not be ended. -/
def totalLines (bytes : ByteArray) : Nat :=
  lineCount bytes + if bytes.isEmpty ∨ Octets.byteAt bytes (bytes.size - 1) = 10 then 0 else 1

/-- Bytes without the first ones or the first lines. -/
def dropFront (lines : Bool) (count : Nat) (bytes : ByteArray) : ByteArray :=
  let length := if lines then (lineFront bytes count).1 else count
  bytes.extract length bytes.size

/-- The last bytes or lines. -/
def takeEnd (lines : Bool) (count : Nat) (bytes : ByteArray) : ByteArray :=
  dropFront lines ((if lines then totalLines bytes else bytes.size) - count) bytes

/-- Bytes without the last ones or the last lines. -/
def dropEnd (lines : Bool) (count : Nat) (bytes : ByteArray) : ByteArray :=
  if lines then bytes.extract 0 (lineFront bytes (totalLines bytes - count)).1
  else bytes.extract 0 (bytes.size - count)

/-- The extent that a value of an option asks for. -/
def extentOf (lines : Bool) (text : Octets) : Act Extent := do
  let (sign, digits) := match text.toList with
    | '+' :: rest => (some '+', String.ofList rest)
    | '-' :: rest => (some '-', String.ofList rest)
    | _ => (none, text)
  match if digits.toList.head?.any Char.isDigit then sizeOf? digits else none with
  | some count => return ⟨lines, count, sign⟩
  | none =>
    fail ("invalid number of " ++ (if lines then "lines" else "bytes") ++ ": " ++
      Text.quotedWord text)

/-- The arguments of a call in which an old form of an option stands, such as `-5`
or `-5c`, and with `counted`, `+5`. -/
def withoutOldForm (counted : Bool) (args : List Octets) : List Octets :=
  match args with
  | [] => []
  | first :: rest =>
    match first.toList with
    | '+' :: c :: more =>
      if counted ∧ rest.length ≤ 1 ∧ (c :: more).all Char.isDigit then
        "-n" :: String.ofList ('+' :: c :: more) :: rest
      else args
    | '-' :: c :: more =>
      if c.isDigit then
        let digits := (c :: more).takeWhile Char.isDigit
        let letters := (c :: more).drop digits.length
        let letter := if letters.contains 'c' then "-c" else "-n"
        let others := letters.filter fun c => c ≠ 'c' && c ≠ 'n' && c ≠ 'l'
        letter :: String.ofList digits ::
          (if others.isEmpty then [] else [String.ofList ('-' :: others)]) ++ rest
      else args
    | _ => args

/-- The extent that options ask for, ten lines if they ask for none. -/
def askedExtent (given : Given) : Act Extent := do
  match given.last? ["lines", "bytes"] with
  | some ("lines", text) => extentOf true text
  | some (_, text) => extentOf false text
  | none => return ⟨true, 10, none⟩

/-- Goes through several paths with a header in front of each, if there is more than
one path or if that is asked for. -/
def forHeaded (given : Given) (action : Octets → Nat → Act Unit) : Act Unit := do
  let paths := pathsOf given.operands
  let headed := match given.last? ["quiet", "silent", "verbose"] with
    | some ("verbose", _) => true
    | some _ => false
    | none => 1 < paths.length
  let rec visit (first : Bool) : List Octets → Act Unit
    | [] => pure ()
    | path :: rest => do
      let descriptor ← if path = "-" then pure (.ok 0) else ask (.open (atPath path) .reading 0)
      match descriptor with
      | .error fault =>
        complain ("cannot open " ++ Text.shellWord path ++ " for reading: " ++ fault.words)
        visit first rest
      | .ok descriptor =>
        if headed then
          let name := if path = "-" then "standard input" else path
          print ((if first then "" else "\n") ++ "==> " ++ name ++ " <==\n")
        action path descriptor
        unless path = "-" do
          let _ ← ask (.close descriptor)
        visit false rest
  visit true paths

/-- Reads all of a descriptor, or complains. -/
def readWhole (path : Octets) (descriptor : Nat) : Act (Option ByteArray) := do
  match ← Kernel.readAll descriptor with
  | .ok bytes => return some bytes
  | .error fault =>
    complain ("error reading " ++ Text.shellWord (if path = "-" then "standard input" else path) ++
      ": " ++ fault.words)
    return none

/-- The options for parts of the input. -/
def partOptions : List OptionSpec :=
  [.valued 'n' "lines", .valued 'c' "bytes", .flag 'q' "quiet", .wordFlag "silent",
   .flag 'v' "verbose", .flag 'z' "zero-terminated"]

/-- `head`: writes the start of files. -/
def head (args : List Octets) : Act Unit := do
  let given ← given partOptions (withoutOldForm false args) false
  let extent ← askedExtent given
  forHeaded given fun path descriptor => do
    if extent.sign = some '-' then
      if let some bytes ← readWhole path descriptor then
        writeBytes (dropEnd extent.lines extent.count bytes)
    else passFront path descriptor extent.lines Kernel.ages extent.count

/-- `tail`: writes the end of files. -/
def tail (args : List Octets) : Act Unit := do
  let given ← given (partOptions ++
    [⟨some 'f', "follow", .may⟩, .letterFlag 'F', .wordFlag "retry", .wordValued "pid",
     .valued 's' "sleep-interval"]) (withoutOldForm true args) false
  let extent ← askedExtent given
  forHeaded given fun path descriptor => do
    if let some bytes ← readWhole path descriptor then
      if extent.sign = some '+' then
        writeBytes (dropFront extent.lines (extent.count - 1) bytes)
      else writeBytes (takeEnd extent.lines extent.count bytes)
  if given.has "follow" ∨ given.has "F" then
    flush
    let now ← ask .clock
    ask (.sleep (now + Kernel.ages * 1000000))

/-! ### Endless output -/

/-- Writes a text again and again, as long as somebody reads it. -/
def writeOnAndOn (bytes : ByteArray) : (fuel : Nat) → Act Unit
  | 0 => pure ()
  | fuel + 1 => do
    match ← Kernel.writeAll 1 bytes with
    | .ok _ => writeOnAndOn bytes fuel
    | .error fault => modify fun tool => { tool with broken := some fault }

/-- `yes`: writes a line without end. -/
def affirm (args : List Octets) : Act Unit := do
  let given ← given [] args true
  let words := given.operands
  let line := (if words.isEmpty then "y" else String.intercalate " " words) ++ "\n"
  let times := gatherSize / line.length + 1
  writeOnAndOn (Octets.toBytes (String.join (List.replicate times line))) Kernel.ages

/-! ### Blocks -/

/-- The operands of `dd`. -/
structure BlockCall where
  input : Option Octets
  output : Option Octets
  inputSize : Nat
  outputSize : Nat
  count : Option Nat
  skip : Nat
  seek : Nat
  conversions : List Octets
  inputFlags : List Octets
  outputFlags : List Octets
  status : Octets

/-- The product of sizes with an `x` between them. -/
def productOf? (text : Octets) : Option Nat :=
  let size? (factor : List Char) : Option Nat :=
    if factor.head?.any Char.isDigit then sizeOf? (String.ofList factor) else none
  ((Text.stretches 'x' text.toList).mapM size?).map fun sizes => sizes.foldl (· * ·) 1

/-- The words of a list with commas. -/
def wordsOf (text : Octets) : List Octets :=
  (Text.stretches ',' text.toList).map String.ofList

/-- Reads one operand of `dd`. -/
def blockOperand (call : BlockCall) (arg : Octets) : Act BlockCall := do
  let key := String.ofList (arg.toList.takeWhile (· ≠ '='))
  let value := String.ofList ((arg.toList.dropWhile (· ≠ '=')).drop 1)
  let number : Act Nat := do
    match productOf? value with
    | some number => return number
    | none => fail ("invalid number: " ++ Text.quotedWord value)
  let size : Act Nat := do
    let size ← number
    if size = 0 then fail ("invalid number: " ++ Text.quotedWord value) else return size
  match key with
  | "if" => return { call with input := some value }
  | "of" => return { call with output := some value }
  | "bs" =>
    let size ← size
    return { call with inputSize := size, outputSize := size }
  | "ibs" => return { call with inputSize := ← size }
  | "obs" => return { call with outputSize := ← size }
  | "count" => return { call with count := some (← number) }
  | "skip" | "iseek" => return { call with skip := ← number }
  | "seek" | "oseek" => return { call with seek := ← number }
  | "conv" => return { call with conversions := wordsOf value }
  | "iflag" => return { call with inputFlags := wordsOf value }
  | "oflag" => return { call with outputFlags := wordsOf value }
  | "status" => return { call with status := value }
  | "cbs" => return call
  | _ => failUsage ("unrecognized operand " ++ Text.quotedWord arg)

/-- What was copied so far. -/
structure BlockCount where
  fullIn : Nat
  partIn : Nat
  fullOut : Nat
  partOut : Nat
  bytes : Nat

/-- A block after the conversions that change its bytes. -/
def convertBlock (conversions : List Octets) (size : Nat) (bytes : ByteArray) : ByteArray :=
  let bytes :=
    if conversions.contains "sync" ∧ bytes.size < size then
      bytes ++ ⟨Array.replicate (size - bytes.size) 0⟩
    else bytes
  let isLower (byte : UInt8) : Bool := 97 ≤ byte && byte ≤ 122
  let isUpper (byte : UInt8) : Bool := 65 ≤ byte && byte ≤ 90
  if conversions.contains "ucase" then
    ⟨bytes.data.map fun byte => if isLower byte then byte - 32 else byte⟩
  else if conversions.contains "lcase" then
    ⟨bytes.data.map fun byte => if isUpper byte then byte + 32 else byte⟩
  else if conversions.contains "swab" then
    ⟨(Array.range bytes.size).map fun index =>
      let other := if index % 2 = 0 then index + 1 else index - 1
      if other < bytes.size then Octets.byteAt bytes other else Octets.byteAt bytes index⟩
  else bytes

/-- Copies blocks.  `full` blocks are read in several steps if need be. -/
def copyBlocks (call : BlockCall) (limit : Option Nat) :
    (fuel : Nat) → BlockCount → (carry : ByteArray) → Act BlockCount
  | 0, count, _ => return count
  | fuel + 1, count, carry => do
    let inBytes := call.inputFlags.contains "count_bytes"
    let done : Bool := match limit with
      | some limit =>
        if inBytes then limit ≤ count.bytes + carry.size else limit ≤ count.fullIn + count.partIn
      | none => false
    let writeOut (count : BlockCount) (bytes : ByteArray) (full : Bool) :
        Act (BlockCount × Bool) := do
      match ← Kernel.writeAll 1 bytes with
      | .ok _ =>
        return ({ count with
          fullOut := if full then count.fullOut + 1 else count.fullOut
          partOut := if full then count.partOut else count.partOut + 1
          bytes := count.bytes + bytes.size }, true)
      | .error fault =>
        complain ("error writing " ++ Text.shellWord (call.output.getD "standard output") ++ ": " ++
          fault.words)
        return (count, false)
    let finish (count : BlockCount) : Act BlockCount := do
      if carry.isEmpty then return count else return (← writeOut count carry false).1
    if done then finish count
    else
      let wanted := match limit, inBytes with
        | some limit, true =>
          let left := limit - (count.bytes + carry.size)
          if left < call.inputSize then left else call.inputSize
        | _, _ => call.inputSize
      match ← readBlock wanted (if call.inputFlags.contains "fullblock" then Kernel.ages else 1)
          .empty with
      | .error fault =>
        complain ("error reading " ++ Text.shellWord (call.input.getD "standard input") ++ ": " ++
          fault.words)
        finish count
      | .ok bytes =>
        if bytes.isEmpty then finish count
        else
          let full := bytes.size = call.inputSize
          let count :=
            if full then { count with fullIn := count.fullIn + 1 }
            else { count with partIn := count.partIn + 1 }
          let bytes := convertBlock call.conversions call.inputSize bytes
          if call.inputSize = call.outputSize then
            match ← writeOut count bytes (bytes.size = call.outputSize) with
            | (count, true) => copyBlocks call limit fuel count carry
            | (count, false) => return count
          else
            match ← writeFull writeOut (bytes.size + carry.size) count (carry ++ bytes) with
            | (count, carry, true) => copyBlocks call limit fuel count carry
            | (count, _, false) => return count
where
  /-- Reads a block, in several steps if need be. -/
  readBlock (size : Nat) : (fuel : Nat) → ByteArray → Act (Except Fault ByteArray)
    | 0, before => return .ok before
    | fuel + 1, before => do
      match ← ask (.read 0 (size - before.size)) with
      | .error fault => return .error fault
      | .ok bytes =>
        let whole := before ++ bytes
        if bytes.isEmpty ∨ size ≤ whole.size then return .ok whole
        else readBlock size fuel whole
  /-- Writes all full blocks and keeps the rest. -/
  writeFull (writeOut : BlockCount → ByteArray → Bool → Act (BlockCount × Bool)) :
      (fuel : Nat) → BlockCount → ByteArray → Act (BlockCount × ByteArray × Bool)
    | 0, count, bytes => return (count, bytes, true)
    | fuel + 1, count, bytes => do
      if bytes.size < call.outputSize then return (count, bytes, true)
      else
        match ← writeOut count (bytes.extract 0 call.outputSize) true with
        | (count, true) => writeFull writeOut fuel count (bytes.extract call.outputSize bytes.size)
        | (count, false) => return (count, bytes, false)

/-- A size with units, in two ways. -/
def sizeWords (bytes : Nat) : String :=
  let scaled (base : Nat) (units : List String) : Option String :=
    let rec find (power : Nat) : List String → Option String
      | [] => none
      | unit :: rest =>
        if bytes < power * base ∨ rest.isEmpty then
          let tenths := (bytes * 10 + power / 2) / power
          some (if tenths < 100 then s!"{tenths / 10}.{tenths % 10} {unit}"
            else s!"{(bytes + power / 2) / power} {unit}")
        else find (power * base) rest
    find base units
  let decimal := if bytes < 1000 then none else scaled 1000 ["kB", "MB", "GB", "TB"]
  let binary := if bytes < 1024 then none else scaled 1024 ["KiB", "MiB", "GiB", "TiB"]
  let plain := toString bytes ++ if bytes = 1 then " byte" else " bytes"
  match decimal, binary with
  | some decimal, some binary => s!"{plain} ({decimal}, {binary})"
  | some decimal, none => s!"{plain} ({decimal})"
  | _, _ => plain

/-- `dd`: copies blocks. -/
def copyByBlocks (args : List Octets) : Act Unit := do
  let given ← given [] args false
  let call ← given.operands.foldlM blockOperand
    ⟨none, none, 512, 512, none, 0, 0, [], [], [], ""⟩
  let opened ← match call.input with
    | none => pure (Except.ok ())
    | some path =>
      match ← ask (.open (atPath path) .reading 0) with
      | .error fault => pure (.error (path, fault))
      | .ok descriptor =>
        let _ ← ask (.duplicate descriptor 0)
        let _ ← ask (.close descriptor)
        pure (.ok ())
  if let .error (path, fault) := opened then
    fail ("failed to open " ++ Text.shellWord path ++ ": " ++ fault.words)
  if let some path := call.output then
    let keeps := call.conversions.contains "notrunc" || call.seek ≠ 0
    let mode : Kernel.OpenMode :=
      { Kernel.OpenMode.writing with
        truncates := !keeps
        appends := call.outputFlags.contains "append"
        creates := !call.conversions.contains "nocreat"
        exclusive := call.conversions.contains "excl" }
    match ← ask (.open (atPath path) mode newFileMode) with
    | .error fault => fail ("failed to open " ++ Text.shellWord path ++ ": " ++ fault.words)
    | .ok descriptor =>
      let _ ← ask (.duplicate descriptor 1)
      let _ ← ask (.close descriptor)
  let start := call.seek * if call.outputFlags.contains "seek_bytes" then 1 else call.outputSize
  if start ≠ 0 then
    if !call.conversions.contains "notrunc" then
      let _ ← ask (.resize 1 start)
    let _ ← ask (.seek 1 .start start)
  if call.skip ≠ 0 then
    let skipped := call.skip * if call.inputFlags.contains "skip_bytes" then 1 else call.inputSize
    match ← ask (.seek 0 .here skipped) with
    | .ok _ => pure ()
    | .error _ => skipInput skipped Kernel.ages
  let count ← copyBlocks call call.count Kernel.ages ⟨0, 0, 0, 0, 0⟩ .empty
  unless call.status = "none" do
    printError (s!"{count.fullIn}+{count.partIn} records in\n" ++
      s!"{count.fullOut}+{count.partOut} records out\n")
    unless call.status = "noxfer" do
      printError (sizeWords count.bytes ++ " copied, 0.000104209 s, " ++
        s!"{count.bytes / 104 + 1}.0 MB/s\n")
where
  /-- Reads some bytes that nobody wants. -/
  skipInput (size : Nat) : (fuel : Nat) → Act Unit
    | 0 => pure ()
    | fuel + 1 => do
      unless size = 0 do
        match ← ask (.read 0 size) with
        | .error _ => pure ()
        | .ok bytes => unless bytes.isEmpty do skipInput (size - bytes.size) fuel

end HintFuzz.Utility

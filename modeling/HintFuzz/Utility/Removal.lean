import HintFuzz.Files.Permission
import HintFuzz.Utility.Copy
import HintFuzz.Utility.Date

/-!
# Making and removing files

Directories, files and pipes are made, given modes and times, cut to sizes and
removed.
-/

namespace HintFuzz.Utility

open Files (Fault PermissionSpec)
open Kernel (ask)

/-! ### Removing -/

/-- How files are removed. -/
structure RemovalManner where
  recursive : Bool
  /-- Empty directories are removed too. -/
  directories : Bool
  /-- What is not there is not missed. -/
  forced : Bool
  /-- It is asked before anything is removed. -/
  asks : Bool
  verbose : Bool

/-- The words for a node that is asked about. -/
def kindQuestion (facts : Kernel.Facts) : Octets :=
  match facts.kind with
  | .file => if facts.size = 0 then "regular empty file" else "regular file"
  | .directory => "directory"
  | .link => "symbolic link"
  | .device => "character special file"
  | .channel => "fifo"

/-- Removes what a path leads to, and tells whether that could be done. -/
def removePath (manner : RemovalManner) : (fuel : Nat) → Octets → Act Bool
  | 0, _ => return true
  | fuel + 1, path => do
    let failed (fault : Fault) : Act Bool := do
      if manner.forced ∧ (fault = .notFound ∨ fault = .notDirectory) then return true
      else
        complain ("cannot remove " ++ always path ++ ": " ++ fault.words)
        return false
    match ← factsOf path false with
    | .error fault => failed fault
    | .ok facts =>
      if facts.kind = .directory then
        if !manner.recursive ∧ !manner.directories then failed .isDirectory
        else
          let isEmpty : Bool := match ← ask (.list (atPath path)) with
            | .ok names => names.isEmpty
            | .error _ => true
          let opens ← if manner.recursive ∧ !isEmpty then
              agrees ("descend into directory " ++ always path)
            else pure true
          let emptied ←
            if !opens then pure false
            else if manner.recursive then
              match ← ask (.list (atPath path)) with
              | .error _ => pure true
              | .ok names =>
                names.foldlM (fun done name => do
                  let removed ← removePath manner fuel (below path (Octets.ofText name))
                  return done && removed) true
            else pure true
          if !emptied then return false
          else if !(← agrees ("remove directory " ++ always path)) then return true
          else
            match ← ask (.removeDirectory (atPath path)) with
            | .error fault => failed fault
            | .ok _ =>
              if manner.verbose then printLine ("removed directory " ++ always path)
              return true
      else if !(← agrees ("remove " ++ kindQuestion facts ++ " " ++ always path)) then
        return true
      else
        match ← ask (.remove (atPath path)) with
        | .error fault => failed fault
        | .ok _ =>
          if manner.verbose then printLine ("removed " ++ always path)
          return true
where
  /-- Asks if it has to be asked. -/
  agrees (question : Octets) : Act Bool :=
    if manner.asks then confirm question else return true

/-- Removes every operand. -/
def removeAll (manner : RemovalManner) : List Octets → Act Unit
  | [] => pure ()
  | path :: rest => do
    if manner.recursive ∧ [".", ".."].contains (lastName path) then
      complain ("refusing to remove '.' or '..' directory: skipping " ++ always path)
    else if manner.recursive ∧ withoutSlashes path = "/" then
      complain ("it is dangerous to operate recursively on '/'")
      warn "use --no-preserve-root to override this failsafe"
    else
      let _ ← removePath manner Kernel.ages path
    removeAll manner rest

/-- `rm`: removes files. -/
def remove (args : List Octets) : Act Unit := do
  let given ← given
    [.flag 'r' "recursive", .letterFlag 'R', .flag 'f' "force", .flag 'd' "dir",
     .flag 'v' "verbose", .letterFlag 'i', .letterFlag 'I', ⟨none, "interactive", .may⟩,
     .wordFlag "one-file-system", .wordFlag "no-preserve-root", ⟨none, "preserve-root", .may⟩]
    args false
  let forced := given.has "force"
  if given.operands.isEmpty then
    if forced then pure () else failMissing
  else
    let recursive := given.has "recursive" || given.has "R"
    let care := given.last? ["i", "I", "interactive", "force"]
    let isOnce := care = some ("I", "") || care = some ("interactive", "once")
    let isNever := care = some ("force", "") || care = some ("interactive", "never")
    let count := given.operands.length
    let goesOn ← if isOnce ∧ (recursive ∨ 3 < count) then
        confirm ("remove " ++ toString count ++ " argument" ++ (if count = 1 then "" else "s") ++
          (if recursive then " recursively" else ""))
      else pure true
    if goesOn then
      removeAll {
        recursive
        directories := given.has "dir"
        forced
        asks := care.isSome && !isOnce && !isNever
        verbose := given.has "verbose" } given.operands

/-- `unlink`: removes one file. -/
def unlink (args : List Octets) : Act Unit := do
  let given ← given [] args false
  match given.operands with
  | [] => failMissing
  | [path] =>
    if let .error fault := ← ask (.remove (atPath path)) then
      complain ("cannot unlink " ++ always path ++ ": " ++ fault.words)
  | _ :: extra :: _ => failExtra extra

/-- Removes an empty directory, and the ones above it if `parents`. -/
def removeDirectories (parents : Bool) (verbose quiet : Bool) :
    (fuel : Nat) → Octets → Act Unit
  | 0, _ => pure ()
  | fuel + 1, path => do
    if verbose then printLine ("rmdir: removing directory, " ++ always path)
    match ← ask (.removeDirectory (atPath path)) with
    | .error fault =>
      unless quiet ∧ fault = .notEmpty do
        complain ("failed to remove " ++ always path ++ ": " ++ fault.words)
    | .ok _ =>
      let above := directoryName path
      if parents ∧ above ≠ "." ∧ above ≠ "/" then
        removeDirectories parents verbose quiet fuel above

/-- `rmdir`: removes empty directories. -/
def removeEmpty (args : List Octets) : Act Unit := do
  let given ← given
    [.flag 'p' "parents", .flag 'v' "verbose", .wordFlag "ignore-fail-on-non-empty"] args false
  if given.operands.isEmpty then failMissing
  else
    for path in given.operands do
      removeDirectories (given.has "parents") (given.has "verbose")
        (given.has "ignore-fail-on-non-empty") (path.length + 1) path

/-! ### Making -/

/-- The modes that an option asks for, if it is given. -/
def modeOption (given : Given) (usual : Nat) : Act (Option Nat) := do
  match given.value? "mode" with
  | none => return none
  | some text =>
    match PermissionSpec.ofText? text with
    | none => fail ("invalid mode " ++ Text.quotedWord text)
    | some spec => return some (spec.apply (← ask (.mask none)) usual true &&& 0o7777)

/-- Makes a directory.  With `parents`, it may be there before; what is in the way of a
directory further below is no directory. -/
def makeOne (parents further verbose : Bool) (mode : Option Nat) (path : Octets) : Act Bool := do
  match ← ask (.makeDirectory (atPath path) 0o777) with
  | .ok _ =>
    if let some mode := mode then
      let _ ← ask (.setMode (atPath path) mode)
    if verbose then printLine ("mkdir: created directory " ++ always path)
    return true
  | .error fault =>
    if parents ∧ (← isDirectory path) then return true
    else
      let fault := if further ∧ fault = .occupied then .notDirectory else fault
      complain ("cannot create directory " ++ always path ++ ": " ++ fault.words)
      return false

/-- Makes the directories above a path, one after the other. -/
def makeAbove (verbose : Bool) : List Octets → Act Bool
  | [] => return true
  | path :: rest => do
    if path.isEmpty ∨ (← isDirectory path) then makeAbove verbose rest
    else if ← makeOne true true verbose none path then makeAbove verbose rest
    else return false

/-- `mkdir`: makes directories. -/
def makeDirectories (args : List Octets) : Act Unit := do
  let given ← given [.flag 'p' "parents", .flag 'v' "verbose", .valued 'm' "mode"] args false
  if given.operands.isEmpty then failMissing
  else
    let mode ← modeOption given 0o777
    let parents := given.has "parents"
    for path in given.operands do
      let ready ← if parents then makeAbove (given.has "verbose") (pathsAbove path) else pure true
      if ready then
        let _ ← makeOne parents false (given.has "verbose") mode path

/-- `mkfifo`: makes pipes that have paths. -/
def makeChannels (args : List Octets) : Act Unit := do
  let given ← given [.valued 'm' "mode"] args false
  if given.operands.isEmpty then failMissing
  else
    let mode ← modeOption given 0o666
    for path in given.operands do
      match ← ask (.makeChannel (atPath path) (mode.getD 0o666)) with
      | .ok _ => pure ()
      | .error fault => complain ("cannot create fifo " ++ always path ++ ": " ++ fault.words)

/-- `touch`: makes files, or says that they have changed. -/
def touch (args : List Octets) : Act Unit := do
  let given ← given
    [.flag 'c' "no-create", .letterFlag 'a', .letterFlag 'm', .valued 'd' "date",
     .valued 'r' "reference", .letterValued 't', .flag 'h' "no-dereference", .letterFlag 'f',
     .wordValued "time"] args false
  if given.operands.isEmpty then failUsage "missing file operand"
  else
    let now := (← ask .clock) / secondLength
    let ofSeconds (seconds : Int) : Nat := seconds.toNat * secondLength
    let time ← match given.last? ["reference", "date", "t"] with
      | none => pure none
      | some ("reference", path) =>
        match ← factsOf path true with
        | .ok facts => pure (some facts.modified)
        | .error fault =>
          fail ("failed to get attributes of " ++ always path ++ ": " ++ fault.words)
      | some (key, text) =>
        let seconds? := if key = "t" then
            (readStamp? (Calendar.ofSeconds now) text).map Calendar.seconds
          else readDate? now text
        match seconds? with
        | some seconds => pure (some (ofSeconds seconds))
        | none => fail ("invalid date format " ++ Text.quotedWord text)
    for path in given.operands do
      let failed (fault : Fault) : Act Unit :=
        complain ("cannot touch " ++ always path ++ ": " ++ fault.words)
      match ← factsOf path true with
      | .ok _ =>
        if let .error fault := ← ask (.setTime (atPath path) true time) then failed fault
      | .error missing =>
        unless given.has "no-create" do
          match ← ask (.open (atPath path)
              { Kernel.OpenMode.writing with truncates := false } newFileMode) with
          | .ok descriptor =>
            let _ ← ask (.close descriptor)
            let _ ← ask (.setTime (atPath path) true time)
          | .error fault => failed (if fault = .isDirectory then missing else fault)

/-- `mktemp`: makes a file or a directory with a name of its own. -/
def makeTemporary (args : List Octets) : Act Unit := do
  let given ← given
    [.flag 'd' "directory", .flag 'u' "dry-run", .flag 'q' "quiet", .letterFlag 't',
     .letterValued 'p', ⟨none, "tmpdir", .may⟩, .wordValued "suffix"] args false
  match given.operands with
  | _ :: _ :: _ => failUsage "too many templates"
  | operands =>
    let template := operands.headD "tmp.XXXXXXXXXX"
    let backward := template.toList.reverse
    let behind := if given.has "suffix" then [] else backward.takeWhile (· ≠ 'X')
    let marks := (backward.drop behind.length).takeWhile (· = 'X')
    if marks.length < 3 then fail ("too few X's in template " ++ Text.quotedWord template)
    else
      let number := (← ask .clock) / 7 + (← ask .self)
      let letters := (List.range marks.length).map fun index =>
        Char.ofNat (97 + (number / (index + 1) + index * 7) % 26)
      let front := (backward.drop (behind.length + marks.length)).reverse
      let ending := behind.reverse ++ ((given.value? "suffix").getD "").toList
      let directory := (given.last? ["p", "tmpdir"]).map fun option =>
        if option.2 = "" then "/tmp" else option.2
      let directory := directory.orElse fun _ =>
        if operands.isEmpty || given.has "t" then some "/tmp" else none
      let place (name : Octets) : Octets := match directory with
        | some directory => below directory name
        | none => name
      let path := place (String.ofList (front ++ letters ++ ending))
      let kind := if given.has "directory" then "directory" else "file"
      let made ←
        if given.has "dry-run" then pure (.ok ())
        else if given.has "directory" then ask (.makeDirectory (atPath path) 0o700)
        else
          match ← ask (.open (atPath path)
              { Kernel.OpenMode.writing with exclusive := true } 0o600) with
          | .ok descriptor => ask (.close descriptor)
          | .error fault => pure (.error fault)
      match made with
      | .ok _ => printLine path
      | .error fault =>
        if given.has "quiet" then throw 1
        else
          fail ("failed to create " ++ kind ++ " via template " ++
            Text.quotedWord (place (String.ofList (front ++ marks ++ ending))) ++ ": " ++
            fault.words)

/-! ### Modes and sizes -/

/-- Changes the mode of what a path leads to, and of all below it if `recursive`. -/
def changeModes (spec : PermissionSpec) (masked : Nat) (recursive verbose changes quiet : Bool) :
    (fuel : Nat) → Octets → Act Unit
  | 0, _ => pure ()
  | fuel + 1, path => do
    match ← factsOf path true with
    | .error fault =>
      if !quiet then complain ("cannot access " ++ always path ++ ": " ++ fault.words)
      else setStatus 1
    | .ok facts =>
      let mode := spec.apply masked (facts.mode &&& 0o7777) (facts.kind = .directory)
      let _ ← ask (.setMode (atPath path) mode)
      let before := facts.mode &&& 0o7777
      let shown (mode : Nat) : String :=
        let digits := Nat.toDigits 8 mode
        String.ofList (List.replicate (4 - digits.length) '0' ++ digits ++ [' ', '('] ++
          PermissionSpec.modeLetters mode ++ [')'])
      if mode ≠ before ∧ (verbose ∨ changes) then
        printLine ("mode of " ++ always path ++ " changed from " ++ shown before ++ " to " ++
          shown mode)
      else if verbose then
        printLine ("mode of " ++ always path ++ " retained as " ++ shown mode)
      if recursive ∧ facts.kind = .directory then
        if let .ok names := ← ask (.list (atPath path)) then
          for name in names do
            let inner := below path (Octets.ofText name)
            changeModes spec masked recursive verbose changes quiet fuel inner

/-- Whether an argument takes permissions away although it looks like options. -/
def isRemovalMode (arg : Octets) : Bool :=
  match arg.toList with
  | ['-', '-'] => false
  | '-' :: c :: rest => (c :: rest).all fun c => "rwxXstugoa,+-=".toList.contains c
  | _ => false

/-- `chmod`: changes modes. -/
def setModes (args : List Octets) : Act Unit := do
  let (removals, others) := args.partition isRemovalMode
  let given ← given
    [.flag 'R' "recursive", .flag 'v' "verbose", .flag 'c' "changes", .flag 'f' "silent",
     .wordFlag "quiet", .wordValued "reference", .wordFlag "preserve-root"] others false
  let reference ← match given.value? "reference" with
    | none => pure none
    | some path =>
      match ← factsOf path true with
      | .ok facts => pure (some (String.ofList (Nat.toDigits 8 (facts.mode &&& 0o7777))))
      | .error fault =>
        fail ("failed to get attributes of " ++ always path ++ ": " ++ fault.words)
  let (mode?, paths) := match reference, removals, given.operands with
    | some mode, _, paths => (some mode, paths)
    | none, [], [] => (none, [])
    | none, [], mode :: paths => (some mode, paths)
    | none, removals, paths => (some (String.intercalate "," removals), paths)
  match mode?, paths with
  | none, _ => failMissing
  | some mode, [] => failUsage ("missing operand after " ++ Text.quotedWord mode)
  | some mode, paths =>
    match PermissionSpec.ofText? mode with
    | none => failUsage ("invalid mode: " ++ Text.quotedWord mode)
    | some spec =>
      let masked ← ask (.mask none)
      for path in paths do
        changeModes spec masked (given.has "recursive") (given.has "verbose")
          (given.has "changes") (given.has "silent" || given.has "quiet") Kernel.ages path

/-- The size that a text asks for, given the one there is. -/
def sizeAsked? (text : Octets) (now : Nat) : Option Nat :=
  let sized (rest : List Char) : Option Nat := sizeOf? (String.ofList rest)
  match text.toList with
  | '+' :: rest => (sized rest).map (now + ·)
  | '-' :: rest => (sized rest).map (now - ·)
  | '<' :: rest => (sized rest).map fun size => if size < now then size else now
  | '>' :: rest => (sized rest).map fun size => if now < size then size else now
  | '/' :: rest => (sized rest).map fun size => now / size * size
  | '%' :: rest => (sized rest).map fun size => (now + size - 1) / size * size
  | rest => sized rest

/-- `truncate`: cuts files to a size, or fills them up to it. -/
def cutToSize (args : List Octets) : Act Unit := do
  let given ← given
    [.valued 's' "size", .flag 'c' "no-create", .valued 'r' "reference", .flag 'o' "io-blocks"]
    args false
  let reference ← match given.value? "reference" with
    | none => pure none
    | some path =>
      match ← factsOf path true with
      | .ok facts => pure (some facts.size)
      | .error fault => fail ("cannot stat " ++ always path ++ ": " ++ fault.words)
  match given.value? "size", reference with
  | none, none => failUsage "you must specify either '--size' or '--reference'"
  | size, reference =>
    if (sizeAsked? (size.getD "0") 0).isNone then
      fail ("Invalid number: " ++ Text.quotedWord (size.getD ""))
    else if given.operands.isEmpty then failUsage "missing file operand"
    else
      for path in given.operands do
        let opened ← ask (.open (atPath path)
          { Kernel.OpenMode.writing with
            truncates := false, creates := !given.has "no-create" } newFileMode)
        match opened with
        | .error fault =>
          unless given.has "no-create" ∧ fault = .notFound do
            complain ("cannot open " ++ always path ++ " for writing: " ++ fault.words)
        | .ok descriptor =>
          let now := match ← ask (.factsOf descriptor) with
            | .ok facts => facts.size
            | .error _ => 0
          let base := reference.getD now
          let target := match size with
            | none => base
            | some text => (sizeAsked? text base).getD 0
          let _ ← ask (.resize descriptor target)
          let _ ← ask (.close descriptor)

end HintFuzz.Utility

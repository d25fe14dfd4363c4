import HintFuzz.Utility.Options

/-!
# Copying and moving files

Files and whole directories are copied, moved and linked.  The last operand is the
target: a directory that the others go into, or a name for the only other one.
-/

namespace HintFuzz.Utility

open Files (Fault)
open Kernel (ask)

/-- A path as messages always quote it. -/
def always (path : Octets) : Octets := Text.shellWord path

/-! ### Targets -/

/-- Where the operands of a call go. -/
inductive Destination
  | inside (directory : Octets)
  | named (path : Octets)

/-- The sources and the destination of a call. -/
def destinationOf (given : Given) : Act (List Octets × Destination) := do
  match given.value? "target-directory", given.operands with
  | some directory, operands =>
    if operands.isEmpty then failUsage "missing file operand"
    else if ← isDirectory directory then return (operands, .inside directory)
    else
      let fault := match ← factsOf directory true with
        | .error fault => fault
        | .ok _ => .notDirectory
      fail ("target directory " ++ always directory ++ ": " ++ fault.words)
  | none, [] => failUsage "missing file operand"
  | none, [only] =>
    failUsage ("missing destination file operand after " ++ always only)
  | none, operands =>
    let target := operands.getLast?.getD ""
    let sources := operands.dropLast
    if given.has "no-target-directory" then
      if 1 < sources.length then
        failUsage ("extra operand " ++ always (operands.drop 2 |>.headD ""))
      else return (sources, .named target)
    else if ← isDirectory target then return (sources, .inside target)
    else if 1 < sources.length then
      let fault := match ← factsOf target true with
        | .error fault => fault
        | .ok _ => .notDirectory
      fail ("target " ++ always target ++ ": " ++ fault.words)
    else return (sources, .named target)

/-- The path at which a source arrives. -/
def Destination.pathFor (source : Octets) : Destination → Octets
  | inside directory => below directory (lastName source)
  | named path => path

/-! ### Copying -/

/-- How files are copied. -/
structure CopyManner where
  recursive : Bool
  /-- Links are copied as links. -/
  keepsLinks : Bool
  /-- Modes are kept as they are. -/
  keepsModes : Bool
  keepsTimes : Bool
  /-- What stands in the way is removed if it cannot be opened. -/
  forced : Bool
  /-- Nothing is written over. -/
  careful : Bool
  /-- It is asked before something is written over. -/
  asks : Bool
  /-- What is behind the name of a file that is kept when it would be written over. -/
  keeps : Option Octets
  /-- Only older files are written over. -/
  updates : Bool
  verbose : Bool
  /-- Links are made in place of copies. -/
  links : Option Bool
  /-- The operand that is being copied, and where it goes. -/
  outer : Octets × Octets

/-- Writes all that is read from one descriptor to another one. -/
def pour (source target : Nat) : (fuel : Nat) → Act (Except (Bool × Fault) Unit)
  | 0 => return .ok ()
  | fuel + 1 => do
    match ← readSome source with
    | .error fault => return .error (true, fault)
    | .ok bytes =>
      if bytes.isEmpty then return .ok ()
      else
        match ← Kernel.writeAll target bytes with
        | .error fault => return .error (false, fault)
        | .ok _ => pour source target fuel

/-- Copies the content of a file. -/
def copyContent (manner : CopyManner) (source target : Octets) (mode : Nat) (existing : Bool) :
    Act Bool := do
  match ← ask (.open (atPath source) .reading 0) with
  | .error fault =>
    complain ("cannot open " ++ always source ++ " for reading: " ++ fault.words)
    return false
  | .ok reader =>
    let openMode : Kernel.OpenMode :=
      if existing then { Kernel.OpenMode.writing with creates := false }
      else { Kernel.OpenMode.writing with exclusive := true, truncates := false }
    let first ← ask (.open (atPath target) openMode mode)
    let opened ← match first, existing && manner.forced with
      | .error _, true =>
        let _ ← ask (.remove (atPath target))
        ask (.open (atPath target)
          { Kernel.OpenMode.writing with exclusive := true, truncates := false } mode)
      | result, _ => pure result
    let copied ← match opened with
      | .error fault =>
        let dangling := fault = .occupied && !existing
        complain <| if dangling then "not writing through dangling symlink " ++ always target
          else
            let fault := if fault = .isDirectory then .notDirectory else fault
            "cannot create regular file " ++ always target ++ ": " ++ fault.words
        pure false
      | .ok writer =>
        let outcome ← pour reader writer Kernel.ages
        let _ ← ask (.close writer)
        match outcome with
        | .ok _ => pure true
        | .error (true, fault) =>
          complain ("error reading " ++ always source ++ ": " ++ fault.words)
          pure false
        | .error (false, fault) =>
          complain ("error writing " ++ always target ++ ": " ++ fault.words)
          pure false
    let _ ← ask (.close reader)
    return copied

/-- Says what was copied. -/
def announceCopy (manner : CopyManner) (source target : Octets) : Act Unit := do
  if manner.verbose then printLine (always source ++ " -> " ++ always target)

/-- Copies what a path leads to.  `outermost` tells that the path is an operand, and
`ids` are the directories that are being copied. -/
def copyPath (manner : CopyManner) : (fuel : Nat) → (outermost : Bool) → (ids : List NodeId) →
    (source target : Octets) → Act Unit
  | 0, _, _, _, _ => pure ()
  | fuel + 1, outermost, ids, source, target => do
    match ← factsOf source (!manner.keepsLinks) with
    | .error fault => complain ("cannot stat " ++ always source ++ ": " ++ fault.words)
    | .ok facts =>
      let through ← factsOf target true
      let there ← factsOf target false
      if facts.kind = .directory then
        if !manner.recursive then
          complain ("-r not specified; omitting directory " ++ always source)
        else
          match through with
          | .ok target' =>
            if target'.kind ≠ .directory then
              complain ("cannot overwrite non-directory " ++ always target ++ " with directory " ++
                always source)
            else copyEntries fuel facts.id ids source target
          | .error _ =>
            match ← ask (.makeDirectory (atPath target) (facts.mode &&& 0o777 ||| 0o700)) with
            | .error fault =>
              complain ("cannot create directory " ++ always target ++ ": " ++ fault.words)
            | .ok _ =>
              announceCopy manner source target
              let made := match ← factsOf target true with
                | .ok made => [made.id]
                | .error _ => []
              copyEntries fuel facts.id (made ++ ids) source target
              if manner.keepsModes then
                let _ ← ask (.setMode (atPath target) facts.mode)
      else
        let older := match there with
          | .ok there => there.modified < facts.modified
          | .error _ => true
        let isThere := there.isOk
        if isThere ∧ (manner.careful ∨ (manner.updates ∧ !older)) then pure ()
        else
          match through with
          | .ok other =>
            if other.kind = .directory then
              complain ("cannot overwrite directory " ++ always target ++ " with non-directory" ++
                (if outermost then "" else " " ++ always source))
            else if other.id = facts.id ∧ facts.kind ≠ .device then
              complain (always source ++ " and " ++ always target ++ " are the same file")
            else if !manner.asks then replaceLeaf fuel facts source target
            else if ← confirm ("overwrite " ++ always target) then
              replaceLeaf fuel facts source target
          | .error _ => copyLeaf fuel facts source target false
where
  /-- Copies what is in a directory. -/
  copyEntries (fuel : Nat) (id : NodeId) (ids : List NodeId) (source target : Octets) :
      Act Unit := do
    if ids.contains id then
      complain ("cannot copy a directory, " ++ always source ++ ", into itself, " ++ always target)
    else
      match ← ask (.list (atPath source)) with
      | .error fault => complain ("cannot access " ++ always source ++ ": " ++ fault.words)
      | .ok names =>
        for name in names.map Octets.ofText do
          match ← factsOf (below source name) false with
          | .ok entry =>
            if ids.contains entry.id then
              complain ("cannot copy a directory, " ++ always manner.outer.1 ++
                ", into itself, " ++ always manner.outer.2)
            else copyPath manner fuel false ids (below source name) (below target name)
          | .error _ => copyPath manner fuel false ids (below source name) (below target name)
  /-- Copies something that is no directory to where something else is. -/
  replaceLeaf (fuel : Nat) (facts : Kernel.Facts) (source target : Octets) : Act Unit := do
    match manner.keeps with
    | some ending =>
      let _ ← ask (.rename (atPath target) (atPath (target ++ ending)))
      copyLeaf fuel facts source target false
    | none => copyLeaf fuel facts source target true
  /-- Copies something that is no directory. -/
  copyLeaf (_fuel : Nat) (facts : Kernel.Facts) (source target : Octets) (existing : Bool) :
      Act Unit := do
    let done ← match manner.links, facts.kind with
      | some symbolic, _ =>
        if existing then
          let _ ← ask (.remove (atPath target))
        let made ← if symbolic then ask (.makeLink (atPath source) (atPath target))
          else ask (.link (atPath source) (atPath target))
        match made with
        | .ok _ => pure true
        | .error fault =>
          complain ("cannot create " ++ (if symbolic then "symbolic " else "hard ") ++ "link " ++
            always target ++ " to " ++ always source ++ ": " ++ fault.words)
          pure false
      | none, .link =>
        match ← ask (.readLink (atPath source)) with
        | .error fault =>
          complain ("cannot read symbolic link " ++ always source ++ ": " ++ fault.words)
          pure false
        | .ok content =>
          if existing ∨ (← factsOf target false).isOk then
            let _ ← ask (.remove (atPath target))
          match ← ask (.makeLink content (atPath target)) with
          | .ok _ => pure true
          | .error fault =>
            complain ("cannot create symbolic link " ++ always target ++ ": " ++ fault.words)
            pure false
      | none, kind =>
        if kind = .channel ∧ manner.recursive then
          match ← ask (.makeChannel (atPath target) facts.mode) with
          | .ok _ => pure true
          | .error fault =>
            complain ("cannot create fifo " ++ always target ++ ": " ++ fault.words)
            pure false
        else copyContent manner source target (facts.mode &&& 0o777) existing
    if done then
      announceCopy manner source target
      if manner.keepsModes ∧ facts.kind ≠ .link then
        let _ ← ask (.setMode (atPath target) facts.mode)
      if manner.keepsTimes then
        let _ ← ask (.setTime (atPath target) (facts.kind ≠ .link) (some facts.modified))

/-- The options that copying and moving share. -/
def targetOptions : List OptionSpec :=
  [.flag 'f' "force", .flag 'i' "interactive", .flag 'n' "no-clobber", .flag 'u' "update",
   .flag 'v' "verbose", .valued 't' "target-directory", .flag 'T' "no-target-directory",
   .wordFlag "strip-trailing-slashes", .valued 'S' "suffix", .letterFlag 'b',
   ⟨none, "backup", .may⟩]

/-- What is behind the names of files that are kept. -/
def keptEnding (given : Given) : Option Octets :=
  if given.has "b" ∨ given.has "backup" ∨ given.has "suffix" then
    some ((given.value? "suffix").getD "~")
  else none

/-- The last one of several options that say what is done about files that are in the
way. -/
def lastCare (given : Given) (key : String) : Bool :=
  (given.last? ["no-clobber", "interactive", "force"]).any fun option => option.1 = key

/-- The paths above a path, the topmost one first. -/
def pathsAbove (path : Octets) : List Octets :=
  let characters := (withoutSlashes path).toList
  let slashes := (List.range characters.length).filter fun index =>
    characters[index]? = some '/' && 0 < index && characters[index - 1]? ≠ some '/'
  slashes.map fun index => String.ofList (characters.take index)

/-- Where a source goes together with the directories in its path, which are made. -/
def pathWithParents (directory source : Octets) : Act Octets := do
  for path in pathsAbove source do
    let _ ← ask (.makeDirectory (atPath (below directory path)) 0o777)
  return below directory source

/-- Copies every source; with `parents`, together with the directories in its path. -/
def copyAll (manner : CopyManner) (parents : Bool) (destination : Destination) :
    List Octets → Act Unit
  | [] => pure ()
  | source :: rest => do
    let target ← match parents, destination with
      | true, .inside directory => pathWithParents directory source
      | _, _ => pure (destination.pathFor source)
    copyPath { manner with outer := (source, target) } Kernel.ages true [] source target
    copyAll manner parents destination rest

/-- `cp`: copies files. -/
def copy (args : List Octets) : Act Unit := do
  let given ← given (targetOptions ++
    [.flag 'r' "recursive", .letterFlag 'R', .flag 'a' "archive", .letterFlag 'p',
     .letterFlag 'd', .flag 'P' "no-dereference", .flag 'L' "dereference", .letterFlag 'H',
     .flag 's' "symbolic-link", .flag 'l' "link", ⟨none, "preserve", .may⟩,
     .wordValued "no-preserve", ⟨none, "reflink", .may⟩, .wordValued "sparse",
     .flag 'x' "one-file-system", .wordFlag "parents", .wordFlag "attributes-only",
     .wordFlag "remove-destination"]) args false
  let (sources, destination) ← destinationOf given
  let parents := given.has "parents"
  let isNamed : Bool := match destination with
    | .named _ => true
    | .inside _ => false
  if parents ∧ isNamed then
    failUsage "with --parents, the destination must be a directory"
  let archive := given.has "archive"
  let recursive := archive || given.has "recursive" || given.has "R"
  let keepsLinks := match given.last? ["no-dereference", "dereference", "d", "archive", "H"] with
    | some (key, _) => key ≠ "dereference" && key ≠ "H"
    | none => recursive
  let keepsModes := archive || given.has "p" || given.has "preserve"
  copyAll {
    recursive, keepsLinks, keepsModes
    keepsTimes := keepsModes
    forced := given.has "force" || given.has "remove-destination"
    careful := lastCare given "no-clobber"
    asks := lastCare given "interactive"
    keeps := keptEnding given
    updates := given.has "update"
    verbose := given.has "verbose"
    links := if given.has "symbolic-link" then some true
      else if given.has "link" then some false else none
    outer := ("", "") } parents destination sources

/-! ### Moving -/

/-- How files are moved. -/
structure MoveManner where
  /-- Nothing is written over. -/
  careful : Bool
  /-- It is asked before something is written over. -/
  asks : Bool
  /-- Only older files are written over. -/
  updates : Bool
  verbose : Bool
  /-- What is behind the name of a file that is kept when it would be written over. -/
  keeps : Option Octets

/-- Moves every source. -/
def moveAll (manner : MoveManner) (destination : Destination) : List Octets → Act Unit
  | [] => pure ()
  | source :: rest => do
    let target := destination.pathFor source
    match ← factsOf source false with
    | .error fault => complain ("cannot stat " ++ always source ++ ": " ++ fault.words)
    | .ok facts =>
      let there ← factsOf target false
      let stays := match there with
        | .ok there => manner.careful || (manner.updates && facts.modified ≤ there.modified)
        | .error _ => false
      let isSame := match there with
        | .ok there => there.id = facts.id && source = target
        | .error _ => false
      if stays then pure ()
      else if isSame ∧ facts.kind ≠ .directory then
        complain (always source ++ " and " ++ always target ++ " are the same file")
      else if ← refuses there target then pure ()
      else
        if let (true, some ending) := (there.isOk, manner.keeps) then
          let _ ← ask (.rename (atPath target) (atPath (target ++ ending)))
        match ← ask (.rename (atPath source) (atPath target)) with
        | .ok _ =>
          if manner.verbose then
            printLine ("renamed " ++ always source ++ " -> " ++ always target)
        | .error .invalid =>
          complain ("cannot move " ++ always source ++ " to a subdirectory of itself, " ++
            always target)
        | .error .isDirectory =>
          complain ("cannot overwrite directory " ++ always target ++ " with non-directory" ++
            (match destination with
              | .inside _ => " " ++ always source
              | .named _ => ""))
        | .error .notDirectory =>
          if facts.kind = .directory ∧ there.isOk then
            complain ("cannot overwrite non-directory " ++ always target ++ " with directory " ++
              always source)
          else
            complain ("cannot move " ++ always source ++ " to " ++ always target ++ ": " ++
              Fault.notDirectory.words)
        | .error fault =>
          complain ("cannot move " ++ always source ++ " to " ++ always target ++ ": " ++
            fault.words)
    moveAll manner destination rest
where
  /-- Whether what is in the way is to stay there after all. -/
  refuses (there : Except Fault Kernel.Facts) (target : Octets) : Act Bool := do
    if there.isOk ∧ manner.asks then return !(← confirm ("overwrite " ++ always target))
    else return false

/-- `mv`: moves files. -/
def move (args : List Octets) : Act Unit := do
  let given ← given targetOptions args false
  let (sources, destination) ← destinationOf given
  moveAll {
    careful := lastCare given "no-clobber"
    asks := lastCare given "interactive"
    updates := given.has "update"
    verbose := given.has "verbose"
    keeps := keptEnding given } destination sources

/-! ### Links -/

/-- Makes a link to every source. -/
def linkAll (symbolic forced verbose : Bool) (keeps : Option Octets) (destination : Destination) :
    List Octets → Act Unit
  | [] => pure ()
  | source :: rest => do
    let target := destination.pathFor source
    let accessible ← if symbolic then pure (.ok ()) else
      (Except.map fun _ => ()) <$> factsOf source false
    let directory ← if symbolic then pure false else isDirectory source
    match accessible with
    | .error fault => complain ("failed to access " ++ always source ++ ": " ++ fault.words)
    | .ok _ =>
      if directory then
        complain (Text.shellWordIfNeeded source ++ ": hard link not allowed for directory")
      else
        let isThere := (← factsOf target false).isOk
        if let (true, some ending) := (isThere, keeps) then
          let _ ← ask (.rename (atPath target) (atPath (target ++ ending)))
        else if forced ∧ isThere then
          let _ ← ask (.remove (atPath target))
        let made ← if symbolic then ask (.makeLink (atPath source) (atPath target))
          else ask (.link (atPath source) (atPath target))
        match made with
        | .ok _ =>
          if verbose then
            printLine (always target ++ (if symbolic then " -> " else " => ") ++ always source)
        | .error fault =>
          complain ("failed to create " ++ (if symbolic then "symbolic" else "hard") ++ " link " ++
            always target ++
            (if symbolic ∨ fault = .occupied then "" else " => " ++ always source) ++ ": " ++
            fault.words)
    linkAll symbolic forced verbose keeps destination rest

/-- `ln`: makes links. -/
def makeLinks (args : List Octets) : Act Unit := do
  let given ← given
    [.flag 's' "symbolic", .flag 'f' "force", .flag 'n' "no-dereference", .flag 'v' "verbose",
     .valued 't' "target-directory", .flag 'T' "no-target-directory", .flag 'r' "relative",
     .flag 'L' "logical", .flag 'P' "physical", .flag 'i' "interactive", .letterFlag 'b',
     .valued 'S' "suffix", ⟨none, "backup", .may⟩] args false
  let symbolic := given.has "symbolic"
  let (sources, destination) ← match given.operands with
    | [] => failUsage "missing file operand"
    | [only] =>
      if given.has "target-directory" then destinationOf given
      else pure ([only], Destination.inside ".")
    | [source, target] =>
      let isLink : Bool := match ← factsOf target false with
        | .ok facts => facts.kind = .link
        | .error _ => false
      if given.has "no-dereference" ∧ !given.has "target-directory" ∧ isLink then
        pure ([source], Destination.named target)
      else destinationOf given
    | _ => destinationOf given
  linkAll symbolic (given.has "force") (given.has "verbose") (keptEnding given) destination
    sources

end HintFuzz.Utility

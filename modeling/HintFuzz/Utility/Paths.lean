import HintFuzz.Utility.Options

/-!
# Paths without links

Utilities that tell where a path leads to when all links on it are followed.
-/

namespace HintFuzz.Utility

open Files (Fault)
open Kernel (ask)

/-- What must be there of a path. -/
inductive Presence
  | all
  /-- The last name may be missing. -/
  | parents
  | nothing
deriving DecidableEq

/-- How many links are followed at the most. -/
def mostLinks : Nat := 40

/-- The names of a path. -/
def namesOf (path : Octets) : List Octets :=
  ((Text.stretches '/' path.toList).filter fun name => !name.isEmpty).map String.ofList

/-- A path of names, of which the last one comes first. -/
def pathOfNames (names : List Octets) : Octets :=
  "/" ++ String.intercalate "/" names.reverse

/-- Follows names from a directory on.  `above` are the names that lead to the
directory, the last one first, and `links` says how many links may follow. -/
def followNames (presence : Presence) :
    (fuel links : Nat) → (above : List Octets) → (known : Bool) → List Octets →
    Act (Except Fault Octets)
  | 0, _, _, _, _ => return .error .tooManyLinks
  | _, _, above, _, [] => return .ok (pathOfNames above)
  | fuel + 1, links, above, known, name :: rest => do
    if name = "." then followNames presence fuel links above known rest
    else if name = ".." then followNames presence fuel links (above.drop 1) known rest
    else
      let path := pathOfNames (name :: above)
      let found ← if known then factsOf path false else pure (.error .notFound)
      match found with
      | .error fault =>
        let mayMiss : Bool := match presence with
          | .all => false
          | .parents => rest.isEmpty && fault == .notFound
          | .nothing => true
        if mayMiss then followNames presence fuel links (name :: above) false rest
        else return .error fault
      | .ok facts =>
        if facts.kind = .link then
          match links, ← ask (.readLink (atPath path)) with
          | 0, _ => return .error .tooManyLinks
          | _, .error fault => return .error fault
          | links + 1, .ok target =>
            let target := Octets.ofText target
            let above := if target.startsWith "/" then [] else above
            followNames presence fuel links above known (namesOf target ++ rest)
        else if facts.kind ≠ .directory ∧ !rest.isEmpty ∧ presence ≠ .nothing then
          return .error .notDirectory
        else followNames presence fuel links (name :: above) known rest

/-- The path that a path leads to when all links are followed. -/
def plainPath (presence : Presence) (path : Octets) : Act (Except Fault Octets) := do
  if path = "" then return .error .notFound
  else
    let start ← if path.startsWith "/" then pure "/" else do
      match ← ask .here with
      | .ok here => pure (Octets.ofText here)
      | .error _ => pure "/"
    followNames presence (path.length + 100 * mostLinks + 8) mostLinks (namesOf start).reverse
      true (namesOf path)

/-- `pwd`: shows the directory. -/
def showDirectory (args : List Octets) : Act Unit := do
  let given ← given [.flag 'L' "logical", .flag 'P' "physical"] args false
  unless given.operands.isEmpty do
    warn "ignoring non-option arguments"
  match ← ask .here with
  | .ok here => printLine (Octets.ofText here)
  | .error fault => fail ("couldn't find directory entry: " ++ fault.words)

/-- What must be there of a path according to options. -/
def presenceOf (given : Given) (keys : List (String × Presence)) : Option Presence :=
  (given.last? (keys.map Prod.fst)).bind fun option =>
    (keys.find? fun entry => entry.1 = option.1).map Prod.snd

/-- `readlink`: shows what links hold, or where paths lead to. -/
def showLinks (args : List Octets) : Act Unit := do
  let given ← given
    [.flag 'f' "canonicalize", .flag 'e' "canonicalize-existing",
     .flag 'm' "canonicalize-missing", .flag 'n' "no-newline", .flag 'q' "quiet",
     .flag 's' "silent", .flag 'v' "verbose", .flag 'z' "zero"] args false
  let presence := presenceOf given
    [("canonicalize", .parents), ("canonicalize-existing", .all),
     ("canonicalize-missing", .nothing)]
  if given.operands.isEmpty then failMissing
  let mark := if given.has "zero" then "\x00"
    else if given.has "no-newline" && given.operands.length = 1 then "" else "\n"
  for path in given.operands do
    let found ← match presence with
      | some presence => plainPath presence path
      | none => do
        pure ((← ask (.readLink (atPath path))).map Octets.ofText)
    match found with
    | .ok target => print (target ++ mark)
    | .error fault =>
      setStatus 1
      if given.has "verbose" then warn (faultMessage path fault)

/-- A path as it is seen from a directory. -/
def relativePath (directory path : Octets) : Octets :=
  let rec climb : List Octets → List Octets → List Octets
    | a :: as, b :: bs =>
      if a = b then climb as bs else (".." :: as.map fun _ => "..") ++ b :: bs
    | as, bs => (as.map fun _ => "..") ++ bs
  match climb (namesOf directory) (namesOf path) with
  | [] => "."
  | names => String.intercalate "/" names

/-- `realpath`: shows where paths lead to. -/
def showPaths (args : List Octets) : Act Unit := do
  let given ← given
    [.flag 'e' "canonicalize-existing", .flag 'm' "canonicalize-missing",
     .flag 'q' "quiet", .flag 's' "strip", .wordFlag "no-symlinks", .flag 'z' "zero",
     .wordValued "relative-to", .flag 'L' "logical", .flag 'P' "physical"] args false
  let presence := (presenceOf given
    [("canonicalize-existing", .all), ("canonicalize-missing", .nothing)]).getD .parents
  if given.operands.isEmpty then failMissing
  let base ← match given.value? "relative-to" with
    | none => pure none
    | some directory => do
      match ← plainPath presence directory with
      | .ok base => pure (some base)
      | .error fault => fail (faultMessage directory fault)
  for path in given.operands do
    match ← plainPath presence path with
    | .ok target =>
      let shown := match base with
        | some base => relativePath base target
        | none => target
      print (shown ++ if given.has "zero" then "\x00" else "\n")
    | .error fault =>
      setStatus 1
      unless given.has "quiet" do warn (faultMessage path fault)

end HintFuzz.Utility

import HintFuzz.Files.Basic

/-!
# Changing file trees

Making, naming and removing nodes.  All paths start from a given directory.
-/

namespace HintFuzz.Files

/-- How many names lead to a node. -/
def nameCount (files : Files) (id : NodeId) : Nat :=
  files.nodes.foldl (fun count node =>
    match node.content with
    | .directory _ entries => count + entries.countP fun entry => entry.2 = id
    | _ => count) 0

/-- The last name of a path, and the directory that it is in.  The last name must
be one of a node of its own. -/
def lastName (files : Files) (start : NodeId) (path : String) : Except Fault (NodeId × String) := do
  let names := (← checkedNames path).reverse.dropWhile String.isEmpty
  match names with
  | [] => .error .busy
  | name :: above =>
    let start := if path.startsWith "/" then root else start
    match ← files.walk true mostLinks start above.reverse with
    | .vacant _ _ => .error .notFound
    | .found directory =>
      if files.isDirectory directory then .ok (directory, name) else .error .notDirectory

/-- The tree with a new node at a path where there is nothing. -/
def make (files : Files) (start : NodeId) (path : String) (node : NodeId → Node) :
    Except Fault Files := do
  match ← files.resolveFrom start path false with
  | .found _ => .error .occupied
  | .vacant directory name => .ok (files.add directory name (node directory)).2

/-- The tree with a new directory at a path. -/
def makeDirectory (files : Files) (start : NodeId) (path : String) (mode now : Nat) :
    Except Fault Files :=
  files.make start path fun directory => ⟨.directory directory [], mode, now⟩

/-- The tree with a new node, which is no directory, at a path. -/
def makeNode (files : Files) (start : NodeId) (path : String) (node : Node) :
    Except Fault Files := do
  match ← files.resolveFrom start path false with
  | .found _ => .error .occupied
  | .vacant directory name =>
    if path.endsWith "/" then .error .notFound else .ok (files.add directory name node).2

/-- The tree without the file at a path. -/
def remove (files : Files) (start : NodeId) (path : String) : Except Fault Files := do
  let (directory, name) ← files.lastName start path
  if name = "." ∨ name = ".." then .error .isDirectory
  else
    match files.child? directory name with
    | none => .error .notFound
    | some id =>
      if files.isDirectory id then .error .isDirectory
      else if path.endsWith "/" then .error .notDirectory
      else .ok (files.leave directory name)

/-- The tree without the empty directory at a path. -/
def removeDirectory (files : Files) (start : NodeId) (path : String) : Except Fault Files := do
  let (directory, name) ← files.lastName start path
  if name = "." then .error .invalid
  else if name = ".." then .error .notEmpty
  else
    match files.child? directory name with
    | none => .error .notFound
    | some id =>
      if !files.isDirectory id then .error .notDirectory
      else if !(files.entries id).isEmpty then .error .notEmpty
      else .ok (files.leave directory name)

/-- Whether a directory is another one or below it. -/
def isWithin (files : Files) (outer : NodeId) : (fuel : Nat) → NodeId → Bool
  | 0, _ => false
  | fuel + 1, id => id = outer || (id ≠ root && isWithin files outer fuel (files.parent id))

/-- The tree in which what one path leads to stands at another path. -/
def rename (files : Files) (start : NodeId) (source target : String) : Except Fault Files := do
  let (directory, name) ← files.lastName start source
  let (targetDirectory, targetName) ← files.lastName start target
  if [".", ".."].contains name ∨ [".", ".."].contains targetName then .error .busy
  else
    match files.child? directory name with
    | none => .error .notFound
    | some id =>
      let movesDirectory := files.isDirectory id
      if source.endsWith "/" ∧ !movesDirectory then .error .notDirectory
      else if movesDirectory ∧ files.isWithin id files.nodes.size targetDirectory then
        .error .invalid
      else
        let move : Files :=
          let files := (files.leave directory name).enter targetDirectory targetName id
          files.change id fun node =>
            match node.content with
            | .directory _ entries => { node with content := .directory targetDirectory entries }
            | _ => node
        match files.child? targetDirectory targetName with
        | none => if target.endsWith "/" ∧ !movesDirectory then .error .notDirectory else .ok move
        | some there =>
          if there = id then .ok files
          else if files.isDirectory there then
            if !movesDirectory then .error .isDirectory
            else if !(files.entries there).isEmpty then .error .notEmpty
            else .ok move
          else if movesDirectory then .error .notDirectory
          else .ok move

/-- The tree with a second name for a file. -/
def link (files : Files) (start : NodeId) (source target : String) : Except Fault Files := do
  let id ← files.locate start source false
  match ← files.resolveFrom start target false with
  | .found _ => .error .occupied
  | .vacant directory name =>
    if files.isDirectory id then .error .notPermitted
    else if target.endsWith "/" then .error .notFound
    else .ok (files.enter directory name id)

/-- The path of a directory from the root on. -/
def pathOf (files : Files) : (fuel : Nat) → NodeId → Except Fault (List String)
  | 0, _ => .error .notFound
  | fuel + 1, id =>
    if id = root then .ok []
    else
      let above := files.parent id
      match (files.entries above).find? fun entry => entry.2 = id with
      | none => .error .notFound
      | some (name, _) => (pathOf files fuel above).map (· ++ [name])

/-- The absolute path of a directory. -/
def absolutePath (files : Files) (id : NodeId) : Except Fault String :=
  (files.pathOf files.nodes.size id).map fun names => "/" ++ String.intercalate "/" names

end HintFuzz.Files

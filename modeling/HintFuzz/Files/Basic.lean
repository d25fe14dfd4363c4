import HintFuzz.Bytes.LittleEndian
import HintFuzz.Files.Fault
import HintFuzz.Order.Ascending
import HintFuzz.Text.Lines
import HintFuzz.Text.Utf8

/-!
# File trees

The files that a program sees, as a value: numbered nodes, of which directories
lead to further ones by names.  Node 0 is the root.  A path is followed name by
name; only a directory leads further, and a link stands for the path in it.
-/

namespace HintFuzz

/-- The number of a node of a file tree. -/
abbrev NodeId := Nat

/-- A file that holds nothing of its own. -/
inductive Device
  /-- Swallows what is written and is empty when read. -/
  | null
  /-- Has no room for anything, and is an endless run of zero bytes when read. -/
  | full
  /-- An endless run of zero bytes. -/
  | zero
  /-- An endless run of bytes without order. -/
  | random
  /-- The terminal of a process that has none. -/
  | terminal
  /-- Whatever a descriptor of the process leads to. -/
  | standard (descriptor : Nat)
deriving DecidableEq

/-- What a node is. -/
inductive Content
  | directory (parent : NodeId) (entries : List (String × NodeId))
  | file (bytes : ByteArray)
  | link (path : String)
  | device (device : Device)
  /-- A place at which processes meet to write and read. -/
  | channel
  | program (name : String)

/-- A node of a file tree. -/
structure Node where
  content : Content
  /-- Who may read, write and run it. -/
  mode : Nat
  /-- When its content was changed last. -/
  modified : Nat

/-- A file tree and the directory that relative paths start from. -/
structure Files where
  nodes : Array Node
  here : NodeId

namespace Files

/-- The mode of a new directory. -/
def directoryMode : Nat := 0o755

/-- The mode of a new file. -/
def fileMode : Nat := 0o644

/-- The node that all absolute paths start from. -/
def root : NodeId := 0

/-- A tree of a root alone. -/
def bare : Files where
  nodes := #[⟨.directory root [], directoryMode, 0⟩]
  here := root

/-! ### Nodes -/

/-- A node, if there is one of that number. -/
def node? (files : Files) (id : NodeId) : Option Node :=
  files.nodes[id]?

/-- What a node is. -/
def content? (files : Files) (id : NodeId) : Option Content :=
  (files.node? id).map Node.content

/-- The tree with a node changed. -/
def change (files : Files) (id : NodeId) (f : Node → Node) : Files :=
  { files with nodes := files.nodes.modify id f }

/-- The tree with another content in a node. -/
def setContent (files : Files) (id : NodeId) (content : Content) : Files :=
  files.change id fun node => { node with content }

/-- Whether a node is a directory. -/
def isDirectory (files : Files) (id : NodeId) : Bool :=
  match files.content? id with
  | some (.directory _ _) => true
  | _ => false

/-- The names in a directory with the nodes that they lead to, in the order of
the names. -/
def entries (files : Files) (id : NodeId) : List (String × NodeId) :=
  match files.content? id with
  | some (.directory _ entries) =>
    (ascending (entries.map Prod.fst)).filterMap fun name =>
      (entries.find? fun entry => entry.1 = name)
  | _ => []

/-- The node that a name in a directory leads to. -/
def child? (files : Files) (directory : NodeId) (name : String) : Option NodeId :=
  match files.content? directory with
  | some (.directory _ entries) =>
    (entries.find? fun entry => entry.1 = name).map Prod.snd
  | _ => none

/-- The directory that a directory is in. -/
def parent (files : Files) (id : NodeId) : NodeId :=
  match files.content? id with
  | some (.directory parent _) => parent
  | _ => root

/-- The tree with a name in a directory that leads to a node. -/
def enter (files : Files) (directory : NodeId) (name : String) (id : NodeId) : Files :=
  files.change directory fun node =>
    match node.content with
    | .directory parent entries =>
      { node with
        content := .directory parent ((name, id) :: entries.filter fun entry => entry.1 ≠ name) }
    | _ => node

/-- The tree without a name in a directory.  The node that it led to stays for
those who know it. -/
def leave (files : Files) (directory : NodeId) (name : String) : Files :=
  files.change directory fun node =>
    match node.content with
    | .directory parent entries =>
      { node with content := .directory parent (entries.filter fun entry => entry.1 ≠ name) }
    | _ => node

/-- The tree with a new node under a name in a directory. -/
def add (files : Files) (directory : NodeId) (name : String) (node : Node) : NodeId × Files :=
  let id := files.nodes.size
  (id, { files with nodes := files.nodes.push node }.enter directory name id)

/-! ### Paths -/

/-- The most bytes that a name may take. -/
def longestName : Nat := 255

/-- The bytes that a path must stay below. -/
def pathLimit : Nat := 4096

/-- How many links are followed on the way to one node. -/
def mostLinks : Nat := 40

/-- The names of a path. -/
def names (path : String) : List String :=
  (Text.stretches '/' path.toList).map String.ofList

/-- What a path leads to. -/
inductive Target
  | found (id : NodeId)
  /-- Nothing, at a place where something can be made. -/
  | vacant (directory : NodeId) (name : String)
deriving DecidableEq

/-- Where names lead to from a node.  `onLink` says where names behind a link lead
to; a link that is the last name counts as itself unless `through`. -/
def follow (files : Files) (through : Bool)
    (onLink : NodeId → List String → Except Fault Target) :
    NodeId → List String → Except Fault Target
  | id, [] => .ok (.found id)
  | id, name :: rest =>
    if !files.isDirectory id then .error .notDirectory
    else if name = "" ∨ name = "." then follow files through onLink id rest
    else if name = ".." then follow files through onLink (files.parent id) rest
    else if longestName < name.utf8ByteSize then .error .nameTooLong
    else
      match files.child? id name with
      | none => if rest.all String.isEmpty then .ok (.vacant id name) else .error .notFound
      | some next =>
        match files.content? next with
        | some (.link path) =>
          if rest.isEmpty ∧ !through then .ok (.found next)
          else if path = "" then .error .notFound
          else onLink (if path.startsWith "/" then root else id) (names path ++ rest)
        | _ => follow files through onLink next rest

/-- Where names lead to from a node, through no more than some links. -/
def walk (files : Files) (through : Bool) :
    (links : Nat) → NodeId → List String → Except Fault Target
  | 0 => follow files through fun _ _ => .error .tooManyLinks
  | links + 1 => follow files through (walk files through links)

/-- The names of a path that can be followed. -/
def checkedNames (path : String) : Except Fault (List String) :=
  if path = "" then .error .notFound
  else if path.toList.contains '\x00' then .error .zeroInPath
  else if pathLimit ≤ path.utf8ByteSize then .error .nameTooLong
  else .ok (names path)

/-- What a path from a directory leads to. -/
def resolveFrom (files : Files) (start : NodeId) (path : String) (through : Bool) :
    Except Fault Target := do
  files.walk through mostLinks (if path.startsWith "/" then root else start) (← checkedNames path)

/-- What a path leads to. -/
def resolve (files : Files) (path : String) : Except Fault Target :=
  files.resolveFrom files.here path true

/-- The node that a path from a directory leads to. -/
def locate (files : Files) (start : NodeId) (path : String) (through : Bool) :
    Except Fault NodeId := do
  match ← files.resolveFrom start path through with
  | .found id => .ok id
  | .vacant _ _ => .error .notFound

/-- Whether a path leads to something. -/
def has (files : Files) (path : String) : Bool :=
  (files.locate files.here path true).isOk

/-! ### Reading -/

/-- The bytes of a file, or of a device that has an end. -/
def contentBytes : Content → Except Fault Bytes
  | .directory _ _ => .error .isDirectory
  | .file bytes => .ok bytes.data.toList
  | .device .null => .ok []
  | .device .terminal => .error .noDevice
  | .device _ => .error .outOfMemory
  | .link _ | .channel | .program _ => .ok []

/-- The bytes of a node. -/
def bytesAt (files : Files) (id : NodeId) : Except Fault Bytes :=
  match files.content? id with
  | some content => contentBytes content
  | none => .error .notFound

/-- The bytes of the file at a path. -/
def read (files : Files) (path : String) : Except Fault Bytes := do
  files.bytesAt (← files.locate files.here path true)

/-- The text of the file at a path. -/
def readText (files : Files) (path : String) : Except Fault String := do
  match Text.ofBytes? (← files.read path) with
  | some text => .ok text
  | none => .error .notUtf8

/-! ### Writing -/

/-- Whether the last name of a path stands for a directory only. -/
def endsInDirectory (path : String) : Bool :=
  ["", ".", ".."].contains ((names path).getLast?.getD "")

/-- The node that a path opened for making a file leads to, and whether it was
made.  A path that ends like that of a directory does not lead to a file, even if
it leads to nothing. -/
def provideFile (files : Files) (start : NodeId) (path : String) (mode now : Nat) :
    Except Fault (NodeId × Bool × Files) := do
  if endsInDirectory path ∧ path ≠ "" then
    let lead := (← checkedNames path).reverse.dropWhile String.isEmpty
    let above := String.intercalate "/" (lead.drop 1).reverse
    let above := if path.startsWith "/" then "/" ++ above else if above = "" then "." else above
    if files.isDirectory (← files.locate start above true) then .error .isDirectory
    else .error .notDirectory
  else
    match ← files.resolveFrom start path true with
    | .found id => if files.isDirectory id then .error .isDirectory else .ok (id, false, files)
    | .vacant directory name =>
      let (id, files) := files.add directory name ⟨.file .empty, mode, now⟩
      .ok (id, true, files)

/-- The node that a path opened for writing leads to.  A file that is missing is
made. -/
def openForWriting (files : Files) (path : String) : Except Fault (NodeId × Files) := do
  let (id, _, files) ← files.provideFile files.here path fileMode 0
  return (id, files)

/-- Bytes with others in their place from an offset on.  A gap is filled with zero
bytes. -/
def splice (before : ByteArray) (offset : Nat) (bytes : ByteArray) : ByteArray :=
  let padded :=
    if offset ≤ before.size then before
    else before ++ ⟨Array.replicate (offset - before.size) 0⟩
  bytes.copySlice 0 padded offset bytes.size

/-- The tree after some bytes were written into a node from an offset on, or at
its end if there is no offset. -/
def writeAt (files : Files) (id : NodeId) (offset : Option Nat) (bytes : ByteArray) :
    Except Fault Files :=
  match files.content? id with
  | some (.file _) =>
    .ok <| files.change id fun node =>
      match node.content with
      | .file before =>
        { node with
          content := .file (match offset with
            | none => before ++ bytes
            | some offset => if bytes.isEmpty then before else splice before offset bytes) }
      | _ => node
  | some (.device .full) => if bytes.isEmpty then .ok files else .error .noSpace
  | some (.device .terminal) => .error .noDevice
  | some (.device _) => .ok files
  | some (.directory _ _) => .error .isDirectory
  | some _ => .error .permissionDenied
  | none => .error .notFound

/-- The tree after some bytes were written at the end of a node. -/
def appendAt (files : Files) (id : NodeId) (bytes : Bytes) : Except Fault Files :=
  files.writeAt id none ⟨bytes.toArray⟩

/-- The tree with a file cut to a length, or filled up to it with zero bytes.
Other nodes stay as they are. -/
def resizeAt (files : Files) (id : NodeId) (length : Nat) : Files :=
  files.change id fun node =>
    match node.content with
    | .file bytes =>
      { node with
        content := .file (if length ≤ bytes.size then bytes.extract 0 length
          else splice bytes length .empty) }
    | _ => node

/-! ### Making trees -/

/-- The directory that names lead to from another one, made with all directories
on the way where nothing else stands. -/
def provide (files : Files) : (start : NodeId) → List String → NodeId × Files
  | id, [] => (id, files)
  | id, name :: rest =>
    if name = "" ∨ name = "." then provide files id rest
    else if name = ".." then provide files (files.parent id) rest
    else
      match files.child? id name with
      | some next => provide files next rest
      | none =>
        let (next, files) := files.add id name ⟨.directory id [], directoryMode, 0⟩
        provide files next rest

/-- The tree with a directory at a path. -/
def withDirectory (files : Files) (path : String) : Files :=
  (files.provide (if path.startsWith "/" then root else files.here) (names path)).2

/-- The tree with a node at a path; the directories above it are made. -/
def withNode (files : Files) (path : String) (node : Node) : Files :=
  let names := names path
  let (directory, files) :=
    files.provide (if path.startsWith "/" then root else files.here) names.dropLast
  (files.add directory (names.getLast?.getD "") node).2

/-- The time, in nanoseconds since 1970, at which trees begin to be filled. -/
def firstTime : Nat := 1750000000 * 1000000000

/-- The tree with a file at a path; the directories above it are made.  What is
placed later is newer. -/
def withFile (files : Files) (path : String) (bytes : Bytes) : Files :=
  files.withNode path ⟨.file ⟨bytes.toArray⟩, fileMode, firstTime + files.nodes.size⟩

end Files

end HintFuzz

import HintFuzz.Catalog.Basic
import HintFuzz.Files.Basic
import HintFuzz.Json.Fields
import HintFuzz.Json.Reader
import HintFuzz.Text.Blank

/-!
# Catalogs from whitelist files

A catalog is read from one file, or from all files of a directory that are named
`….json`, in the order of their names.  The first fault ends the reading; within
a file, what cannot be read goes before what cannot be understood, and that
before an entry without any text.
-/

namespace HintFuzz.Catalog

/-- Why a catalog cannot be loaded. -/
inductive LoadFault
  | missing (path : String)
  | io (path : String) (cause : Files.Fault)
  | malformed (path : String)
  /-- The entry at a position, counted from 0, has no text. -/
  | emptyEntry (path : String) (position : Nat)
  | empty (path : String)
deriving DecidableEq, Repr

/-- The wording of a fault, up to the words of the system or of the reader. -/
def LoadFault.lead : LoadFault → String
  | missing path => s!"hint catalog not found at {path}"
  | io path _ => s!"failed to read {path}: "
  | malformed path => s!"malformed whitelist {path}: "
  | emptyEntry path position => s!"entry {position} of {path} has no hint lines"
  | empty path => s!"hint catalog at {path} contains no entries"

/-- The lines of one entry of a whitelist. -/
def entryLines? (value : Json) : Option (List String) := do
  match ← value.fields? ["hint_lines"] with
  | [lines] => (← lines.items?).mapM Json.text?
  | _ => none

/-- The entries of a whitelist. -/
def whitelist? (text : String) : Option (List (List String)) := do
  match ← (← Json.ofText? text).fields? ["allowed_reference_expressions_for_hint"] with
  | [entries] => (← entries.items?).mapM entryLines?
  | _ => none

/-- The entries of the whitelist file at a path. -/
def fileEntries (files : Files) (path : String) : Except LoadFault (List (List String)) := do
  let text ← (files.readText path).mapError (.io path)
  match whitelist? text with
  | none => .error (.malformed path)
  | some entries =>
    match entries.findIdx? fun lines => lines.all Text.isBlank with
    | some position => .error (.emptyEntry path position)
    | none => .ok entries

/-- Whether a file of a directory belongs to a catalog: there is something in
front of its extension, and the extension is `json`. -/
def isWhitelistName (name : String) : Bool :=
  let extension := ".json".toList
  extension.length < name.toList.length && extension.isSuffixOf name.toList

/-- The path of a file in the directory at a path. -/
def inDirectory (directory name : String) : String :=
  if directory.toList.getLast? = some '/' then directory ++ name else directory ++ "/" ++ name

/-- The paths of the files of a catalog. -/
def filePaths (files : Files) (path : String) : List String :=
  match files.locate files.here path true with
  | .ok id =>
    if files.isDirectory id then
      (((files.entries id).map Prod.fst).filter isWhitelistName).map (inDirectory path)
    else [path]
  | .error _ => [path]

/-- A catalog with the entries of the whitelist file at a path behind its own. -/
def withFile (files : Files) (catalog : Catalog) (path : String) : Except LoadFault Catalog := do
  return (← fileEntries files path).foldl push catalog

/-- Loads the catalog at a path. -/
def load (files : Files) (path : String) : Except LoadFault Catalog := do
  if !files.has path then .error (.missing path)
  else
    let catalog ← (filePaths files path).foldlM (withFile files) .empty
    if catalog.entries.isEmpty then .error (.empty path) else .ok catalog

end HintFuzz.Catalog

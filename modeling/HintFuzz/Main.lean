import HintFuzz.CommandLine.Answer
import HintFuzz.Files.Standard

/-!
# The program

Reads the files that a command line names into a file tree, has the request
answered there, and puts back the log that the answer has written.
-/

namespace HintFuzz.CommandLine

/-- The paths of the catalog and the log that a request uses. -/
def Request.dataPaths (request : Request) (files : Files) : List String :=
  match request.loadConfig files with
  | .error _ => []
  | .ok config =>
    config.catalog ::
      match request.command with
      | .run options => [(options.applyTo config).findings]
      | _ => []

/-- Reads what there is at a path, a directory with the files in it. -/
def readPath (files : Files) (path : String) : IO Files := do
  let real := (← IO.currentDir) / path
  if ← real.isDir then
    let mut files := files.withDirectory path
    for entry in ← real.readDir do
      let place := path ++ "/" ++ entry.fileName
      if ← entry.path.isDir then files := files.withDirectory place
      else files := files.withFile place (← IO.FS.readBinFile entry.path).toList
    return files
  else
    let directory := real.parent.getD real
    let above := (Files.names path).dropLast
    let files :=
      if (← directory.isDir) && !above.isEmpty then
        files.withDirectory (String.intercalate "/" above)
      else files
    if ← real.pathExists then return files.withFile path (← IO.FS.readBinFile real).toList
    else return files

/-- Writes the file at a path if it is not what it was. -/
def writePath (before after : Files) (path : String) : IO Unit := do
  match after.read path with
  | .ok bytes =>
    unless (before.read path).toOption = some bytes do
      IO.FS.writeBinFile ((← IO.currentDir) / path) (ByteArray.mk bytes.toArray)
  | .error _ => pure ()

/-- Answers a command line: prints the answer and gives its code. -/
def perform (args : List String) : IO UInt32 := do
  let spare := UInt64.ofNat (LittleEndian.toNat (← IO.getRandomBytes 8).toList)
  let mut files := Files.fresh (← IO.currentDir).toString
  let mut paths := []
  if let .ok request := Request.ofArgs args then
    files ← request.config.toList.foldlM readPath files
    paths := request.dataPaths files
    files ← paths.foldlM readPath files
  let (answer, after) := CommandLine.answer args spare files
  for path in paths do writePath files after path
  IO.print answer.output
  IO.eprint answer.errors
  return answer.code

end HintFuzz.CommandLine

/-- The program. -/
def main (args : List String) : IO UInt32 :=
  HintFuzz.CommandLine.perform args

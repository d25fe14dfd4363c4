import HintFuzz.Text.Search

/-!
# Command templates

A program and its arguments, in which the names of the files of a run stand for
their paths.
-/

namespace HintFuzz

/-- A program and the templates of its arguments. -/
structure CommandTemplate where
  program : String
  args : List String
deriving DecidableEq, Repr

namespace CommandTemplate

/-- The names of the files of a run. -/
def sourceName : String := "program.cairo"

/-- The file that a compiler writes and an engine runs. -/
def artifactName : String := "program.json"

/-- The file that an engine dumps its memory to. -/
def memoryName : String := "memory.bin"

/-- An argument with the paths of the files of the directory at a path put in,
one name after the other. -/
def expandArgument (directory argument : String) : String :=
  [("\x7bsource\x7d", sourceName), ("\x7bartifact\x7d", artifactName),
   ("\x7bmemory\x7d", memoryName)].foldl
    (fun text (key, name) => Text.replaceAll key (directory ++ "/" ++ name) text) argument

/-- The arguments of a run in the directory at a path. -/
def expand (template : CommandTemplate) (directory : String) : List String :=
  template.args.map (expandArgument directory)

end CommandTemplate

end HintFuzz

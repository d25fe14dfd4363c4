import HintFuzz.Files.Basic
import HintFuzz.Finding.Reader
import HintFuzz.Text.Blank

/-!
# Findings logs

A log is a file with one record a line.  It only ever grows at its end.
-/

namespace HintFuzz.Finding.Log

/-- Why a log cannot be written or read. -/
inductive Fault
  | io (cause : Files.Fault)
  /-- A line, counted from 1, is no record. -/
  | parse (line : Nat)
deriving DecidableEq, Repr

/-- The wording of a fault of the log at a path, up to the words of the system or
of the reader. -/
def Fault.lead (path : String) : Fault → String
  | io _ => s!"findings log {path}: "
  | parse line => s!"findings log {path}, line {line}: "

/-- The bytes that a record adds to a log. -/
def entry (finding : Finding) : Bytes :=
  Text.bytes (finding.line ++ "\n")

/-- The log with a record at its end. -/
def append (log : Bytes) (finding : Finding) : Bytes :=
  log ++ entry finding

/-- The records of lines, of which the first has a given number.  Blank lines
are passed over but counted. -/
def readLines (number : Nat) : List Bytes → Except Fault (List Finding)
  | [] => .ok []
  | bytes :: rest =>
    match Text.ofBytes? bytes with
    | none => .error (.io .notUtf8)
    | some line =>
      if Text.isBlank line then readLines (number + 1) rest
      else
        match ofLine? line with
        | none => .error (.parse number)
        | some finding => (readLines (number + 1) rest).map (finding :: ·)

/-- The records of a log. -/
def read (log : Bytes) : Except Fault (List Finding) :=
  readLines 1 (Text.byteLines log)

/-! ### Logs in files -/

/-- Opens a log for appending; it is made if it is missing.  Gives the node of
the log. -/
def openAt (files : Files) (path : String) : Except Fault (NodeId × Files) :=
  (files.openForWriting path).mapError .io

/-- The files after a record was appended to an open log. -/
def appendTo (files : Files) (log : NodeId) (finding : Finding) : Except Fault Files :=
  (files.appendAt log (entry finding)).mapError .io

/-- The records of the log at a path. -/
def readFrom (files : Files) (path : String) : Except Fault (List Finding) := do
  read (← (files.read path).mapError .io)

end HintFuzz.Finding.Log

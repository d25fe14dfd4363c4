import HintFuzz.Text.Blank
import HintFuzz.Text.Utf8

/-!
# Reports of commands

What a command has written is its report on what went wrong: its errors first,
then its output.  A report that is too long is cut between two characters.
-/

namespace HintFuzz.Report

/-- The most bytes that are kept of a report. -/
def room : Nat := 4096

/-- A report that fits, or as much of its front as fits, with a mark behind it. -/
def cut (report : String) : String :=
  if report.utf8ByteSize ≤ room then report
  else String.ofList (Text.frontWithin room report.toList) ++ "..."

/-- The errors of a command with its output behind them, on a line of its own.
Output without a visible character is left out. -/
def joined (errors output : String) : String :=
  if Text.isBlank output then errors
  else if errors = "" ∨ errors.toList.getLast? = some '\n' then errors ++ output
  else errors ++ "\n" ++ output

/-- The whole report of a command. -/
def whole (errors output : String) : String :=
  Text.trim (joined errors output)

/-- The report of a command, cut to size. -/
def ofOutput (errors output : String) : String :=
  cut (whole errors output)

end HintFuzz.Report

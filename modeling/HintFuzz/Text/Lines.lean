/-!
# Lines

A text is cut into lines at line feeds.  A carriage return right before the
line feed belongs to the line end, and a line end at the end of the text opens
no further line.  The cutting is the same for texts of characters and for texts
of bytes.
-/

namespace HintFuzz.Text

variable {Unit : Type} [DecidableEq Unit]

/-- The stretches of a text between marks: one more than there are marks. -/
def stretches (mark : Unit) : List Unit → List (List Unit)
  | [] => [[]]
  | c :: rest =>
    if c = mark then [] :: stretches mark rest
    else
      match stretches mark rest with
      | [] => [[c]]
      | stretch :: others => (c :: stretch) :: others

/-- A line without the carriage return that its line end starts with. -/
def dropReturn (carriageReturn : Unit) (line : List Unit) : List Unit :=
  if line.getLast? = some carriageReturn then line.dropLast else line

/-- The lines of a text.  Only a line that a line feed ends loses a carriage
return at its end. -/
def linesOf (lineFeed carriageReturn : Unit) (text : List Unit) : List (List Unit) :=
  let found := stretches lineFeed text
  let ended := found.dropLast.map (dropReturn carriageReturn)
  match found.getLast? with
  | none | some [] => ended
  | some last => ended ++ [last]

/-- The lines of a text of characters. -/
def lines (text : String) : List String :=
  (linesOf '\n' '\r' text.toList).map String.ofList

/-- The lines of a text of bytes. -/
def byteLines (bytes : List UInt8) : List (List UInt8) :=
  linesOf 10 13 bytes

end HintFuzz.Text

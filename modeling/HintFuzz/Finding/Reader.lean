import HintFuzz.Finding.Record
import HintFuzz.Json.Fields
import HintFuzz.Json.Reader

/-!
# Reading records of findings

What is read need not have been written here: fields may come in any order, and
unknown ones are passed over.  The detail of a finding is held as a value until
its kind is known, so all of it has to keep the limits of such values.
-/

namespace HintFuzz.Finding

/-- How deep containers may be nested in a detail, the detail itself included. -/
def detailDepth : Nat := 126

/-- The name of an alternative without contents: a text, or an object that gives
the name nothing. -/
def alternative? : Json → Option String
  | .string text => text
  | .object [(name, .null)] | .object [(name, .object [])] => name
  | _ => none

/-- A slot. -/
def slot? (value : Json) : Option Slot := do
  match ← alternative? value with
  | "A" => some .a
  | "B" => some .b
  | _ => none

/-- A class of failures. -/
def errorClass? (value : Json) : Option ErrorClass := do
  ErrorClass.ofName? (← alternative? value)

/-- A number of 64 bits. -/
def word? (value : Json) : Option UInt64 :=
  value.natural?.map UInt64.ofNat

/-- The discrepancy of a kind, given the value of its fields. -/
def detailOfKind? (kind : String) (value : Json) : Option (Discrepancy String) := do
  match kind with
  | "memory_mismatch" =>
    match ← value.optionalFields? ["address", "a", "b", "differing_cells"] with
    | [some address, a, b, some differingCells] =>
      return .memoryMismatch (← word? address) (← (a.getD .null).optionalText?)
        (← (b.getD .null).optionalText?) (← differingCells.natural?)
    | _ => none
  | "inconsistent_outcome" =>
    match ← value.fields? ["failed", "class", "message"] with
    | [failed, errorClass, message] =>
      return .inconsistentOutcome (← slot? failed) (← errorClass? errorClass) (← message.text?)
    | _ => none
  | "divergent_error_class" =>
    match ← value.fields? ["a", "b", "a_message", "b_message"] with
    | [a, b, aMessage, bMessage] =>
      return .divergentErrorClass (← errorClass? a) (← errorClass? b) (← aMessage.text?)
        (← bMessage.text?)
    | _ => none
  | "compile_rejected" =>
    match ← value.fields? ["message"] with
    | [message] => return .compileRejected (← message.text?)
    | _ => none
  | _ => none

/-- A discrepancy: an object with its kind anywhere in it, or an array that starts
with its kind. -/
def detail? (value : Json) : Option (Discrepancy String) := do
  if !value.withinLimits detailDepth then none
  else
    match value with
    | .object members =>
      let kind ← Json.member? members "kind"
      detailOfKind? (← (← kind).text?)
        (.object (members.filter fun member => member.1 ≠ some "kind"))
    | .array (kind :: rest) => detailOfKind? (← kind.text?) (.array rest)
    | _ => none

/-- The value of a placeholder. -/
def value? (value : Json) : Option RecordedValue := do
  match ← value.fields? ["placeholder", "value"] with
  | [placeholder, text] => return ⟨← placeholder.natural?, ← text.text?⟩
  | _ => none

/-- The names of the engines. -/
def engines? (value : Json) : Option (String × String) := do
  match ← value.fields? ["a", "b"] with
  | [a, b] => return (← a.text?, ← b.text?)
  | _ => none

/-- The record that a value gives. -/
def ofJson? (value : Json) : Option Finding := do
  match ← value.fields?
      ["hint_id", "seed", "generated_values", "program_text", "engines", "detail"] with
  | [hint, seed, values, programText, engines, detail] =>
    let (engineA, engineB) ← engines? engines
    return ⟨← hint.natural?, ← word? seed, ← (← values.items?).mapM value?, ← programText.text?,
      engineA, engineB, ← detail? detail⟩
  | _ => none

/-- The record that a line writes. -/
def ofLine? (line : String) : Option Finding := do
  ofJson? (← Json.ofText? line)

end HintFuzz.Finding

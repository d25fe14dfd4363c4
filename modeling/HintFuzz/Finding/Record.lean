import HintFuzz.Json.Printer
import HintFuzz.Values.Assignment
import HintFuzz.Verdict.Compare

/-!
# Records of findings

Everything that is needed to run the iteration of a finding again: the hint, the
seed, the values, the program and what the engines disagreed on.  Values and
cells are kept in decimal, as text.
-/

namespace HintFuzz

/-- The value of a placeholder, as text. -/
structure RecordedValue where
  placeholder : PlaceholderId
  value : String
deriving DecidableEq, Repr

/-- The record of a finding. -/
structure Finding where
  hint : HintId
  /-- The seed of the iteration. -/
  seed : UInt64
  values : List RecordedValue
  programText : String
  /-- The names of the two engines. -/
  engineA : String
  engineB : String
  detail : Discrepancy String
deriving DecidableEq, Repr

namespace Finding

/-- The record of what an iteration found. -/
def ofIteration (hint : HintId) (seed : UInt64) (values : List Assigned) (programText : String)
    (engineA engineB : String) (detail : Discrepancy Felt) : Finding :=
  ⟨hint, seed, values.map fun assigned => ⟨assigned.placeholder, toString assigned.value⟩,
   programText, engineA, engineB, detail.map Felt.text⟩

/-- The value of a cell: absent cells are null. -/
def cellJson : Option String → Json
  | none => .null
  | some text => .ofString text

/-- A discrepancy, its kind first. -/
def detailJson (detail : Discrepancy String) : Json :=
  .ofMembers <| ("kind", .ofString detail.kind) ::
    match detail with
    | .memoryMismatch address a b differingCells =>
      [("address", .ofNat address.toNat), ("a", cellJson a), ("b", cellJson b),
       ("differing_cells", .ofNat differingCells)]
    | .inconsistentOutcome failed errorClass message =>
      [("failed", .ofString failed.name), ("class", .ofString errorClass.name),
       ("message", .ofString message)]
    | .divergentErrorClass a b aMessage bMessage =>
      [("a", .ofString a.name), ("b", .ofString b.name), ("a_message", .ofString aMessage),
       ("b_message", .ofString bMessage)]
    | .compileRejected message => [("message", .ofString message)]

/-- The value of a placeholder. -/
def valueJson (value : RecordedValue) : Json :=
  .ofMembers [("placeholder", .ofNat value.placeholder), ("value", .ofString value.value)]

/-- A record as an object. -/
def toJson (finding : Finding) : Json :=
  .ofMembers
    [("hint_id", .ofNat finding.hint),
     ("seed", .ofNat finding.seed.toNat),
     ("generated_values", .array (finding.values.map valueJson)),
     ("program_text", .ofString finding.programText),
     ("engines",
      .ofMembers [("a", .ofString finding.engineA), ("b", .ofString finding.engineB)]),
     ("detail", detailJson finding.detail)]

/-- A record on one line. -/
def line (finding : Finding) : String :=
  finding.toJson.compact

end Finding

end HintFuzz

import HintFuzz.Finding.Reader
import HintFuzz.Proofs.Json.Fields

/-!
# Records on lines

A record whose numbers fit into 64 bits is read again from the line that it is written
on (`Finding.ofLine?_line`).  The line has no line feed in it and is not blank.
-/

namespace HintFuzz

/-- The counts of a discrepancy fit into 64 bits. -/
def Discrepancy.Fits {Value : Type} : Discrepancy Value → Prop
  | .memoryMismatch _ _ _ differingCells => differingCells < UInt64.size
  | _ => True

/-- The numbers of a record fit into 64 bits. -/
structure Finding.Fits (finding : Finding) : Prop where
  hint : finding.hint < UInt64.size
  placeholders : ∀ value ∈ finding.values, value.placeholder < UInt64.size
  detail : finding.detail.Fits

namespace Finding

open Json (Plain)

private theorem slot?_name (slot : Slot) : slot? (.ofString slot.name) = some slot := by
  cases slot <;> rfl

private theorem errorClass?_name (errorClass : ErrorClass) :
    errorClass? (.ofString errorClass.name) = some errorClass := by
  cases errorClass <;> rfl

private theorem word?_ofNat (word : UInt64) : word? (.ofNat word.toNat) = some word := by
  rw [word?, Json.natural?_ofNat word.toNat_lt_size, Option.map_some, UInt64.ofNat_toNat]

private theorem optionalText?_cellJson (cell : Option String) :
    (cellJson cell).optionalText? = some cell := by
  cases cell <;> rfl

/-! ### Details -/

private theorem withinLimits_ofNat {number : Nat} (fits : number < UInt64.size) (depth : Nat) :
    (Json.ofNat number).withinLimits depth = true := by
  rw [Json.ofNat, Json.withinLimits, Decimal.exceedsDoubleInSteps_decimal fits, Bool.not_false]

private theorem withinLimits_cellJson (cell : Option String) (depth : Nat) :
    (cellJson cell).withinLimits depth = true := by
  cases cell <;> simp [cellJson, Json.ofString, Json.withinLimits]

/-- The fields of a detail besides its kind. -/
def contents : Discrepancy String → List (String × Json)
  | .memoryMismatch address a b differingCells =>
    [("address", .ofNat address.toNat), ("a", cellJson a), ("b", cellJson b),
     ("differing_cells", .ofNat differingCells)]
  | .inconsistentOutcome failed errorClass message =>
    [("failed", .ofString failed.name), ("class", .ofString errorClass.name),
     ("message", .ofString message)]
  | .divergentErrorClass a b aMessage bMessage =>
    [("a", .ofString a.name), ("b", .ofString b.name), ("a_message", .ofString aMessage),
     ("b_message", .ofString bMessage)]
  | .compileRejected message => [("message", .ofString message)]

private theorem detailJson_eq (detail : Discrepancy String) :
    detailJson detail = .ofMembers (("kind", .ofString detail.kind) :: contents detail) := by
  cases detail <;> rfl

private theorem kind_notMem_contents (detail : Discrepancy String) :
    "kind" ∉ (contents detail).map Prod.fst := by
  cases detail <;> simp [contents]

private theorem nodup_contents (detail : Discrepancy String) :
    ((contents detail).map Prod.fst).Nodup := by
  cases detail <;> simp [contents]

private theorem withinLimits_detailJson {detail : Discrepancy String} (fits : detail.Fits) :
    (detailJson detail).withinLimits detailDepth = true := by
  cases detail with
  | memoryMismatch address a b differingCells =>
      simp only [detailJson, Json.ofMembers, List.map_cons, List.map_nil, detailDepth,
        Json.withinLimits, Json.membersWithinLimits, withinLimits_ofNat fits,
        withinLimits_ofNat address.toNat_lt_size, withinLimits_cellJson, Json.ofString,
        Option.isSome_some, Bool.and_self]
  | inconsistentOutcome failed errorClass message => rfl
  | divergentErrorClass a b aMessage bMessage => rfl
  | compileRejected message => rfl

/-- The kind of a detail decides how its other fields are read. -/
theorem detail?_ofMembers {kind : String} {members : List (String × Json)}
    (distinct : "kind" ∉ members.map Prod.fst)
    (within : (Json.ofMembers (("kind", .ofString kind) :: members)).withinLimits detailDepth = true) :
    detail? (.ofMembers (("kind", .ofString kind) :: members)) =
      detailOfKind? kind (.ofMembers members) := by
  have others : (Json.named members).filter (fun member => member.1 ≠ some "kind") =
      Json.named members := by
    rw [List.filter_eq_self]
    intro member found
    obtain ⟨source, sourceMember, rfl⟩ := List.mem_map.mp found
    simp only [ne_eq, Option.some.injEq, decide_not, Bool.not_eq_true', decide_eq_false_iff_not]
    exact fun same => distinct (same ▸ List.mem_map_of_mem sourceMember)
  have none : (Json.named members).filter (fun member => member.1 = some "kind") = [] := by
    rw [← others, List.filter_filter, List.filter_eq_nil_iff]
    simp
  have found : Json.member? ((some "kind", .ofString kind) :: Json.named members) "kind" =
      some (some (.ofString kind)) := by
    rw [Json.member?, List.filter_cons_of_pos (by simp), none]
  simp only [Json.ofMembers, List.map_cons] at within ⊢
  rw [detail?.eq_1, within]
  simp only [Bool.not_true, Bool.false_eq_true, if_false, found, Option.bind_eq_bind, Option.bind_some]
  rw [List.filter_cons_of_neg (by simp), others]
  rfl

private theorem detailOfKind?_contents {detail : Discrepancy String} (fits : detail.Fits) :
    detailOfKind? detail.kind (.ofMembers (contents detail)) = some detail := by
  have fields := Json.fields?_ofMembers (nodup_contents detail)
  have optional := Json.optionalFields?_ofMembers (nodup_contents detail)
  cases detail with
  | memoryMismatch address a b differingCells =>
      have count : (Json.ofNat differingCells).natural? = some differingCells :=
        Json.natural?_ofNat fits
      simp only [contents, List.map_cons, List.map_nil] at optional ⊢
      simp only [Discrepancy.kind, detailOfKind?, optional, Option.bind_eq_bind, Option.bind_some,
        Option.getD_some, word?_ofNat, optionalText?_cellJson, count, Option.pure_def]
  | inconsistentOutcome failed errorClass message =>
      simp only [contents, List.map_cons, List.map_nil] at fields ⊢
      simp only [Discrepancy.kind, detailOfKind?, fields, Option.bind_eq_bind, Option.bind_some,
        slot?_name, errorClass?_name, Json.text?_ofString, Option.pure_def]
  | divergentErrorClass a b aMessage bMessage =>
      simp only [contents, List.map_cons, List.map_nil] at fields ⊢
      simp only [Discrepancy.kind, detailOfKind?, fields, Option.bind_eq_bind, Option.bind_some,
        errorClass?_name, Json.text?_ofString, Option.pure_def]
  | compileRejected message => rfl

private theorem detail?_detailJson {detail : Discrepancy String} (fits : detail.Fits) :
    detail? (detailJson detail) = some detail := by
  have within := withinLimits_detailJson fits
  rw [detailJson_eq] at within ⊢
  rw [detail?_ofMembers (kind_notMem_contents detail) within, detailOfKind?_contents fits]

/-! ### Records -/

private theorem value?_valueJson {value : RecordedValue} (fits : value.placeholder < UInt64.size) :
    value? (valueJson value) = some value := by
  have fields : (valueJson value).fields? ["placeholder", "value"] =
      some [.ofNat value.placeholder, .ofString value.value] := rfl
  simp only [value?, fields, Option.bind_eq_bind, Option.bind_some, Json.natural?_ofNat fits,
    Json.text?_ofString, Option.pure_def]

private theorem ofJson?_toJson {finding : Finding} (fits : finding.Fits) :
    ofJson? finding.toJson = some finding := by
  have fields : finding.toJson.fields?
      ["hint_id", "seed", "generated_values", "program_text", "engines", "detail"] =
      some [.ofNat finding.hint, .ofNat finding.seed.toNat,
        .array (finding.values.map valueJson), .ofString finding.programText,
        .ofMembers [("a", .ofString finding.engineA), ("b", .ofString finding.engineB)],
        detailJson finding.detail] := rfl
  have engines : engines? (.ofMembers
      [("a", .ofString finding.engineA), ("b", .ofString finding.engineB)]) =
      some (finding.engineA, finding.engineB) := rfl
  have values : (finding.values.map valueJson).mapM value? = some finding.values := by
    have each : ∀ value ∈ finding.values, (value? ∘ valueJson) value = some (id value) :=
      fun value member => value?_valueJson (fits.placeholders value member)
    rw [List.mapM_map, Json.mapM_eq_some each, List.map_id]
  simp only [ofJson?, fields, Option.bind_eq_bind, Option.bind_some, engines, Json.items?, values,
    Json.natural?_ofNat fits.hint, word?_ofNat, detail?_detailJson fits.detail,
    Json.text?_ofString, Option.pure_def]

private theorem plain_cellJson (cell : Option String) : Plain (cellJson cell) := by
  cases cell with
  | none => exact .null
  | some text => exact .text text

private theorem plain_detailJson (detail : Discrepancy String) : Plain (detailJson detail) := by
  rw [detailJson_eq]
  refine .members fun member found => ?_
  rcases List.mem_cons.mp found with rfl | found
  · exact .text _
  · cases detail <;> simp only [contents, List.mem_cons, List.not_mem_nil, or_false] at found
    · rcases found with rfl | rfl | rfl | rfl
      · exact .natural _
      · exact plain_cellJson _
      · exact plain_cellJson _
      · exact .natural _
    · rcases found with rfl | rfl | rfl <;> exact .text _
    · rcases found with rfl | rfl | rfl | rfl <;> exact .text _
    · exact found ▸ .text _

private theorem plain_valueJson (value : RecordedValue) : Plain (valueJson value) := by
  refine .members fun member found => ?_
  simp only [List.mem_cons, List.not_mem_nil, or_false] at found
  rcases found with rfl | rfl
  · exact .natural _
  · exact .text _

private theorem plain_toJson (finding : Finding) : Plain finding.toJson := by
  refine .members fun member found => ?_
  simp only [List.mem_cons, List.not_mem_nil, or_false] at found
  rcases found with rfl | rfl | rfl | rfl | rfl | rfl
  · exact .natural _
  · exact .natural _
  · refine .array fun item member => ?_
    obtain ⟨value, -, rfl⟩ := List.mem_map.mp member
    exact plain_valueJson value
  · exact .text _
  · refine .members fun member found => ?_
    simp only [List.mem_cons, List.not_mem_nil, or_false] at found
    rcases found with rfl | rfl <;> exact .text _
  · exact plain_detailJson _

/-- **A record is read again from its line.** -/
theorem ofLine?_line {finding : Finding} (fits : finding.Fits) :
    ofLine? finding.line = some finding := by
  rw [ofLine?, line, Json.ofText?_compact (plain_toJson finding), Option.bind_eq_bind,
    Option.bind_some, ofJson?_toJson fits]

/-! ### Lines -/

/-- No control character is in a line, and so no line end. -/
theorem code_line (finding : Finding) : ∀ c ∈ finding.line.toList, 32 ≤ c.toNat := by
  rw [line, Json.compact, String.toList_ofList]
  exact (plain_toJson finding).code_compactChars

/-- The line of a finding is not blank. -/
theorem line_not_blank (finding : Finding) : Text.isBlank finding.line = false := by
  rw [Text.isBlank, List.all_eq_false]
  refine ⟨'{', ?_, by decide⟩
  rw [line, Json.compact, String.toList_ofList, toJson, Json.compactChars_ofMembers]
  exact List.mem_cons_self

end Finding

end HintFuzz

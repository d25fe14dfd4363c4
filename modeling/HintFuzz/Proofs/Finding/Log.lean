import HintFuzz.Finding.Log
import HintFuzz.Proofs.Files.Append
import HintFuzz.Proofs.Finding.Record
import HintFuzz.Proofs.Text.Lines
import HintFuzz.Proofs.Text.Utf8

/-!
# Logs are read as they were written

A record adds one line to a log, and the records of the lines of a log are read in order
(`readLines_of_records`) up to the first line that is neither blank nor a record
(`readLines_of_bad`).  However often a log is opened, what was appended stands behind what
was there, and is read so (`keepsRecords`).
-/

namespace HintFuzz.Finding.Log

/-! ### Lines -/

/-- The line that a record is written on, as bytes. -/
abbrev lineBytes (finding : Finding) : Bytes :=
  Text.bytes finding.line

private theorem entry_eq (finding : Finding) : entry finding = lineBytes finding ++ [10] := by
  have lineFeed : Text.bytes "\n" = [10] := by
    rw [Text.bytes_eq_flatMap]
    decide
  rw [entry, Text.bytes_append, lineFeed]

private theorem code_lineBytes (finding : Finding) :
    ∀ octet ∈ lineBytes finding, 32 ≤ octet.toNat :=
  Text.code_le_of_mem_bytes (by decide) finding.code_line

private theorem lineFeed_notMem_lineBytes (finding : Finding) :
    10 ∉ lineBytes finding := fun member =>
  absurd (code_lineBytes finding 10 member) (by decide)

private theorem dropReturn_lineBytes (finding : Finding) :
    Text.dropReturn 13 (lineBytes finding) = lineBytes finding := by
  refine if_neg fun last => ?_
  exact absurd (code_lineBytes finding 13 (List.mem_of_getLast? last)) (by decide)

private theorem flatMap_entry (findings : List Finding) :
    findings.flatMap entry = Text.terminated 10 (findings.map lineBytes) := by
  rw [Text.terminated, List.flatMap_map]
  exact congrArg (findings.flatMap ·) (funext entry_eq)

/-- Appended records are the last lines of a log. -/
theorem byteLines_append {log : Bytes} (closed : Text.Closed 10 log) (findings : List Finding) :
    Text.byteLines (log ++ findings.flatMap entry) =
      Text.byteLines log ++ findings.map lineBytes := by
  rw [flatMap_entry, Text.byteLines, closed.linesOf_append, List.map_map]
  · refine congrArg _ (List.map_congr_left fun finding _ => ?_)
    exact dropReturn_lineBytes finding
  · intro line member
    obtain ⟨finding, -, rfl⟩ := List.mem_map.mp member
    exact lineFeed_notMem_lineBytes finding

/-! ### Reading -/

/-- The records that a line adds to those before it: none if it is blank.  `none` if the
line is neither blank nor a record. -/
def records? (bytes : Bytes) : Option (List Finding) :=
  (Text.ofBytes? bytes).bind fun line =>
    if Text.isBlank line then some [] else (ofLine? line).map ([·])

private theorem records?_lineBytes {finding : Finding} (fits : finding.Fits) :
    records? (lineBytes finding) = some [finding] := by
  rw [records?, Text.ofBytes?_bytes, Option.bind_some, finding.line_not_blank,
    if_neg Bool.false_ne_true, ofLine?_line fits, Option.map_some]

/-- The fault of a line that is neither blank nor a record. -/
def badLine (number : Nat) (bytes : Bytes) : Fault :=
  if (Text.ofBytes? bytes).isSome then .parse number else .io .notUtf8

/-- One line is read on its own, and then those behind it. -/
theorem readLines_cons (number : Nat) (bytes : Bytes) (rest : List Bytes) :
    readLines number (bytes :: rest) =
      match records? bytes with
      | some found => (readLines (number + 1) rest).map (found ++ ·)
      | none => .error (badLine number bytes) := by
  rw [readLines, records?, badLine]
  cases Text.ofBytes? bytes with
  | none => rfl
  | some line =>
      simp only [Option.bind_some, Option.isSome_some, if_true]
      split
      · cases readLines (number + 1) rest <;> rfl
      · cases ofLine? line <;> rfl

/-- The records of lines of which none is bad. -/
theorem readLines_of_records {lines : List Bytes} {found : List (List Finding)} (number : Nat)
    (good : lines.mapM records? = some found) : readLines number lines = .ok found.flatten := by
  induction lines generalizing number found with
  | nil =>
      cases good
      rfl
  | cons bytes rest ih =>
      rw [List.mapM_cons, Option.bind_eq_bind, Option.bind_eq_some_iff] at good
      obtain ⟨here, line, good⟩ := good
      rw [Option.bind_eq_bind, Option.bind_eq_some_iff] at good
      obtain ⟨later, others, joined⟩ := good
      cases joined
      rw [readLines_cons, line, ih (number + 1) others]
      rfl

/-- The first bad line decides. -/
theorem readLines_of_bad {front rest : List Bytes} {bytes : Bytes} (number : Nat)
    (good : ∀ line ∈ front, (records? line).isSome) (bad : records? bytes = none) :
    readLines number (front ++ bytes :: rest) = .error (badLine (number + front.length) bytes) := by
  induction front generalizing number with
  | nil =>
      rw [List.nil_append, readLines_cons, bad]
      rfl
  | cons line front ih =>
      obtain ⟨found, here⟩ := Option.isSome_iff_exists.mp (good line List.mem_cons_self)
      have later := ih (number + 1) fun line member => good line (List.mem_cons_of_mem _ member)
      rw [List.cons_append, readLines_cons, here, later, List.length_cons, Nat.add_right_comm,
        Nat.add_assoc]
      rfl

private theorem readLines_append (number : Nat) (lines : List Bytes) {findings : List Finding}
    (fits : ∀ finding ∈ findings, finding.Fits) :
    readLines number (lines ++ findings.map lineBytes) =
      (readLines number lines).map (· ++ findings) := by
  induction lines generalizing number with
  | nil =>
      have each : (findings.map lineBytes).mapM records? = some (findings.map ([·])) := by
        rw [List.mapM_map]
        exact Json.mapM_eq_some fun finding member => records?_lineBytes (fits finding member)
      rw [List.nil_append, readLines_of_records number each, ← List.flatMap_def,
        List.flatMap_singleton']
      rfl
  | cons line lines ih =>
      rw [List.cons_append, readLines_cons, readLines_cons, ih]
      cases records? line with
      | none => rfl
      | some found =>
          cases readLines (number + 1) lines with
          | error fault => rfl
          | ok later => simp only [Except.map, List.append_assoc]

/-- Appended records are read behind those that were there. -/
theorem read_append {log : Bytes} (closed : Text.Closed 10 log) {findings : List Finding}
    (fits : ∀ finding ∈ findings, finding.Fits) :
    read (log ++ findings.flatMap entry) = (read log).map (· ++ findings) := by
  rw [read, byteLines_append closed, readLines_append 1 _ fits, read]

/-! ### Openings -/

/-- The files after records were appended to an open log. -/
def appendAll (files : Files) (log : NodeId) (findings : List Finding) : Except Fault Files :=
  findings.foldlM (fun files finding => appendTo files log finding) files

/-- The files after the log at a path was opened some times, and the records of a batch
were appended each time. -/
def appendBatches (files : Files) (path : String) (batches : List (List Finding)) :
    Except Fault Files :=
  batches.foldlM (fun files batch => do
    let (log, files) ← openAt files path
    appendAll files log batch) files

variable {files : Files} {path : String} {id : NodeId} {log : Bytes}

private theorem appendAll_holds (holds : files.Holds path id log) (findings : List Finding) :
    ∃ changed, appendAll files id findings = .ok changed ∧
      changed.Holds path id (log ++ findings.flatMap entry) := by
  induction findings generalizing files log with
  | nil => exact ⟨files, rfl, by rwa [List.flatMap_nil, List.append_nil]⟩
  | cons finding findings ih =>
      obtain ⟨next, appended, nextHolds⟩ := holds.appendAt (entry finding)
      obtain ⟨changed, later, changedHolds⟩ := ih nextHolds
      refine ⟨changed, ?_, ?_⟩
      · rw [appendAll, List.foldlM_cons, appendTo, appended]
        exact later
      · rwa [List.flatMap_cons, ← List.append_assoc]

private theorem appendBatches_holds (holds : files.Holds path id log)
    (batches : List (List Finding)) :
    ∃ changed, appendBatches files path batches = .ok changed ∧
      changed.Holds path id (log ++ batches.flatten.flatMap entry) := by
  induction batches generalizing files log with
  | nil => exact ⟨files, rfl, by rwa [List.flatten_nil, List.flatMap_nil, List.append_nil]⟩
  | cons batch batches ih =>
      obtain ⟨next, appended, nextHolds⟩ := appendAll_holds holds batch
      obtain ⟨changed, later, changedHolds⟩ := ih nextHolds
      refine ⟨changed, ?_, ?_⟩
      · rw [appendBatches, List.foldlM_cons, openAt, holds.openForWriting]
        simp only [Except.mapError, bind, Except.bind, appended]
        exact later
      · rwa [List.flatten_cons, List.flatMap_append, ← List.append_assoc]

private theorem readFrom_eq (holds : files.Holds path id log) : readFrom files path = read log := by
  rw [readFrom, holds.read]
  rfl

/-! ### What a log gives back -/

/-- What a log is to its readers, whatever stands in it. -/
structure ReadingRule : Prop where
  /-- Blank lines are passed over; the other lines give their records, in order. -/
  records : ∀ log found, (Text.byteLines log).mapM records? = some found →
    read log = .ok found.flatten
  /-- The first line that is neither blank nor a record is named by its number, unless it
  is no text. -/
  bad : ∀ log front bytes rest, Text.byteLines log = front ++ bytes :: rest →
    (∀ line ∈ front, (records? line).isSome) → records? bytes = none →
    read log = .error (badLine (front.length + 1) bytes)

private theorem readingRule : ReadingRule where
  records _ _ good := readLines_of_records 1 good
  bad log front bytes rest lines good bad := by
    rw [read, lines, readLines_of_bad 1 good bad, Nat.add_comm]

/-- A line that is no text is a fault of its own kind, which names no line. -/
theorem read_unspelled : ¬ ∀ log front bytes rest,
    Text.byteLines log = front ++ bytes :: rest → (∀ line ∈ front, (records? line).isSome) →
    records? bytes = none → read log = .error (.parse (front.length + 1)) := by
  intro always
  have unspelled : Text.ofBytes? [255] = none := by decide +kernel
  have fault := always [255, 10] [] [255] [] rfl (fun _ => nofun) (by rw [records?, unspelled]; rfl)
  have lines : Text.byteLines [255, 10] = [[255]] := rfl
  rw [read, lines, readLines, unspelled] at fault
  cases fault

/-- What the log at a path keeps: the records that stand in it and those that are appended. -/
structure Keeps (files : Files) (path : String) (id : NodeId) (log : Bytes) : Prop where
  /-- A record adds one line. -/
  line : ∀ finding : Finding, ∃ line, entry finding = line ++ [10] ∧ 10 ∉ line
  /-- Appended lines are a log that gives their records. -/
  earlier : ∀ findings : List Finding, (∀ finding ∈ findings, finding.Fits) →
    Text.Closed 10 (findings.flatMap entry) ∧ read (findings.flatMap entry) = .ok findings
  /-- What is appended, over any number of openings, is read behind what was there. -/
  appended : ∀ batches : List (List Finding), (∀ finding ∈ batches.flatten, finding.Fits) →
    ∃ changed, appendBatches files path batches = .ok changed ∧
      changed.Holds path id (log ++ batches.flatten.flatMap entry) ∧
      readFrom changed path = (readFrom files path).map (· ++ batches.flatten)
  reading : ReadingRule

/-- **Records are read as they were appended.** -/
theorem keepsRecords (holds : files.Holds path id log) (closed : Text.Closed 10 log) :
    Keeps files path id log where
  line finding := ⟨lineBytes finding, entry_eq finding, lineFeed_notMem_lineBytes finding⟩
  earlier findings fits := by
    refine ⟨flatMap_entry findings ▸ Text.closed_terminated _, ?_⟩
    have empty : Text.Closed 10 ([] : Bytes) := fun _ => nofun
    exact read_append empty fits
  appended batches fits := by
    obtain ⟨changed, appended, changedHolds⟩ := appendBatches_holds holds batches
    refine ⟨changed, appended, changedHolds, ?_⟩
    rw [readFrom_eq changedHolds, readFrom_eq holds, read_append closed fits]
  reading := readingRule

/-- A tree with a log that holds a blank line. -/
def blankLog : Files where
  nodes := #[⟨.directory Files.root [("findings.jsonl", 1)], Files.directoryMode, 0⟩,
    ⟨.file ⟨#[10]⟩, Files.fileMode, 0⟩]
  here := Files.root

/-- A log with a blank line ends with a line feed and keeps records. -/
theorem blankLog_keeps :
    blankLog.Holds "findings.jsonl" 1 [10] ∧ Text.Closed 10 ([10] : Bytes) ∧
      Keeps blankLog "findings.jsonl" 1 [10] := by
  have holds : blankLog.Holds "findings.jsonl" 1 [10] :=
    ⟨by decide +kernel, by decide +kernel, ⟨⟨#[10]⟩, rfl, rfl⟩⟩
  have closed : Text.Closed 10 ([10] : Bytes) := by
    intro c last
    exact (Option.some.inj last).symm
  exact ⟨holds, closed, keepsRecords holds closed⟩

end HintFuzz.Finding.Log

import HintFuzz.Engine.External
import HintFuzz.Proofs.Text.Search
import HintFuzz.Proofs.Text.Utf8
import Mathlib.Data.List.Basic

/-!
# Cut reports and their classes

A report that is too long is cut behind the longest front that there is room for, at most three
bytes before all the room, and never inside a character (`Report.cutRule`).

The class of a report is the first of those that its fragments point to
(`ErrorClass.admits_classify`, `ErrorClass.place_classify_le`).  A report that is cut has no
fragments but those that end within the room that there is for it (`ErrorClass.admits_cut_iff`), so
it keeps its class exactly if one of them points to that class, and otherwise gets one that is
looked for later (`ErrorClass.cuttingRule`).
-/

namespace HintFuzz

/-- A text with visible characters at its ends is not trimmed. -/
theorem Text.trim_eq_self {text : String} {first last : Char} {front rest : List Char}
    (starts : text.toList = first :: rest) (visibleFirst : HintFuzz.isBlank first = false)
    (ends : text.toList = front ++ [last]) (visibleLast : HintFuzz.isBlank last = false) :
    Text.trim text = text := by
  rw [Text.trim, starts, List.dropWhile_cons_of_neg (Bool.eq_false_iff.mp visibleFirst), ← starts, ends,
    List.reverse_concat, List.dropWhile_cons_of_neg (Bool.eq_false_iff.mp visibleLast),
    ← List.reverse_concat, List.reverse_reverse, ← ends, String.ofList_toList]

/-! ### Cutting -/

namespace Report

variable {report : String}

/-- A report is cut at a position of its bytes. -/
structure CutAt (report : String) (stop : Nat) : Prop where
  /-- The search for a place to cut starts behind all that there is room for, and finds this one
  after three steps at most. -/
  searched : Text.lastCut? report room = some stop
  steps : stop ≤ room ∧ room ≤ stop + 3
  /-- The bytes before it are a text, and no longer front of the report fits. -/
  kept : ∃ kept rest, report = kept ++ rest ∧ kept.utf8ByteSize = stop ∧
    Text.ofBytes? ((Text.bytes report).take stop) = some kept ∧ cut report = kept ++ "..." ∧
    ∀ front behind, report = front ++ behind → front.utf8ByteSize ≤ room →
      ∃ more, kept = front ++ more

/-- What is left of a report. -/
structure CutRule (report : String) : Prop where
  short : report.utf8ByteSize ≤ room → cut report = report
  long : room < report.utf8ByteSize → ∃ stop, CutAt report stop
  size : (cut report).utf8ByteSize ≤ room + 3

private theorem cutAt_of_long (long : room < report.utf8ByteSize) :
    CutAt report (Text.width (Text.frontWithin room report.toList)) where
  searched := Text.lastCut?_eq_width report room
  steps := by
    have fits := Text.width_frontWithin_le room report.toList
    rw [Text.utf8ByteSize_eq_width] at long
    have close := Text.lt_width_frontWithin long
    omega
  kept := by
    obtain ⟨rest, split⟩ := Text.exists_eq_frontWithin_append room report
    have size := Text.utf8ByteSize_ofList (Text.frontWithin room report.toList)
    refine ⟨_, rest, split, size, ?_, if_neg (Nat.not_le.mpr long), ?_⟩
    · have bytes := congrArg Text.bytes split
      rw [Text.bytes_append] at bytes
      rw [bytes, ← size, ← Text.length_bytes, List.take_left, Text.ofBytes?_bytes]
    · rintro front behind rfl fits
      exact Text.exists_frontWithin_eq_append fits behind

/-- **A report is cut behind the longest front that there is room for.** -/
theorem cutRule (report : String) : CutRule report where
  short short := if_pos short
  long long := ⟨_, cutAt_of_long long⟩
  size := by
    rcases Nat.lt_or_ge room report.utf8ByteSize with long | short
    · obtain ⟨kept, -, -, size, -, same, -⟩ := (cutAt_of_long long).kept
      have fits := (cutAt_of_long long).steps.1
      rw [same, String.utf8ByteSize_append, size]
      exact Nat.add_le_add_right fits _
    · rw [cut, if_pos short]
      exact Nat.le_add_right_of_le short

end Report

namespace ErrorClass

variable {text message : String} {errorClass : ErrorClass}

/-! ### The class of a text -/

/-- The classes that a text can be given: the one of texts that say nothing, and those that its
fragments point to. -/
inductive Admits (text : String) : ErrorClass → Prop
  | unclassified : Admits text unclassified
  | fragment {fragment : String} {errorClass : ErrorClass} (row : (fragment, errorClass) ∈ fragments)
      (present : fragment.toList <:+: Text.folded text) : Admits text errorClass

/-- The place of a class in the order in which classes are looked for. -/
def place (errorClass : ErrorClass) : Nat :=
  all.idxOf errorClass

private theorem place_injective : Function.Injective place := by
  intro left right same
  have listed : left ∈ all := by cases left <;> decide
  exact (List.idxOf_inj listed).mp same

private theorem place_le_unclassified (errorClass : ErrorClass) :
    errorClass.place ≤ unclassified.place := by
  cases errorClass <;> decide

/-- The rows of the table are in the order of their classes. -/
theorem pairwise_place_fragments :
    fragments.Pairwise fun first second => first.2.place ≤ second.2.place := by
  decide +kernel

/-- The class of a text is one that it can be given. -/
theorem admits_classify (text : String) : Admits text (classify text) := by
  unfold classify
  simp only
  split
  · next fragment errorClass found =>
      have hit := List.find?_some found
      exact .fragment (List.mem_of_find?_eq_some found) (Text.occursIn_iff.mp hit)
  · exact .unclassified

/-- No class that a text can be given is looked for before the one that it is given. -/
theorem place_classify_le (admits : Admits text errorClass) :
    (classify text).place ≤ errorClass.place := by
  cases admits with
  | unclassified => exact place_le_unclassified _
  | fragment row present =>
      have hit := Text.occursIn_iff.mpr present
      unfold classify
      simp only
      split
      · next first firstClass found =>
          obtain ⟨-, before, behind, split, missed⟩ := List.find?_eq_some_iff_append.mp found
          have ordered := pairwise_place_fragments
          rw [split] at row ordered
          rcases List.mem_append.mp row with earlier | later
          · have miss := missed _ earlier
            simp only [hit, Bool.not_true, Bool.false_eq_true] at miss
          · rcases List.mem_cons.mp later with same | behind
            · cases same
              exact Nat.le_refl _
            · exact (List.pairwise_cons.mp (List.pairwise_append.mp ordered).2.1).1 _ behind
      · next missing => exact absurd hit (List.find?_eq_none.mp missing _ row)

/-- A text that can be given nothing that another one cannot has its class exactly if it can be
given that. -/
theorem classify_eq_classify_iff {part whole : String}
    (fewer : ∀ errorClass, Admits part errorClass → Admits whole errorClass) :
    classify part = classify whole ↔ Admits part (classify whole) := by
  constructor
  · intro same
    exact same ▸ admits_classify part
  · intro admits
    exact place_injective (Nat.le_antisymm (place_classify_le admits)
      (place_classify_le (fewer _ (admits_classify part))))

/-! ### Texts in front and behind -/

/-- More text behind takes away no class. -/
theorem Admits.append (admits : Admits text errorClass) (rest : String) :
    Admits (text ++ rest) errorClass := by
  cases admits with
  | unclassified => exact .unclassified
  | fragment row present =>
      refine .fragment row ?_
      rw [Text.folded_append]
      exact present.trans (List.prefix_append _ _).isInfix

private theorem Admits.prepend (admits : Admits text errorClass) (front : String) :
    Admits (front ++ text) errorClass := by
  cases admits with
  | unclassified => exact .unclassified
  | fragment row present =>
      refine .fragment row ?_
      rw [Text.folded_append]
      exact present.trans (List.suffix_append _ _).isInfix

/-- A text of which no fragment has a character. -/
def Silent (text : String) : Prop :=
  ∀ row ∈ fragments, ∀ c ∈ Text.folded text, c ∉ row.1.toList

private theorem admits_append_silent_iff {rest : String} (silent : Silent rest) :
    Admits (text ++ rest) errorClass ↔ Admits text errorClass := by
  refine ⟨fun admits => ?_, fun admits => admits.append rest⟩
  cases admits with
  | unclassified => exact .unclassified
  | fragment row present =>
      rw [Text.folded_append, Text.infix_append_left_iff (silent _ row)] at present
      exact .fragment row present

private theorem admits_silent_append_iff {front : String} (silent : Silent front) :
    Admits (front ++ text) errorClass ↔ Admits text errorClass := by
  refine ⟨fun admits => ?_, fun admits => admits.prepend front⟩
  cases admits with
  | unclassified => exact .unclassified
  | fragment row present =>
      rw [Text.folded_append, Text.infix_append_right_iff (silent _ row)] at present
      exact .fragment row present

/-- What stands in front of a text and has nothing of a fragment does not change its class. -/
theorem classify_silent_append {front : String} (silent : Silent front) :
    classify (front ++ text) = classify text := by
  rw [classify_eq_classify_iff fun _ => (admits_silent_append_iff silent).mp,
    admits_silent_append_iff silent]
  exact admits_classify text

/-- A character that is in no fragment may be repeated. -/
theorem silent_replicate {c : Char} (lower : Text.lowerAscii c = [c])
    (foreign : ∀ row ∈ fragments, c ∉ row.1.toList) (count : Nat) :
    Silent (String.ofList (List.replicate count c)) := by
  intro row member folded inside
  rw [Text.folded, String.toList_ofList] at inside
  obtain ⟨repeated, many, same⟩ := List.mem_flatMap.mp inside
  cases List.eq_of_mem_replicate many
  rw [lower] at same
  cases List.mem_singleton.mp same
  exact foreign row member

private theorem silent_mark : Silent "..." :=
  silent_replicate rfl (by decide +kernel) 3

/-- A text that has nothing of a fragment can be given no class. -/
theorem Silent.eq_unclassified (silent : Silent text) (admits : Admits text errorClass) :
    errorClass = unclassified := by
  have filled : ∀ row ∈ fragments, row.1.toList ≠ [] := by decide +kernel
  cases admits with
  | unclassified => rfl
  | fragment row present =>
      obtain ⟨c, member⟩ := List.exists_mem_of_ne_nil _ (filled _ row)
      exact absurd member (silent _ row c (present.subset member))

/-! ### Cutting -/

/-- A report that is cut has the fragments of the fronts that there is room for. -/
theorem admits_cut_iff :
    Admits (Report.cut message) errorClass ↔
      ∃ kept rest, message = kept ++ rest ∧ kept.utf8ByteSize ≤ Report.room ∧
        Admits kept errorClass := by
  unfold Report.cut
  split
  · next fits =>
      constructor
      · exact fun admits => ⟨message, "", String.append_empty.symm, fits, admits⟩
      · rintro ⟨kept, rest, rfl, -, admits⟩
        exact admits.append rest
  · next long =>
      rw [admits_append_silent_iff silent_mark]
      constructor
      · intro admits
        obtain ⟨rest, split⟩ := Text.exists_eq_frontWithin_append Report.room message
        refine ⟨_, rest, split, ?_, admits⟩
        rw [Text.utf8ByteSize_ofList]
        exact Text.width_frontWithin_le _ _
      · rintro ⟨kept, rest, rfl, fits, admits⟩
        obtain ⟨more, split⟩ := Text.exists_frontWithin_eq_append fits rest
        rw [split]
        exact admits.append more

/-- A report that is cut has no fragment that the complete one does not have. -/
theorem admits_of_admits_cut (admits : Admits (Report.cut message) errorClass) :
    Admits message errorClass := by
  obtain ⟨kept, rest, rfl, -, admits⟩ := admits_cut_iff.mp admits
  exact admits.append rest

/-- What stands behind all the room that there is does not count. -/
theorem classify_cut_silent_append {front : String} (silent : Silent front)
    (wide : Report.room ≤ front.utf8ByteSize) :
    classify (Report.cut (front ++ text)) = unclassified := by
  obtain ⟨kept, rest, split, fits, admits⟩ :=
    admits_cut_iff.mp (admits_classify (Report.cut (front ++ text)))
  have narrow : Text.width kept.toList ≤ Text.width front.toList := by
    rw [← Text.utf8ByteSize_eq_width, ← Text.utf8ByteSize_eq_width]
    exact Nat.le_trans fits wide
  have characters := congrArg String.toList split
  rw [String.toList_append, String.toList_append] at characters
  obtain ⟨more, whole⟩ := Text.prefix_of_width_le ⟨rest.toList, characters.symm⟩
    (List.prefix_append front.toList text.toList) narrow
  have spelled : kept ++ String.ofList more = front := by
    apply String.toList_injective
    rw [String.toList_append, String.toList_ofList, whole]
  have admitsFront := admits.append (String.ofList more)
  rw [spelled] at admitsFront
  exact silent.eq_unclassified admitsFront

/-! ### Failed runs -/

/-- No fragment points to a class that is looked for after the one of crashes. -/
theorem Admits.eq_unclassified_or_place_le (admits : Admits text errorClass) :
    errorClass = ErrorClass.unclassified ∨ errorClass.place ≤ crash.place := by
  have early : ∀ row ∈ fragments, row.2.place ≤ crash.place := by decide +kernel
  cases admits with
  | unclassified => exact .inl rfl
  | fragment row _ => exact .inr (early _ row)

private theorem ofReport_exited (code : Nat) (report : String) :
    ofReport (.exited code) report = classify report := by
  rw [ofReport]
  split
  · next silent => rw [if_neg ExitStatus.noConfusion, silent]
  · rfl

private theorem ofReport_killed (report : String) :
    ofReport .killed report =
      if classify report = unclassified then crash else classify report := by
  rw [ofReport]
  split
  · next silent => rw [if_pos rfl, if_pos silent]
  · next said => rw [if_neg said]

private theorem ofRun_of_failed {status : ExitStatus} (failed : status.isSuccess = false)
    (program : String)
    (limit : Duration) (report : String) (result : Except Files.Fault Bytes) :
    Outcome.ofRun program limit ⟨.ok (.finished status report), result⟩ =
      .failed (ofReport status report) s!"{status.describe}: {report}" :=
  if_neg (Bool.eq_false_iff.mp failed)

/-- A run that fails gets the class that a complete report stands for if the cut one says the same.
If it was killed, it also does if the complete report speaks of a crash. -/
theorem ofReport_cut_iff {status : ExitStatus} :
    ofReport status (Report.cut message) = ofReport status message ↔
      classify (Report.cut message) = classify message ∨
        status = .killed ∧ classify message = crash := by
  have later := place_classify_le (admits_of_admits_cut (admits_classify (Report.cut message)))
  have early := (admits_classify (Report.cut message)).eq_unclassified_or_place_le
  cases status with
  | exited code =>
      rw [ofReport_exited, ofReport_exited]
      exact ⟨.inl, fun either => either.resolve_right fun killed => ExitStatus.noConfusion killed.1⟩
  | killed =>
      rw [ofReport_killed, ofReport_killed]
      generalize classify (Report.cut message) = part at later early ⊢
      generalize classify message = whole at later early ⊢
      rcases early with rfl | early
      · rw [if_pos rfl]
        split
        · next silent => exact ⟨fun _ => .inl silent.symm, fun _ => rfl⟩
        · next said =>
            exact ⟨fun same => .inr ⟨rfl, same.symm⟩,
              fun either => (either.resolve_left (said ∘ Eq.symm)).2.symm⟩
      · have saidPart : part ≠ unclassified := by
          rintro rfl
          exact absurd early (by decide)
        have saidWhole : whole ≠ unclassified := by
          rintro rfl
          exact absurd (Nat.le_trans later early) (by decide)
        rw [if_neg saidPart, if_neg saidWhole]
        refine ⟨.inl, ?_⟩
        rintro (same | ⟨-, rfl⟩)
        · exact same
        · exact place_injective (Nat.le_antisymm early later)

/-- What cutting a report to size does to the class that a failed run is given. -/
structure CuttingRule (message : String) : Prop where
  /-- A report keeps its class exactly if a front of it that there is room for can be given it. -/
  kept_iff : classify (Report.cut message) = classify message ↔
    ∃ kept rest, message = kept ++ rest ∧ kept.utf8ByteSize ≤ Report.room ∧
      Admits kept (classify message)
  /-- Another class that it gets is looked for later. -/
  later : (classify message).place ≤ (classify (Report.cut message)).place
  /-- A run that fails with that report gets the class of the complete one exactly if the report
  keeps its class, or if it speaks of a crash and the run was killed. -/
  run_iff : ∀ program limit status result errors output, status.isSuccess = false →
    Report.whole errors output = message →
    ((∃ wording, Outcome.ofRun program limit
        ⟨.ok (.finished status (Report.ofOutput errors output)), result⟩ =
          .failed (ofReport status message) wording) ↔
      classify (Report.cut message) = classify message ∨
        status = .killed ∧ classify message = crash)

/-- **Reports are cut before they are classified.** -/
theorem cuttingRule (message : String) : CuttingRule message where
  kept_iff := by
    rw [classify_eq_classify_iff fun _ => admits_of_admits_cut, admits_cut_iff]
  later := place_classify_le (admits_of_admits_cut (admits_classify _))
  run_iff := by
    rintro program limit status result errors output failed rfl
    rw [← ofReport_cut_iff, ofRun_of_failed failed, Report.ofOutput]
    constructor
    · rintro ⟨wording, same⟩
      exact (Outcome.failed.inj same).1
    · intro same
      rw [same]
      exact ⟨_, rfl⟩

/-- A report that tells what went wrong behind all the room that there is. -/
def lateReport : String :=
  String.ofList (List.replicate Report.room '0') ++ "range check"

private theorem silent_zeros (count : Nat) : Silent (String.ofList (List.replicate count '0')) :=
  silent_replicate rfl (by decide +kernel) count

private theorem whole_lateReport : Report.whole lateReport "" = lateReport := by
  have spelled : lateReport.toList = List.replicate Report.room '0' ++ "range check".toList := by
    rw [lateReport, String.toList_append, String.toList_ofList]
  have starts : lateReport.toList =
      '0' :: (List.replicate (Report.room - 1) '0' ++ "range check".toList) := by
    rw [spelled, ← List.cons_append, ← List.replicate_succ]
    rfl
  have ends : lateReport.toList =
      (List.replicate Report.room '0' ++ "range chec".toList) ++ ['k'] := by
    rw [spelled, List.append_assoc]
    rfl
  rw [Report.whole, Report.joined, if_pos (by decide)]
  exact Text.trim_eq_self starts (by decide) ends (by decide)

/-- The report speaks of a range check, but nothing of it is left in what is kept. -/
theorem lateReport_changes_class :
    classify (Report.whole lateReport "") = rangeCheck ∧
      classify (Report.ofOutput lateReport "") = unclassified ∧
      ¬ ∀ message, classify (Report.cut message) = classify message := by
  have complete : classify lateReport = rangeCheck := by
    rw [lateReport, classify_silent_append (silent_zeros _)]
    decide +kernel
  have kept : classify (Report.cut lateReport) = unclassified := by
    refine classify_cut_silent_append (silent_zeros _) ?_
    rw [Text.utf8ByteSize_ofList]
    exact List.length_replicate.symm.le.trans (Text.length_le_width _)
  refine ⟨?_, ?_, fun keeps => ?_⟩
  · rw [whole_lateReport, complete]
  · rw [Report.ofOutput, whole_lateReport, kept]
  · exact absurd (kept.symm.trans ((keeps lateReport).trans complete)) (by decide)

end ErrorClass

end HintFuzz

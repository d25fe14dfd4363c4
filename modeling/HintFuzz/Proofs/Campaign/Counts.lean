import HintFuzz.Proofs.Campaign.Accounting

/-!
# What summaries count

A summary counts the outcomes of each kind and label, and its maps are those that
come of raising the count of one label after another.  Neither the order of the outcomes
nor their grouping shows in it (`Grouping.accounts`).
-/

namespace HintFuzz

/-! ### Maps of counts -/

section Maps

variable {Label : Type} {name : Label → String}

/-- A map in the order of its names, with a count raised.  A name that is not there is
made. -/
def raise (name : String) (more : Nat) : List (String × Nat) → List (String × Nat)
  | [] => [(name, more)]
  | (other, count) :: rest =>
    if name = other then (other, count + more) :: rest
    else if name < other then (name, more) :: (other, count) :: rest
    else (other, count) :: raise name more rest

/-- The labels with a count, under their names. -/
def counted (name : Label → String) (labels : List Label) (count : Label → Nat) :
    List (String × Nat) :=
  (labels.map fun label => (name label, count label)).filter fun entry => 0 < entry.2

private theorem counted_cons (label : Label) (labels : List Label) (count : Label → Nat) :
    counted name (label :: labels) count =
      if 0 < count label then (name label, count label) :: counted name labels count
      else counted name labels count := by
  simp only [counted, List.map_cons, List.filter_cons, decide_eq_true_eq]

private theorem counted_congr {labels : List Label} {left right : Label → Nat}
    (same : ∀ label ∈ labels, left label = right label) :
    counted name labels left = counted name labels right := by
  unfold counted
  rw [List.map_congr_left fun label member => by rw [same label member]]

private theorem mem_counted {labels : List Label} {count : Label → Nat} {entry : String × Nat} :
    entry ∈ counted name labels count ↔
      ∃ label ∈ labels, 0 < count label ∧ (name label, count label) = entry := by
  simp only [counted, List.mem_filter, List.mem_map, decide_eq_true_eq]
  constructor
  · rintro ⟨⟨label, member, rfl⟩, positive⟩
    exact ⟨label, member, positive, rfl⟩
  · rintro ⟨label, member, positive, rfl⟩
    exact ⟨⟨label, member, rfl⟩, positive⟩

/-- A name before all others of a map is put in front. -/
theorem raise_of_first {first : String} {more : Nat} {map : List (String × Nat)}
    (least : ∀ entry ∈ map, first < entry.1) : raise first more map = (first, more) :: map := by
  cases map with
  | nil => rfl
  | cons entry rest =>
      have before := least entry List.mem_cons_self
      rw [raise, if_neg (String.ne_of_lt before), if_pos before]

variable [DecidableEq Label]

/-- Raising a count in the map of some counts gives the map of the raised counts. -/
theorem raise_counted {labels : List Label} (ordered : (labels.map name).Pairwise (· < ·))
    {label : Label} (member : label ∈ labels) {more : Nat} (positive : 0 < more)
    (count : Label → Nat) :
    raise (name label) more (counted name labels count) =
      counted name labels fun other => count other + if other = label then more else 0 := by
  induction labels with
  | nil => cases member
  | cons first rest ih =>
      rw [List.map_cons, List.pairwise_cons] at ordered
      obtain ⟨before, ordered⟩ := ordered
      have least (other : Label) (found : other ∈ rest) : name first < name other :=
        before _ (List.mem_map_of_mem found)
      rw [counted_cons, counted_cons]
      by_cases here : first = label
      · subst here
        have others : counted name rest (fun other => count other + if other = first then more else 0) =
            counted name rest count := by
          refine counted_congr fun other found => ?_
          have different : other ≠ first := by
            rintro rfl
            exact String.lt_irrefl _ (least other found)
          rw [if_neg different, Nat.add_zero]
        rw [others, if_pos (rfl : first = first), if_pos (Nat.add_pos_right (count first) positive)]
        split
        · rw [raise, if_pos rfl]
        · next none =>
            have zero : count first = 0 := by omega
            rw [raise_of_first, zero, Nat.zero_add]
            intro entry found
            obtain ⟨other, otherMember, -, rfl⟩ := mem_counted.mp found
            exact least other otherMember
      · have later : label ∈ rest := by
          rcases List.mem_cons.mp member with same | later
          · exact absurd same.symm here
          · exact later
        have after : name first < name label := least label later
        rw [if_neg here, Nat.add_zero, ← ih ordered later]
        split
        · rw [raise, if_neg (String.ne_of_lt after).symm, if_neg (String.lt_asymm after)]
        · rfl

/-- Raising the counts of a map by those of some of the labels adds these. -/
theorem foldl_raise_counted_sublist {labels some : List Label}
    (ordered : (labels.map name).Pairwise (· < ·)) (part : some.Sublist labels)
    (left right : Label → Nat) :
    (counted name some right).foldl (fun map entry => raise entry.1 entry.2 map)
        (counted name labels left) =
      counted name labels fun label => left label + if label ∈ some then right label else 0 := by
  induction some generalizing left with
  | nil => simp [counted]
  | cons first rest ih =>
      have distinct : labels.Nodup := by
        refine (List.pairwise_map.mp ordered).imp ?_
        rintro first later before rfl
        exact String.lt_irrefl _ before
      have new : first ∉ rest := (List.nodup_cons.mp (part.nodup distinct)).1
      have partRest := (List.sublist_cons_self first rest).trans part
      rw [counted_cons]
      split
      · next positive =>
          rw [List.foldl_cons, raise_counted ordered (part.subset List.mem_cons_self) positive,
            ih partRest]
          refine counted_congr fun label _ => ?_
          by_cases here : label = first
          · simp [here, new]
          · simp [here]
      · next none =>
          rw [ih partRest]
          refine counted_congr fun label _ => ?_
          by_cases here : label = first
          · simp only [here, new, if_false, List.mem_cons_self, if_true]
            omega
          · simp [here]

/-- Raising all counts of a map by those of another one adds the counts. -/
theorem foldl_raise_counted {labels : List Label} (ordered : (labels.map name).Pairwise (· < ·))
    (left right : Label → Nat) :
    (counted name labels right).foldl (fun map entry => raise entry.1 entry.2 map)
        (counted name labels left) =
      counted name labels fun label => left label + right label := by
  rw [foldl_raise_counted_sublist ordered (List.Sublist.refl labels)]
  exact counted_congr fun label member => by rw [if_pos member]

end Maps

/-! ### Counts under labels -/

/-- Counts of a type that are kept under labels. -/
structure LabelCounts (Counts Label : Type) [Add Counts] [Zero Counts] [DecidableEq Label] where
  get : Counts → Label → Nat
  /-- One count under a label and none elsewhere. -/
  one : Label → Counts
  all : List Label
  name : Label → String
  mem_all : ∀ label, label ∈ all
  ordered : (all.map name).Pairwise (· < ·)
  get_add : ∀ left right label, get (left + right) label = get left label + get right label
  get_zero : ∀ label, get 0 label = 0
  get_one : ∀ label other, get (one label) other = if other = label then 1 else 0

/-- The counts of inconclusive outcomes. -/
def InconclusiveCounts.kept : LabelCounts InconclusiveCounts Inconclusive.Label where
  get := get
  one := one
  all := Inconclusive.Label.all
  name := Inconclusive.Label.name
  mem_all label := by cases label <;> decide
  ordered := by decide
  get_add _ _ label := by cases label <;> rfl
  get_zero label := by cases label <;> rfl
  get_one label other := by cases label <;> cases other <;> rfl

/-- The counts of skipped outcomes. -/
def SkipCounts.kept : LabelCounts SkipCounts SkipReason.Label where
  get := get
  one := one
  all := SkipReason.Label.all
  name := SkipReason.Label.name
  mem_all label := by cases label <;> decide
  ordered := by decide
  get_add _ _ label := by cases label <;> rfl
  get_zero label := by cases label <;> rfl
  get_one label other := by cases label <;> cases other <;> rfl

namespace LabelCounts

variable {Counts Label : Type} [Add Counts] [Zero Counts] [DecidableEq Label]
  (kept : LabelCounts Counts Label)

/-- The labels with a count, in the order of their names. -/
def entries (counts : Counts) : List (String × Nat) :=
  counted kept.name kept.all (kept.get counts)

/-- The sum over all labels. -/
def total (counts : Counts) : Nat :=
  (kept.all.map (kept.get counts)).foldr (· + ·) 0

private theorem entries_zero : kept.entries 0 = [] := by
  simp [entries, counted, kept.get_zero]

private theorem entries_add (left right : Counts) :
    kept.entries (left + right) =
      (kept.entries right).foldl (fun map entry => raise entry.1 entry.2 map)
        (kept.entries left) := by
  rw [entries, entries, entries, foldl_raise_counted kept.ordered]
  exact counted_congr fun label _ => kept.get_add left right label

private theorem entries_one (label : Label) :
    kept.entries (kept.one label) = [(kept.name label, 1)] := by
  have raised := raise_counted kept.ordered (kept.mem_all label) Nat.one_pos (kept.get 0)
  have empty : counted kept.name kept.all (kept.get 0) = [] := kept.entries_zero
  rw [empty] at raised
  rw [entries, ← raise, raised]
  refine counted_congr fun other _ => ?_
  rw [kept.get_one, kept.get_zero, Nat.zero_add]

private theorem total_add (left right : Counts) :
    kept.total (left + right) = kept.total left + kept.total right := by
  unfold total
  induction kept.all with
  | nil => rfl
  | cons label rest ih =>
      simp only [List.map_cons, List.foldr_cons, ih, kept.get_add]
      omega

/-- The counts of all labels are those of the map. -/
theorem total_eq_foldr_entries (counts : Counts) :
    kept.total counts = ((kept.entries counts).map Prod.snd).foldr (· + ·) 0 := by
  unfold total entries
  induction kept.all with
  | nil => rfl
  | cons label rest ih =>
      rw [counted_cons, List.map_cons, List.foldr_cons, ih]
      split
      · rw [List.map_cons, List.foldr_cons]
      · omega

private theorem total_one (label : Label) : kept.total (kept.one label) = 1 := by
  rw [total_eq_foldr_entries, entries_one]
  rfl

end LabelCounts

/-! ### Outcomes -/

namespace Iteration

def isFinding : Iteration → Bool
  | finding _ => true
  | _ => false

/-- The label that an outcome is counted under among the inconclusive ones. -/
def inconclusiveLabel? : Iteration → Option Inconclusive.Label
  | inconclusive reason => some reason.label
  | _ => none

/-- The label that an outcome is counted under among the skipped ones. -/
def skipLabel? : Iteration → Option SkipReason.Label
  | skipped reason => some reason.label
  | _ => none

end Iteration

namespace Summary

private theorem ofIterations_cons (outcome : Iteration) (rest : List Iteration) :
    ofIterations (outcome :: rest) = ofIteration outcome + ofIterations rest :=
  List.sum_cons

/-- What adds up and is one for some outcomes counts those. -/
theorem ofIterations_count {count : Summary → Nat} {counts : Iteration → Bool}
    (zero : count 0 = 0) (add : ∀ left right, count (left + right) = count left + count right)
    (one : ∀ outcome, count (ofIteration outcome) = if counts outcome then 1 else 0)
    (outcomes : List Iteration) : count (ofIterations outcomes) = outcomes.countP counts := by
  induction outcomes with
  | nil => exact zero
  | cons outcome rest ih =>
      rw [ofIterations_cons, add, one, ih, List.countP_cons, Nat.add_comm]

/-- A part of summaries that counts outcomes under their labels. -/
structure CountsLabels {Counts Label : Type} [Add Counts] [Zero Counts] [DecidableEq Label]
    (kept : LabelCounts Counts Label) (part : Summary → Counts)
    (label? : Iteration → Option Label) : Prop where
  zero : part 0 = 0
  add : ∀ left right, part (left + right) = part left + part right
  one : ∀ outcome, part (ofIteration outcome) = (label? outcome).elim 0 kept.one

private theorem inconclusive_countsLabels :
    CountsLabels InconclusiveCounts.kept inconclusive Iteration.inconclusiveLabel? where
  zero := rfl
  add _ _ := rfl
  one outcome := by cases outcome <;> rfl

private theorem skipped_countsLabels :
    CountsLabels SkipCounts.kept skipped Iteration.skipLabel? where
  zero := rfl
  add _ _ := rfl
  one outcome := by cases outcome <;> rfl

section Labels

variable {Counts Label : Type} [Add Counts] [Zero Counts] [DecidableEq Label]
  {kept : LabelCounts Counts Label} {part : Summary → Counts} {label? : Iteration → Option Label}

/-- The count of a label is the number of outcomes under it. -/
theorem CountsLabels.get_eq (counts : CountsLabels kept part label?) (label : Label)
    (outcomes : List Iteration) :
    kept.get (part (ofIterations outcomes)) label =
      outcomes.countP fun outcome => label? outcome = some label := by
  refine @ofIterations_count (fun summary => kept.get (part summary) label) _ ?_ ?_ ?_ outcomes
  · rw [counts.zero, kept.get_zero]
  · intro left right
    rw [counts.add, kept.get_add]
  · intro outcome
    rw [counts.one]
    cases label? outcome with
    | none => exact kept.get_zero label
    | some other =>
        rw [Option.elim_some, kept.get_one]
        simp only [Option.some.injEq, decide_eq_true_eq]
        exact if_congr eq_comm rfl rfl

private theorem CountsLabels.entries_record (counts : CountsLabels kept part label?)
    (summary : Summary)
    (outcome : Iteration) :
    kept.entries (part (summary.record outcome)) =
      match label? outcome with
      | some label => raise (kept.name label) 1 (kept.entries (part summary))
      | none => kept.entries (part summary) := by
  have recorded : summary.record outcome = summary + ofIteration outcome := rfl
  rw [recorded, counts.add, counts.one, kept.entries_add]
  cases label? outcome with
  | none => rw [Option.elim_none, kept.entries_zero, List.foldl_nil]
  | some label => rw [Option.elim_some, kept.entries_one, List.foldl_cons, List.foldl_nil]

end Labels

/-- What a summary says of the outcomes that it counts. -/
structure Tallies (summary : Summary) (outcomes : List Iteration) : Prop where
  iterations : summary.iterations = outcomes.length
  passed : summary.passed = outcomes.countP (· = .pass)
  findings : summary.findings = outcomes.countP Iteration.isFinding
  cancelled : summary.cancelled = outcomes.countP (· = .cancelled)
  inconclusive : ∀ label, summary.inconclusive.get label =
    outcomes.countP fun outcome => outcome.inconclusiveLabel? = some label
  skipped : ∀ label, summary.skipped.get label =
    outcomes.countP fun outcome => outcome.skipLabel? = some label
  /-- A label is in the map, with its count, if there is an outcome under it. -/
  inconclusive_entry : ∀ name count, (name, count) ∈ summary.inconclusive.entries ↔
    ∃ label, 0 < summary.inconclusive.get label ∧
      (label.name, summary.inconclusive.get label) = (name, count)
  skipped_entry : ∀ name count, (name, count) ∈ summary.skipped.entries ↔
    ∃ label, 0 < summary.skipped.get label ∧
      (label.name, summary.skipped.get label) = (name, count)
  /-- No outcome is lost or counted twice. -/
  total : summary.iterations = summary.passed + summary.findings + summary.cancelled +
    summary.inconclusive.total + summary.skipped.total

private theorem total_ofIterations (outcomes : List Iteration) :
    (ofIterations outcomes).iterations =
      (ofIterations outcomes).passed + (ofIterations outcomes).findings +
        (ofIterations outcomes).cancelled + (ofIterations outcomes).inconclusive.total +
        (ofIterations outcomes).skipped.total := by
  induction outcomes with
  | nil => rfl
  | cons outcome rest ih =>
      have one : (ofIteration outcome).iterations = (ofIteration outcome).passed +
          (ofIteration outcome).findings + (ofIteration outcome).cancelled +
          (ofIteration outcome).inconclusive.total + (ofIteration outcome).skipped.total := by
        cases outcome with
        | inconclusive reason =>
            have total : (InconclusiveCounts.one reason.label).total = 1 :=
              InconclusiveCounts.kept.total_one reason.label
            simp only [ofIteration, total]
            rfl
        | skipped reason =>
            have total : (SkipCounts.one reason.label).total = 1 :=
              SkipCounts.kept.total_one reason.label
            simp only [ofIteration, total]
            rfl
        | pass => rfl
        | finding record => rfl
        | cancelled => rfl
      have inconclusive (left right : InconclusiveCounts) :
          (left + right).total = left.total + right.total :=
        InconclusiveCounts.kept.total_add left right
      have skipped (left right : SkipCounts) : (left + right).total = left.total + right.total :=
        SkipCounts.kept.total_add left right
      have sum (left right : Summary) : left + right = left.merge right := rfl
      rw [ofIterations_cons, sum, merge_eq]
      simp only [inconclusive, skipped]
      omega

/-- The summary of outcomes counts each kind of them, label by label. -/
theorem tallies_ofIterations (outcomes : List Iteration) :
    (ofIterations outcomes).Tallies outcomes where
  iterations := by
    induction outcomes with
    | nil => rfl
    | cons outcome rest ih =>
        have one : (ofIteration outcome).iterations = 1 := by cases outcome <;> rfl
        rw [List.length_cons, ← ih, Nat.add_comm, ← one]
        rfl
  passed := ofIterations_count rfl (fun _ _ => rfl) (fun outcome => by cases outcome <;> rfl) outcomes
  findings :=
    ofIterations_count rfl (fun _ _ => rfl) (fun outcome => by cases outcome <;> rfl) outcomes
  cancelled :=
    ofIterations_count rfl (fun _ _ => rfl) (fun outcome => by cases outcome <;> rfl) outcomes
  inconclusive label := inconclusive_countsLabels.get_eq label outcomes
  skipped label := skipped_countsLabels.get_eq label outcomes
  inconclusive_entry name count := by
    refine mem_counted.trans ⟨?_, ?_⟩
    · rintro ⟨label, -, positive, same⟩
      exact ⟨label, positive, same⟩
    · rintro ⟨label, positive, same⟩
      exact ⟨label, InconclusiveCounts.kept.mem_all label, positive, same⟩
  skipped_entry name count := by
    refine mem_counted.trans ⟨?_, ?_⟩
    · rintro ⟨label, -, positive, same⟩
      exact ⟨label, positive, same⟩
    · rintro ⟨label, positive, same⟩
      exact ⟨label, SkipCounts.kept.mem_all label, positive, same⟩
  total := total_ofIterations outcomes

end Summary

/-! ### Chunks and merges -/

namespace Grouping

/-- The map of a grouping: within a chunk the count of a label is raised by every outcome
under it, and two maps are merged by raising the counts of one by those of the other. -/
def labelMap (name? : Iteration → Option String) : Grouping → List (String × Nat)
  | chunk outcomes => outcomes.foldl (fun map outcome =>
      match name? outcome with
      | some name => raise name 1 map
      | none => map) []
  | merge left right =>
    (right.labelMap name?).foldl (fun map entry => raise entry.1 entry.2 map)
      (left.labelMap name?)

private theorem entries_summary {Counts Label : Type} [Add Counts] [Zero Counts] [DecidableEq Label]
    {kept : LabelCounts Counts Label} {part : Summary → Counts}
    {label? : Iteration → Option Label} (counts : Summary.CountsLabels kept part label?)
    (grouping : Grouping) :
    kept.entries (part grouping.summary) =
      grouping.labelMap fun outcome => (label? outcome).map kept.name := by
  induction grouping with
  | chunk outcomes =>
      have go (summary : Summary) : kept.entries (part (outcomes.foldl Summary.record summary)) =
          outcomes.foldl (fun map outcome =>
            match (label? outcome).map kept.name with
            | some name => raise name 1 map
            | none => map) (kept.entries (part summary)) := by
        induction outcomes generalizing summary with
        | nil => rfl
        | cons outcome rest ih =>
            rw [List.foldl_cons, ih, counts.entries_record, List.foldl_cons]
            cases label? outcome <;> rfl
      have none : kept.entries (part .empty) = [] :=
        (congrArg kept.entries counts.zero).trans kept.entries_zero
      rw [summary, go, none, labelMap]
  | merge left right ihLeft ihRight =>
      have merged : (left.merge right).summary = left.summary + right.summary := rfl
      rw [merged, counts.add, kept.entries_add, ihLeft, ihRight, labelMap]

/-- What the summary of a grouping says of the outcomes that are grouped. -/
structure Accounts (grouping : Grouping) (outcomes : List Iteration) : Prop where
  /-- The summary is that of the outcomes recorded one after another. -/
  sequential : grouping.summary = outcomes.foldl Summary.record .empty
  tallies : grouping.summary.Tallies outcomes
  inconclusive_entries : grouping.summary.inconclusive.entries =
    grouping.labelMap fun outcome => outcome.inconclusiveLabel?.map Inconclusive.Label.name
  skipped_entries : grouping.summary.skipped.entries =
    grouping.labelMap fun outcome => outcome.skipLabel?.map SkipReason.Label.name

/-- **Every outcome is counted once**, however the outcomes are ordered and grouped. -/
theorem accounts (grouping : Grouping) {outcomes : List Iteration}
    (same : grouping.outcomes.Perm outcomes) : grouping.Accounts outcomes where
  sequential := by
    rw [summary_eq_sum, Summary.ofIterations_perm same, Summary.foldl_record]
    exact (zero_add (Summary.ofIterations outcomes)).symm
  tallies := by
    rw [summary_eq_sum, Summary.ofIterations_perm same]
    exact Summary.tallies_ofIterations outcomes
  inconclusive_entries := entries_summary Summary.inconclusive_countsLabels grouping
  skipped_entries := entries_summary Summary.skipped_countsLabels grouping

/-- Two chunks with outcomes under one label, and an empty one between them. -/
def threeChunks : Grouping :=
  merge (chunk [.pass, .skipped (.unknownHint 3)])
    (merge (chunk []) (chunk [.skipped (.unknownHint 4), .inconclusive .compileTimeout, .cancelled]))

/-- Five outcomes in three chunks are counted as in a row. -/
theorem threeChunks_accounts :
    let outcomes := [.cancelled, .skipped (.unknownHint 4), .pass, .inconclusive .compileTimeout,
      .skipped (.unknownHint 3)]
    threeChunks.outcomes.Perm outcomes ∧ threeChunks.Accounts outcomes ∧
      threeChunks.summary.skipped.entries = [("unknown_hint", 2)] := by
  intro outcomes
  have same : threeChunks.outcomes.Perm outcomes := by decide
  exact ⟨same, accounts threeChunks same, rfl⟩

end Grouping

end HintFuzz

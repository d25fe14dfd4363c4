import HintFuzz.Proofs.Hint.Analysis
import HintFuzz.Proofs.Hint.Chains

/-!
# Lines that are joined

The bracket depth is carried from line to line, and nothing else needs to be.  Where a line ends
in code, it and the next one, which starts at the depth that it closes with, say together what
one line says that holds them both with a blank between them (`Hint.joins_scan`).  The blank is a
separator, so that neither a chain nor an operator reaches across the seam, and behind it the
word before is forgotten that could mark a quote as that of an f-string.

So a hint refers to the same as the one line does that all of its lines make
(`Hint.refers_joinedAll`).
-/

namespace HintFuzz.Hint

/-- Two lines as one, with a blank between them. -/
def joined (first second : String) : String :=
  first ++ " " ++ second

/-- A line that ends neither in a string nor in a comment. -/
def EndsInCode (line : String) : Prop :=
  Mode.code.after [] line.toList = .code

instance (line : String) : Decidable (EndsInCode line) :=
  inferInstanceAs (Decidable (_ = _))

/-- A line says what two others say, the second one of them further to the right. -/
structure Line.Joins (whole first second : Line) (offset : Nat) : Prop where
  closingDepth : whole.closingDepth = second.closingDepth
  references : whole.references = first.references ++ second.references.map (·.moved offset)
  /-- The last assignment operator counts. -/
  operator : whole.operator? = (second.operator?.map (·.moved offset)).or first.operator?

/-! ### The seam -/

section Seam

variable {first : String}

private theorem toList_joined (first second : String) :
    (joined first second).toList = first.toList ++ ' ' :: second.toList := by
  simp [joined]

/-- The blank between joined lines. -/
def seam : List Cell :=
  [⟨' ', .code⟩]

private theorem separating_seam : Separating seam :=
  ⟨⟨_, [], rfl, separates_blank⟩, ⟨[], _, rfl, separates_blank⟩⟩

private theorem cells_joined (ends : EndsInCode first) (second : String) :
    cells .code [] (joined first second).toList =
      cells .code [] first.toList ++ (seam ++ cells .code [] second.toList) := by
  have blank (before : List Char) : Mode.code.read before ' ' = (some .code, .code) := rfl
  have forgotten := cells_behind separates_blank.not_isNameChar .code [] first.toList.reverse
    second.toList
  rw [List.nil_append] at forgotten
  rw [toList_joined, cells_append, ends, List.append_nil, cells, blank]
  simp only [forgotten]
  rfl

private theorem size_cells (ends : EndsInCode first) :
    size (cells .code [] first.toList) = Text.width first.toList := by
  have counts : Mode.code.after [] first.toList ≠ .comment := by
    rw [ends]
    exact nofun
  rw [size, chars_cells counts]

end Seam

/-! ### What a joined line says -/

/-- What is read at sites is read on the first line and, further to the right, on the second. -/
theorem Local.filterMap_joined {α : Type} {read : Site → Option α} {move : Nat → α → α}
    (isLocal : Local read move) (blind : ∀ site : Site, site.here.char = ' ' → read site = none)
    {first : String} (ends : EndsInCode first) (second : String) (depth : Nat) :
    (Line.scan depth (joined first second)).sites.filterMap read =
      (Line.scan depth first).sites.filterMap read ++
        ((Line.scan (Line.scan depth first).closingDepth second).sites.filterMap read).map
          (move (Text.width first.toList + 1)) := by
  have inside (site : Site) (member : site.here ∈ seam) : read site = none :=
    blind site (congrArg Cell.char (List.mem_singleton.mp member))
  have found := isLocal.filterMap_sites separating_seam inside depth (cells .code [] first.toList)
    (cells .code [] second.toList)
  rw [← cells_joined ends, size_cells ends] at found
  exact found

private theorem joins_references {first : String} (ends : EndsInCode first) (second : String)
    (depth : Nat) :
    (Line.scan depth (joined first second)).references =
      (Line.scan depth first).references ++
        (Line.scan (Line.scan depth first).closingDepth second).references.map
          (·.moved (Text.width first.toList + 1)) := by
  apply local_reference?.filterMap_joined _ ends
  intro site blank
  refine if_neg fun chain => ?_
  exact absurd (blank.symm.trans chain.1) (by decide)

/-- **Joined lines say what the lines say one by one**, each from the depth that the one before
it closes with. -/
theorem joins_scan {first : String} (ends : EndsInCode first) (second : String) (depth : Nat) :
    (Line.scan depth (joined first second)).Joins (Line.scan depth first)
      (Line.scan (Line.scan depth first).closingDepth second) (Text.width first.toList + 1) where
  closingDepth := by
    simp only [Line.closingDepth, Line.scan, cells_joined ends, List.foldl_append]
    rfl
  references := joins_references ends second depth
  operator := by
    have blind (site : Site) (blank : site.here.char = ' ') : site.operator? = none := by
      apply Site.operator?_eq_none
      intro sign
      rw [sign] at blank
      exact absurd blank (by decide)
    have operators := local_operator?.filterMap_joined blind ends second depth
    rw [Line.operator?_eq, operators, List.getLast?_append, List.getLast?_map, ← Line.operator?_eq,
      ← Line.operator?_eq]

/-- A call that is left open: what the next line holds are its arguments, and no assignment. -/
theorem joins_scan_call : EndsInCode "value = line_slope(" ∧
    (Line.scan 0 "value = line_slope(     point1=(ids.x0, ids.y0))").Joins
      (Line.scan 0 "value = line_slope(") (Line.scan 1 "    point1=(ids.x0, ids.y0))") 20 := by
  have ends : EndsInCode "value = line_slope(" := by decide +kernel
  have rule := joins_scan ends "    point1=(ids.x0, ids.y0))" 0
  have line : joined "value = line_slope(" "    point1=(ids.x0, ids.y0))" =
      "value = line_slope(     point1=(ids.x0, ids.y0))" := by decide +kernel
  have opened : (Line.scan 0 "value = line_slope(").closingDepth = 1 := by decide +kernel
  have width : Text.width "value = line_slope(".toList + 1 = 20 := by decide +kernel
  rw [line, opened, width] at rule
  exact ⟨ends, rule⟩

/-! ### All lines of a hint -/

/-- Lines as one, with a blank between each two. -/
def joinedAll (line : String) : List String → String
  | [] => line
  | next :: later => joined line (joinedAll next later)

/-- The roots and field paths of the chains of a line. -/
def Line.chains (line : Line) : List (String × List String) :=
  line.references.map fun reference => (reference.root, reference.path)

/-- Lines that end in code show the same chains when they are joined.  The last line may end in a
string or in a comment. -/
theorem chains_joinedAll {line : String} {later : List String}
    (ends : ∀ text ∈ (line :: later).dropLast, EndsInCode text) (depth : Nat) :
    (Line.scan depth (joinedAll line later)).chains =
      (scanned depth (line :: later)).flatMap Line.chains := by
  induction later generalizing line depth with
  | nil => rw [joinedAll, scanned, scanned, List.flatMap_cons, List.flatMap_nil, List.append_nil]
  | cons next later ih =>
      have endsHere : EndsInCode line := ends line List.mem_cons_self
      have behind := ih (fun text member => ends text (List.mem_cons_of_mem _ member))
        (Line.scan depth line).closingDepth
      rw [joinedAll, scanned, List.flatMap_cons, ← behind]
      simp only [Line.chains]
      rw [joins_references endsHere, List.map_append, List.map_map]
      rfl

private theorem refers_iff_mem_chains {hint : Hint} {name : String} {path : List String} :
    hint.Refers name path ↔ (name, path) ∈ (scanned 0 hint.lines).flatMap Line.chains := by
  rw [List.mem_flatMap]
  constructor
  · rintro ⟨line, reference, ⟨onLine, shown⟩, rfl, rfl⟩
    exact ⟨line, onLine, List.mem_map_of_mem shown⟩
  · rintro ⟨line, onLine, found⟩
    obtain ⟨reference, shown, same⟩ := List.mem_map.mp found
    cases same
    exact ⟨line, reference, ⟨onLine, shown⟩, rfl, rfl⟩

/-- **A hint may be read as one line**: its lines refer to the same when they are joined. -/
theorem refers_joinedAll {line : String} {later : List String}
    (ends : ∀ text ∈ (line :: later).dropLast, EndsInCode text) (id : HintId) (name : String)
    (path : List String) :
    Refers ⟨id, [joinedAll line later]⟩ name path ↔ Refers ⟨id, line :: later⟩ name path := by
  rw [refers_iff_mem_chains, refers_iff_mem_chains, ← chains_joinedAll ends, scanned, scanned,
    List.flatMap_cons, List.flatMap_nil, List.append_nil]

end HintFuzz.Hint

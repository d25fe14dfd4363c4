import HintFuzz.Proofs.Wrapper.Instantiation
import HintFuzz.Proofs.Wrapper.Spelling

/-!
# Texts of wrappers

The lines of a hint make its wrapper (`wraps_of_prepare`).  Its text, and every text that
values make of it, is written by filling the slots of one layout, with tokens or with
decimals (`Wraps.text_eq`, `Wraps.instantiate_ok`).  The layout is a front, in which all
placeholders are written, and the function that holds the hint (`Wraps.lines_eq`).
-/

namespace HintFuzz.Wrapper

open Cairo Layout

/-- The roots of a hint with their types, given its lines. -/
def rootsOf (lines : List String) : List TypedRoot :=
  let found := Hint.occurrences 0 lines
  typedRoots ((ascending (found.map Hint.Occurrence.root)).map (Hint.rootOf found))

/-- The roots that a hint with these lines reads. -/
def inputsOf (lines : List String) : List TypedRoot :=
  (rootsOf lines).filter fun typed => typed.root.role = .input

/-- The roots that a hint with these lines writes. -/
def outputsOf (lines : List String) : List TypedRoot :=
  (rootsOf lines).filter fun typed => typed.root.role = .output

/-- The lines of a hint's program before the function that holds the hint. -/
def frontOf (lines : List String) : List Layout :=
  frontLines (structTypes ((rootsOf lines).map TypedRoot.type)) (inputsOf lines) (outputsOf lines)

/-- The function that holds a hint. -/
def holder (lines : List String) : Function :=
  hintHolder lines (inputsOf lines) (outputsOf lines)

/-- What the lines of a hint make of its wrapper. -/
structure Wraps (wrapper : Wrapper) (lines : List String) : Prop where
  named : ∀ root ∈ rootsOf lines, root.Named
  program : wrapper.program = programOf lines (rootsOf lines)
  text : wrapper.program.render .tokens = .ok wrapper.text
  ids : wrapper.placeholderIds = wrapper.program.placeholders

variable {wrapper : Wrapper} {lines : List String} {values : List Assigned} {text : String}

/-- Every program can be written with tokens. -/
theorem exists_render_tokens (program : Program) : ∃ text, program.render .tokens = .ok text :=
  Program.exists_render fun _ _ => rfl

/-- Nothing but a fault of the signature keeps a hint from having a wrapper. -/
theorem synthesize_eq_error_iff {hint : Hint} {signature : Signature} {fault : SynthesisFault} :
    hint.synthesize signature = .error fault ↔ fault? signature = some fault := by
  unfold Hint.synthesize
  cases fault? signature with
  | some found => simp
  | none =>
      obtain ⟨text, written⟩ :=
        exists_render_tokens (programOf hint.lines (typedRoots signature.roots))
      simp [written]

/-- A hint that is prepared is wrapped. -/
theorem wraps_of_prepare {hint : Hint} (prepared : hint.prepare = .ok wrapper) :
    Wraps wrapper hint.lines := by
  obtain ⟨signature, analyzed, built⟩ := Hint.prepare_ok prepared
  obtain ⟨-, program⟩ := Hint.synthesize_ok built
  have text := (Hint.synthesize_text built).1
  have named := named_of_mem_typedRoots (Hint.named_of_analyze analyzed)
  have roots : typedRoots signature.roots = rootsOf hint.lines := by
    rw [(Hint.analyze_ok analyzed).2]
    rfl
  rw [roots] at named program
  exact ⟨named, program, text, (Hint.numbered_of_synthesize built).tree.symm⟩

/-- The placeholders of a wrapper are numbered. -/
theorem Wraps.numbered (wraps : Wraps wrapper lines) : wrapper.Numbered := by
  have ids : wrapper.placeholderIds = List.range (inputLeaves (inputsOf lines)).length := by
    rw [wraps.ids, wraps.program, placeholders_programOf]
    rfl
  have count : wrapper.placeholders.length = (inputLeaves (inputsOf lines)).length := by
    rw [← List.length_map, ← placeholderIds, ids, List.length_range]
  exact ⟨count ▸ ids, wraps.ids.symm⟩

/-- A wrapper lists each placeholder once. -/
theorem Wraps.ids_nodup (wraps : Wraps wrapper lines) : wrapper.placeholderIds.Nodup := by
  rw [wraps.numbered.ids]
  exact List.nodup_range

/-- The front and the function that holds the hint make up a program. -/
theorem Wraps.lines_eq (wraps : Wraps wrapper lines) :
    wrapper.program.lines = frontOf lines ++ (holder lines).lines := by
  rw [wraps.program]
  simp only [Program.lines, programOf, frontOf, frontLines, List.flatMap_map, List.append_assoc,
    Function.listLines]
  rfl

/-- The inputs of a wrapped hint are named. -/
theorem Wraps.named_inputs (wraps : Wraps wrapper lines) :
    ∀ root ∈ inputsOf lines, root.Named :=
  fun root member => wraps.named root (List.mem_filter.mp member).1

/-- So are its outputs. -/
theorem Wraps.named_outputs (wraps : Wraps wrapper lines) :
    ∀ root ∈ outputsOf lines, root.Named :=
  fun root member => wraps.named root (List.mem_filter.mp member).1

/-- All lines in front of the function around the hint are spelled. -/
theorem Wraps.isSpelled_front (wraps : Wraps wrapper lines) :
    ∀ line ∈ frontOf lines, IsSpelled line :=
  Wrapper.isSpelled_front (fun _ => namedType_of_mem_structTypes wraps.named) wraps.named_inputs
    wraps.named_outputs

/-- What is written for a placeholder that is given a value. -/
def decimalOf (values : List Assigned) (id : PlaceholderId) : String :=
  ((valueOf? values id).map toString).getD ""

/-- The text of a wrapper is its layout with tokens. -/
theorem Wraps.text_eq (wraps : Wraps wrapper lines) :
    wrapper.text = write token (ofLines wrapper.program.lines) := by
  have filled := wraps.text
  rw [Program.render_eq] at filled
  exact (fill_eq_ok_iff.mp filled).2

/-- The text that values make is the layout with their decimals, and every placeholder
has a value. -/
theorem Wraps.instantiate_ok (wraps : Wraps wrapper lines)
    (accepted : wrapper.instantiate values = .ok text) :
    (∀ id ∈ wrapper.placeholderIds, ∃ value, valueOf? values id = some value) ∧
      text = write (decimalOf values) (ofLines wrapper.program.lines) := by
  unfold instantiate at accepted
  split at accepted
  · cases accepted
  · split at accepted
    · cases accepted
    · next written rendered =>
        cases accepted
        rw [Program.render_eq, fill_eq_ok_iff] at rendered
        obtain ⟨bound, written⟩ := rendered
        refine ⟨fun id member => ?_, written⟩
        rw [wraps.ids, ← Program.slots_lines] at member
        have given := bound id member
        rw [Binding.ofValues, Option.isSome_map] at given
        exact Option.isSome_iff_exists.mp given

/-- Values for just the placeholders of a wrapper make a text. -/
theorem Wraps.exists_instantiate (wraps : Wraps wrapper lines)
    (given : values.map Assigned.placeholder = wrapper.placeholderIds) :
    ∃ text, wrapper.instantiate values = .ok text := by
  have range : values.map Assigned.placeholder = List.range wrapper.placeholders.length :=
    given.trans wraps.numbered.ids
  refine wraps.numbered.exists_instantiate_eq_ok_iff.mpr ⟨?_, ?_⟩
  · intro assigned member
    rw [← List.mem_range, ← range]
    exact List.mem_map_of_mem member
  · intro id own
    rw [← List.mem_range, ← range] at own
    exact List.mem_map.mp own

/-- The text of a value is its digits. -/
theorem decimalOf_eq {id : PlaceholderId} {value : Nat} (given : valueOf? values id = some value) :
    decimalOf values id = toString value := by
  rw [decimalOf, given]
  rfl

/-- The text of a value may stand in a name. -/
theorem isName_decimalOf (values : List Assigned) (id : PlaceholderId) :
    IsName (decimalOf values id) := by
  unfold decimalOf
  cases valueOf? values id with
  | none => exact nofun
  | some value => exact isName_decimal value

end HintFuzz.Wrapper

import HintFuzz.Proofs.Cairo.Slots

/-!
# Names in place of placeholders

In every program the placeholders can be replaced by names.  Its layout stays the same but for the
slots, which become fixed stretches, so writing a program with values is writing the program that
has their decimals in place of its placeholders (`Program.writingRule`).  It fails where a
placeholder has no value, at the first such one of `Program.placeholders`.
-/

namespace HintFuzz.Cairo

/-! ### Trees -/

mutual

/-- An expression with names in place of its placeholders. -/
def Expr.withNames (names : PlaceholderId → String) : Expr → Expr
  | .placeholder id => .ident (names id)
  | .ident name => .ident name
  | .construct type fields => .construct type (Expr.fieldsWithNames names fields)
  | .call function args => .call function (Expr.listWithNames names args)

/-- Struct fields with names in place of the placeholders of their values. -/
def Expr.fieldsWithNames (names : PlaceholderId → String) :
    List (String × Expr) → List (String × Expr)
  | [] => []
  | (name, value) :: rest => (name, value.withNames names) :: Expr.fieldsWithNames names rest

/-- Several expressions with names in place of their placeholders. -/
def Expr.listWithNames (names : PlaceholderId → String) : List Expr → List Expr
  | [] => []
  | value :: rest => value.withNames names :: Expr.listWithNames names rest

end

/-- A statement with names in place of its placeholders. -/
def Statement.withNames (names : PlaceholderId → String) : Statement → Statement
  | .allocLocals => .allocLocals
  | .localVar name type => .localVar name type
  | .bind pattern value => .bind pattern (value.withNames names)
  | .eval value => .eval (value.withNames names)
  | .hint lines => .hint lines
  | .ret values => .ret (Expr.listWithNames names values)

/-- A function with names in place of its placeholders. -/
def Function.withNames (names : PlaceholderId → String) (function : Function) : Function :=
  { function with body := function.body.map (Statement.withNames names) }

/-- A program with names in place of its placeholders. -/
def Program.withNames (names : PlaceholderId → String) (program : Program) : Program :=
  { program with functions := program.functions.map (Function.withNames names) }

/-! ### Layouts -/

/-- A stretch that is fixed by what fills it. -/
def Stretch.fixed (texts : PlaceholderId → String) : Stretch → Stretch
  | plain text => .plain text
  | slot id => .plain (texts id)

namespace Layout

/-- A layout without slots: each is fixed by what fills it. -/
def fixed (texts : PlaceholderId → String) (layout : Layout) : Layout :=
  layout.map (Stretch.fixed texts)

variable {binding : Binding} {texts texts' : PlaceholderId → String} {layout left right : Layout}

/-- An empty layout stays empty when its slots are filled. -/
@[simp]
theorem fixed_nil : fixed texts [] = [] :=
  rfl

/-- Plain text stays as it is when slots are filled. -/
@[simp]
theorem fixed_plain (text : String) :
    fixed texts (.plain text :: layout) = .plain text :: fixed texts layout :=
  rfl

/-- The slots of two layouts are filled in each. -/
@[simp]
theorem fixed_append : fixed texts (left ++ right) = fixed texts left ++ fixed texts right :=
  List.map_append

private theorem slots_fixed : slots (fixed texts layout) = [] := by
  rw [slots, List.filterMap_eq_nil_iff]
  intro stretch member
  obtain ⟨other, -, rfl⟩ := List.mem_map.mp member
  cases other <;> rfl

private theorem write_fixed : write texts' (fixed texts layout) = write texts layout := by
  have each : Stretch.write texts' ∘ Stretch.fixed texts = Stretch.write texts := by
    funext stretch
    cases stretch <;> rfl
  rw [write, fixed, List.map_map, each, write]

/-- A layout without slots can be filled, whatever has a text. -/
theorem fill_fixed : fill binding (fixed texts layout) = .ok (write texts layout) := by
  rw [fill_eq_ok_iff, slots_fixed, write_fixed]
  simp

private theorem fixed_between (before after : String) :
    fixed texts (between before layout after) = between before (fixed texts layout) after := by
  simp [between]

private theorem fixed_commaSeparated (layouts : List Layout) :
    fixed texts (commaSeparated layouts) = commaSeparated (layouts.map (fixed texts)) := by
  induction layouts with
  | nil => rfl
  | cons layout rest ih =>
      cases rest with
      | nil => rfl
      | cons next rest =>
          rw [commaSeparated, fixed_append, fixed_plain, ih]
          rfl

private theorem fixed_tupled (layouts : List Layout) :
    fixed texts (tupled layouts) = tupled (layouts.map (fixed texts)) := by
  cases layouts with
  | nil => rfl
  | cons layout rest =>
      cases rest with
      | nil => rfl
      | cons next rest =>
          have several : tupled (layout :: next :: rest) =
              between "(" (commaSeparated (layout :: next :: rest)) ")" := rfl
          rw [several, fixed_between, fixed_commaSeparated]
          rfl

private theorem fixed_ofLines (lines : List Layout) :
    fixed texts (ofLines lines) = ofLines (lines.map (fixed texts)) := by
  induction lines with
  | nil => rfl
  | cons line rest ih =>
      rw [ofLines_cons, fixed_append, fixed_plain, ih, List.map_cons, ofLines_cons]

end Layout

open Layout

variable {names : PlaceholderId → String}

mutual

/-- A name in place of a placeholder fixes its slot. -/
theorem Expr.layout_withNames (expr : Expr) :
    (expr.withNames names).layout = fixed names expr.layout := by
  match expr with
  | .placeholder id => rfl
  | .ident name => rfl
  | .construct type fields =>
      rw [Expr.withNames, Expr.layout, Expr.layout, fixed_between, fixed_commaSeparated,
        Expr.fieldLayouts_withNames fields]
  | .call function args =>
      rw [Expr.withNames, Expr.layout, Expr.layout, fixed_between, fixed_commaSeparated,
        Expr.layouts_withNames args]

private theorem Expr.fieldLayouts_withNames (fields : List (String × Expr)) :
    Expr.fieldLayouts (Expr.fieldsWithNames names fields) =
      (Expr.fieldLayouts fields).map (fixed names) := by
  match fields with
  | [] => rfl
  | (name, value) :: rest =>
      rw [Expr.fieldsWithNames, Expr.fieldLayouts, Expr.fieldLayouts, Expr.layout_withNames value,
        Expr.fieldLayouts_withNames rest, List.map_cons, fixed_plain]

private theorem Expr.layouts_withNames (values : List Expr) :
    Expr.layouts (Expr.listWithNames names values) = (Expr.layouts values).map (fixed names) := by
  match values with
  | [] => rfl
  | value :: rest =>
      rw [Expr.listWithNames, Expr.layouts, Expr.layouts, Expr.layout_withNames value,
        Expr.layouts_withNames rest, List.map_cons]

end

private theorem Statement.lines_withNames (statement : Statement) :
    (statement.withNames names).lines = statement.lines.map (fixed names) := by
  cases statement with
  | allocLocals => rfl
  | localVar name type => rfl
  | bind pattern value =>
      simp only [withNames, lines, List.map_cons, List.map_nil, indented, fixed_plain,
        fixed_between, Expr.layout_withNames]
  | eval value =>
      simp only [withNames, lines, List.map_cons, List.map_nil, indented, fixed_plain,
        fixed_between, Expr.layout_withNames]
  | hint lines =>
      simp only [withNames, Statement.lines, List.map_append, List.map_cons, List.map_nil,
        List.map_map, indented, fixed_plain, fixed_nil]
      rfl
  | ret values =>
      simp only [withNames, lines, List.map_cons, List.map_nil, indented, fixed_plain,
        fixed_between, fixed_tupled, Expr.layouts_withNames]

private theorem Function.lines_withNames (function : Function) :
    (function.withNames names).lines = function.lines.map (fixed names) := by
  have head : (function.withNames names).headLine = function.headLine := rfl
  have body : (function.withNames names).body.flatMap Statement.lines =
      (function.body.flatMap Statement.lines).map (fixed names) := by
    simp only [withNames, List.flatMap_map, List.map_flatMap, Statement.lines_withNames]
  rw [lines, lines, head, body, List.map_append, List.map_append]
  rfl

private theorem Function.listLines_withNames (functions : List Function) :
    Function.listLines (functions.map (Function.withNames names)) =
      (Function.listLines functions).map (fixed names) := by
  induction functions with
  | nil => rfl
  | cons function rest ih =>
      cases rest with
      | nil => exact function.lines_withNames
      | cons next rest =>
          rw [List.map_cons] at ih
          rw [List.map_cons, List.map_cons, listLines, listLines, ih, List.map_append,
            List.map_append, lines_withNames]
          rfl

private theorem StructDef.map_fixed_lines (struct : StructDef) :
    struct.lines.map (fixed names) = struct.lines := by
  have each : ∀ line ∈ struct.lines, fixed names line = line :=
    StructDef.forall_mem_lines rfl (fun _ _ => rfl) rfl
  exact (List.map_congr_left each).trans (List.map_id' _)

/-- The layout of a program with names is its own layout, in which slots are fixed. -/
theorem Program.lines_withNames (program : Program) :
    (program.withNames names).lines = program.lines.map (fixed names) := by
  have structs : (program.structs.flatMap fun struct => struct.lines ++ [[]]).map (fixed names) =
      program.structs.flatMap fun struct => struct.lines ++ [[]] := by
    simp only [List.map_flatMap, List.map_append, StructDef.map_fixed_lines]
    rfl
  rw [lines, lines, List.map_append, structs, withNames, Function.listLines_withNames]

/-! ### Writing -/

section Writing

variable {binding : Binding} {program : Program} {id : PlaceholderId}

/-- A program with names has no placeholders left, so it can be written with tokens, values or
nothing at all. -/
theorem Program.render_withNames (program : Program) :
    (program.withNames names).render binding = .ok (write names (ofLines program.lines)) := by
  rw [render_eq, lines_withNames, ← fixed_ofLines, fill_fixed]

/-- Rendering fails with the first placeholder that has no value, and only then. -/
theorem Program.render_eq_error_iff : program.render binding = .error id ↔
    program.placeholders.find? (fun id => (binding id).isNone) = some id := by
  rw [render_eq, fill, slots_lines]
  cases program.placeholders.find? fun id => (binding id).isNone with
  | none => simp
  | some other => simp

/-- Writing fails at the first placeholder without a text. -/
theorem Program.render_eq_error_iff_append : program.render binding = .error id ↔
    ∃ before after, program.placeholders = before ++ id :: after ∧
      (∀ earlier ∈ before, binding earlier ≠ none) ∧ binding id = none := by
  rw [render_eq_error_iff, List.find?_eq_some_iff_append]
  simp only [Option.isNone_iff_eq_none, Bool.not_eq_eq_eq_not, Bool.not_true,
    Option.isNone_eq_false_iff, Option.isSome_iff_ne_none]
  constructor
  · rintro ⟨unbound, before, after, split, bound⟩
    exact ⟨before, after, split, bound, unbound⟩
  · rintro ⟨before, after, split, bound, unbound⟩
    exact ⟨unbound, before, after, split, bound⟩

/-- Rendering fails exactly if some placeholder has no value. -/
theorem Program.exists_render_eq_error_iff : (∃ id, program.render binding = .error id) ↔
    ∃ id ∈ program.placeholders, binding id = none := by
  simp only [render_eq_error_iff, ← Option.isSome_iff_exists, List.find?_isSome,
    Option.isNone_iff_eq_none]

/-- Where each placeholder has a text, writing with them is writing the program with these texts
as names. -/
theorem Program.render_eq_of_forall
    (bound : ∀ id ∈ program.placeholders, binding id = some (names id)) :
    program.render binding = (program.withNames names).render .tokens := by
  rw [render_withNames, render_eq, fill_eq_ok_iff, slots_lines]
  constructor
  · intro id member
    rw [bound id member]
    rfl
  · refine write_congr fun id member => ?_
    rw [slots_lines] at member
    rw [bound id member, Option.getD_some]

end Writing

/-- How a program is written with values. -/
structure Program.WritingRule (program : Program) (values : List Assigned) : Prop where
  fails_iff : (∃ id, program.render (.ofValues values) = .error id) ↔
    ∃ id ∈ program.placeholders, valueOf? values id = none
  /-- The placeholder that a failure names is the first one without a value. -/
  error_iff : ∀ id, program.render (.ofValues values) = .error id ↔
    ∃ before after, program.placeholders = before ++ id :: after ∧
      (∀ earlier ∈ before, ∃ value, valueOf? values earlier = some value) ∧
        valueOf? values id = none
  /-- Values stand where a name would stand in place of their placeholder. -/
  written : ∀ value : PlaceholderId → Nat,
    (∀ id ∈ program.placeholders, valueOf? values id = some (value id)) →
      ∃ text, program.render (.ofValues values) = .ok text ∧
        (program.withNames fun id => toString (value id)).render .tokens = .ok text
  tokens : ∃ text, program.render .tokens = .ok text

/-- What is not among the values is not bound. -/
theorem Binding.ofValues_eq_none_iff {values : List Assigned} {id : PlaceholderId} :
    Binding.ofValues values id = none ↔ valueOf? values id = none :=
  Option.map_eq_none_iff

/-- **Writing and the list of placeholders agree on every tree**, whatever values are given. -/
theorem Program.writingRule (program : Program) (values : List Assigned) :
    program.WritingRule values where
  fails_iff := by
    simp only [exists_render_eq_error_iff, Binding.ofValues_eq_none_iff]
  error_iff := by
    intro id
    simp only [render_eq_error_iff_append, ne_eq, Binding.ofValues_eq_none_iff,
      ← Option.isSome_iff_exists, Option.isSome_iff_ne_none]
  written := by
    intro value given
    have bound : ∀ id ∈ program.placeholders,
        Binding.ofValues values id = some (toString (value id)) := by
      intro id member
      rw [Binding.ofValues, given id member, Option.map_some]
    refine ⟨_, ?_, render_withNames program⟩
    rw [render_eq_of_forall bound, render_withNames]
  tokens := exists_render fun _ _ => rfl

end HintFuzz.Cairo

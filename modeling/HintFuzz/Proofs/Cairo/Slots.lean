import HintFuzz.Proofs.Cairo.Layout
import HintFuzz.Proofs.Text.Lines

/-!
# Slots

The slots of a program's layout are its placeholders in the order in which they are
written (`Program.slots_lines`).  After every slot stands a comma, a closing
parenthesis or a semicolon (`Program.delimited_of_mem_lines`), so that what fills the slots
can be read off the text where none of these is written in place of a placeholder
(`Layout.Delimited.write_inj`).
-/

namespace HintFuzz.Cairo

namespace Layout

variable {binding : Binding} {layout rest left right : Layout} {layouts : List Layout}

/-! ### What is written -/

/-- A layout is filled if each of its placeholders has a text. -/
theorem fill_eq_ok_iff {text : String} :
    fill binding layout = .ok text ↔
      (∀ id ∈ slots layout, (binding id).isSome) ∧
        text = write (fun id => (binding id).getD "") layout := by
  unfold fill
  cases found : (slots layout).find? fun id => (binding id).isNone with
  | some id =>
      refine ⟨nofun, fun ⟨bound, _⟩ => ?_⟩
      have unbound := List.find?_some found
      rw [Option.isNone_iff_eq_none] at unbound
      have missing := bound id (List.mem_of_find?_eq_some found)
      rw [unbound] at missing
      cases missing
  | none =>
      refine ⟨?_, fun ⟨_, written⟩ => congrArg Except.ok written.symm⟩
      rintro ⟨⟩
      refine ⟨fun id member => ?_, rfl⟩
      have bound := List.find?_eq_none.mp found id member
      rwa [Bool.not_eq_true, Option.isNone_eq_false_iff] at bound

/-- What is written depends on the texts of the slots alone. -/
theorem write_congr {texts texts' : PlaceholderId → String}
    (same : ∀ id ∈ slots layout, texts id = texts' id) : write texts layout = write texts' layout := by
  induction layout with
  | nil => rfl
  | cons stretch rest ih =>
      rw [write_cons, write_cons]
      cases stretch with
      | plain text => rw [ih same]; rfl
      | slot id =>
          rw [ih fun other member => same other (List.mem_cons_of_mem _ member)]
          exact congrArg (· ++ _) (same id List.mem_cons_self)

/-! ### The placeholders of slots -/

private theorem slots_between (before after : String) :
    slots (between before layout after) = slots layout := by
  rw [between, slots_plain, slots_append, slots_plain, slots_nil, List.append_nil]

private theorem slots_commaSeparated (layouts : List Layout) :
    slots (commaSeparated layouts) = layouts.flatMap slots := by
  induction layouts with
  | nil => rfl
  | cons layout rest ih =>
      cases rest with
      | nil => rw [commaSeparated, List.flatMap_singleton]
      | cons next rest =>
          rw [commaSeparated, slots_append, slots_plain, ih]
          rfl

private theorem slots_tupled (layouts : List Layout) :
    slots (tupled layouts) = layouts.flatMap slots := by
  cases layouts with
  | nil => rfl
  | cons layout rest =>
      cases rest with
      | nil => rw [tupled, List.flatMap_singleton]
      | cons next rest =>
          rw [tupled, slots_between, slots_commaSeparated]
          intro layout same
          cases same

/-- Laying lines out one behind the other adds no slots. -/
theorem slots_ofLines (lines : List Layout) : slots (ofLines lines) = lines.flatMap slots := by
  induction lines with
  | nil => rfl
  | cons line rest ih => rw [ofLines_cons, slots_append, slots_plain, ih, List.flatMap_cons]

/-! ### What follows a slot -/

/-- What is written right after a placeholder starts with one of these. -/
def delimiters : List Char := [',', ')', ';']

/-- A layout that starts with a delimiter. -/
def Closes : Layout → Prop
  | .plain text :: _ => ∃ mark after, text.toList = mark :: after ∧ mark ∈ delimiters
  | _ => False

/-- A layout in which a delimiter stands after every slot. -/
inductive Delimited : Layout → Prop
  | nil : Delimited []
  | plain (text : String) {layout : Layout} (later : Delimited layout) :
      Delimited (.plain text :: layout)
  | slot (id : PlaceholderId) {layout : Layout} (closes : Closes layout) (later : Delimited layout) :
      Delimited (.slot id :: layout)

private theorem delimited_of_slots_eq_nil (none : slots layout = []) : Delimited layout := by
  induction layout with
  | nil => exact .nil
  | cons stretch rest ih =>
      cases stretch with
      | plain text => exact .plain text (ih none)
      | slot id => cases none

/-- What starts with a delimiter does so whatever is behind it. -/
theorem Closes.append (closes : Closes layout) (rest : Layout) : Closes (layout ++ rest) := by
  cases layout with
  | nil => exact closes.elim
  | cons stretch layout =>
      cases stretch with
      | plain text => exact closes
      | slot id => exact closes.elim

/-- What a layout that closes starts with does not depend on what fills its slots. -/
theorem Closes.toList_write (closes : Closes layout) :
    ∃ mark ∈ delimiters, ∀ texts, ∃ after, (write texts layout).toList = mark :: after := by
  match layout, closes with
  | .plain text :: rest, ⟨mark, after, starts, isDelimiter⟩ =>
      refine ⟨mark, isDelimiter, fun texts => ⟨after ++ (write texts rest).toList, ?_⟩⟩
      rw [toList_write_plain, starts, List.cons_append]

/-- Two delimited layouts are delimited one behind the other. -/
theorem Delimited.append (first : Delimited left) (second : Delimited right) :
    Delimited (left ++ right) := by
  induction first with
  | nil => exact second
  | plain text later ih => exact .plain text ih
  | slot id closes later ih => exact .slot id (closes.append right) ih

/-- A layout that is delimited once a delimiter follows. -/
def Closable (layout : Layout) : Prop :=
  ∀ rest, Closes rest → Delimited rest → Delimited (layout ++ rest)

private theorem Delimited.closable (delimited : Delimited layout) : Closable layout :=
  fun _ _ later => delimited.append later

private theorem closable_slot (id : PlaceholderId) : Closable [.slot id] :=
  fun _ closes later => .slot id closes later

/-- Text in front does not keep a layout from being delimited. -/
theorem Closable.plain_cons (closable : Closable layout) (text : String) :
    Closable (.plain text :: layout) :=
  fun rest closes later => .plain text (closable rest closes later)

/-- A delimiter after a layout delimits it. -/
theorem Closable.between (closable : Closable layout) (before : String) {after : String}
    (closes : Closes [.plain after]) : Delimited (between before layout after) :=
  .plain before (closable [.plain after] closes (.plain after .nil))

private theorem closes_comma : Closes [.plain ", "] := ⟨',', [' '], rfl, by decide⟩

private theorem closes_parenthesis : Closes [.plain ")"] := ⟨')', [], rfl, by decide⟩

private theorem closes_semicolon : Closes [.plain ";"] := ⟨';', [], rfl, by decide⟩

private theorem closable_commaSeparated (each : ∀ layout ∈ layouts, Closable layout) :
    Closable (commaSeparated layouts) := by
  induction layouts with
  | nil => exact Delimited.nil.closable
  | cons layout others ih =>
      have first := each layout List.mem_cons_self
      have later := ih fun other member => each other (List.mem_cons_of_mem _ member)
      cases others with
      | nil => exact first
      | cons next others =>
          intro rest closes delimited
          rw [commaSeparated, List.append_assoc]
          exact first _ (closes_comma.append _) (.plain ", " (later rest closes delimited))

private theorem closable_tupled (each : ∀ layout ∈ layouts, Closable layout) :
    Closable (tupled layouts) := by
  match layouts with
  | [] => exact ((closable_commaSeparated each).between "(" closes_parenthesis).closable
  | [layout] => exact each layout List.mem_cons_self
  | layout :: next :: others =>
      exact ((closable_commaSeparated each).between "(" closes_parenthesis).closable

/-- Delimited lines are delimited as a whole. -/
theorem delimited_ofLines {lines : List Layout} (each : ∀ line ∈ lines, Delimited line) :
    Delimited (ofLines lines) := by
  induction lines with
  | nil => exact .nil
  | cons line others ih =>
      rw [ofLines_cons]
      exact (each line List.mem_cons_self).append
        (.plain "\n" (ih fun other member => each other (List.mem_cons_of_mem _ member)))

/-- Lines that are laid out consist of their stretches and of line feeds. -/
theorem mem_ofLines {stretch : Stretch} {lines : List Layout} (member : stretch ∈ ofLines lines) :
    stretch = .plain "\n" ∨ ∃ line ∈ lines, stretch ∈ line := by
  obtain ⟨line, lineMember, found⟩ := List.mem_flatMap.mp member
  rcases List.mem_append.mp found with inside | ending
  · exact .inr ⟨line, lineMember, inside⟩
  · exact .inl (List.mem_singleton.mp ending)

/-- **What fills the slots of a delimited layout can be read off its text**, where no
delimiter is filled in. -/
theorem Delimited.write_inj {texts texts' : PlaceholderId → String} (delimited : Delimited layout)
    (clean : ∀ id ∈ slots layout, ∀ mark ∈ delimiters, mark ∉ (texts id).toList)
    (clean' : ∀ id ∈ slots layout, ∀ mark ∈ delimiters, mark ∉ (texts' id).toList)
    (same : write texts layout = write texts' layout) :
    ∀ id ∈ slots layout, texts id = texts' id := by
  induction delimited with
  | nil => exact nofun
  | plain text later ih =>
      refine ih clean clean' ?_
      have lists := congrArg String.toList same
      rw [toList_write_plain, toList_write_plain] at lists
      exact String.toList_injective (List.append_cancel_left lists)
  | @slot id layout closes later ih =>
      -- The same delimiter follows the slot in both texts, and neither filling holds it.
      obtain ⟨mark, isDelimiter, starts⟩ := closes.toList_write
      obtain ⟨after, first⟩ := starts texts
      obtain ⟨after', first'⟩ := starts texts'
      have lists := congrArg String.toList same
      rw [toList_write_slot, toList_write_slot, first, first'] at lists
      obtain ⟨here, there⟩ := Text.mark_inj (clean id List.mem_cons_self mark isDelimiter)
        (clean' id List.mem_cons_self mark isDelimiter) lists
      have sameRest : write texts layout = write texts' layout := by
        apply String.toList_injective
        rw [first, first', there]
      intro other member
      rcases List.mem_cons.mp member with rfl | later
      · exact String.toList_injective here
      · exact ih (fun id member => clean id (List.mem_cons_of_mem _ member))
          (fun id member => clean' id (List.mem_cons_of_mem _ member)) sameRest other later

end Layout

open Layout

/-! ### Programs -/

mutual

/-- The slots of an expression are its placeholders. -/
theorem Expr.slots_layout (expr : Expr) : slots expr.layout = expr.placeholders := by
  match expr with
  | .placeholder id => rfl
  | .ident name => rfl
  | .construct type fields =>
      rw [Expr.layout, slots_between, slots_commaSeparated, Expr.placeholders,
        Expr.slots_fieldLayouts fields]
  | .call function args =>
      rw [Expr.layout, slots_between, slots_commaSeparated, Expr.placeholders,
        Expr.slots_layouts args]

private theorem Expr.slots_fieldLayouts (fields : List (String × Expr)) :
    (Expr.fieldLayouts fields).flatMap slots = Expr.fieldPlaceholders fields := by
  match fields with
  | [] => rfl
  | (name, value) :: rest =>
      rw [Expr.fieldLayouts, Expr.fieldPlaceholders, List.flatMap_cons, slots_plain,
        Expr.slots_layout value, Expr.slots_fieldLayouts rest]

private theorem Expr.slots_layouts (values : List Expr) :
    (Expr.layouts values).flatMap slots = Expr.listPlaceholders values := by
  match values with
  | [] => rfl
  | value :: rest =>
      rw [Expr.layouts, Expr.listPlaceholders, List.flatMap_cons, Expr.slots_layout value,
        Expr.slots_layouts rest]

end

/-- The slots in the lines of a statement are its placeholders, in order. -/
theorem Statement.slots_lines (statement : Statement) :
    statement.lines.flatMap slots = statement.placeholders := by
  cases statement with
  | allocLocals => rfl
  | localVar name type => rfl
  | bind pattern value =>
      rw [lines, List.flatMap_singleton, indented, slots_plain, slots_between, Expr.slots_layout]
      rfl
  | eval value =>
      rw [lines, List.flatMap_singleton, indented, slots_plain, slots_between, Expr.slots_layout]
      rfl
  | hint lines =>
      have none : (lines.map fun line => [Stretch.plain line]).flatMap slots = [] := by
        rw [List.flatMap_eq_nil_iff]
        intro line member
        obtain ⟨text, _, rfl⟩ := List.mem_map.mp member
        rfl
      rw [Statement.lines, List.flatMap_append, List.flatMap_append, none]
      rfl
  | ret values =>
      rw [lines, List.flatMap_singleton, indented, slots_plain, slots_between, slots_tupled,
        Expr.slots_layouts]
      rfl

/-- The slots in the lines of a function are the placeholders of its body, in order. -/
theorem Function.slots_lines (function : Function) :
    function.lines.flatMap slots = function.body.flatMap Statement.placeholders := by
  simp only [lines, List.flatMap_append, List.flatMap_assoc, Statement.slots_lines]
  exact List.append_nil _

private theorem Function.slots_listLines (functions : List Function) :
    (Function.listLines functions).flatMap slots =
      functions.flatMap fun function => function.body.flatMap Statement.placeholders := by
  induction functions with
  | nil => rfl
  | cons function rest ih =>
      cases rest with
      | nil => rw [listLines, slots_lines, List.flatMap_singleton]
      | cons next rest =>
          rw [listLines, List.flatMap_append, List.flatMap_append, slots_lines, ih]
          exact congrArg (· ++ _) (List.append_nil _)

private theorem StructDef.slots_of_mem_lines {struct : StructDef} :
    ∀ line ∈ struct.lines, slots line = [] :=
  StructDef.forall_mem_lines rfl (fun _ _ => rfl) rfl

/-- The slots of a program are its placeholders, in the order in which they are written. -/
theorem Program.slots_lines (program : Program) :
    slots (ofLines program.lines) = program.placeholders := by
  have structs : (program.structs.flatMap fun struct => struct.lines ++ [[]]).flatMap slots = [] := by
    rw [List.flatMap_eq_nil_iff]
    intro line member
    obtain ⟨struct, _, found⟩ := List.mem_flatMap.mp member
    rcases List.mem_append.mp found with declared | empty
    · exact StructDef.slots_of_mem_lines line declared
    · cases List.mem_singleton.mp empty
      rfl
  rw [slots_ofLines, lines, List.flatMap_append, structs, Function.slots_listLines]
  rfl

/-- A program is written if each of its placeholders has a text. -/
theorem Program.exists_render {binding : Binding} {program : Program}
    (bound : ∀ id ∈ program.placeholders, (binding id).isSome) :
    ∃ text, program.render binding = .ok text := by
  rw [← Program.slots_lines] at bound
  rw [Program.render_eq]
  exact ⟨_, Layout.fill_eq_ok_iff.mpr ⟨bound, rfl⟩⟩

mutual

/-- An expression is delimited by what follows it. -/
theorem Expr.closable_layout (expr : Expr) : Closable expr.layout := by
  match expr with
  | .placeholder id => exact closable_slot id
  | .ident name => exact (Delimited.plain name .nil).closable
  | .construct type fields =>
      exact ((closable_commaSeparated (Expr.closable_fieldLayouts fields)).between (type ++ "(")
        closes_parenthesis).closable
  | .call function args =>
      exact ((closable_commaSeparated (Expr.closable_layouts args)).between (function ++ "(")
        closes_parenthesis).closable

private theorem Expr.closable_fieldLayouts (fields : List (String × Expr)) :
    ∀ layout ∈ Expr.fieldLayouts fields, Closable layout := by
  match fields with
  | [] => exact nofun
  | (name, value) :: rest =>
      intro layout member
      rcases List.mem_cons.mp member with rfl | later
      · exact (Expr.closable_layout value).plain_cons (name ++ "=")
      · exact Expr.closable_fieldLayouts rest layout later

private theorem Expr.closable_layouts (values : List Expr) :
    ∀ layout ∈ Expr.layouts values, Closable layout := by
  match values with
  | [] => exact nofun
  | value :: rest =>
      intro layout member
      rcases List.mem_cons.mp member with rfl | later
      · exact Expr.closable_layout value
      · exact Expr.closable_layouts rest layout later

end

/-- In every line of a statement a delimiter stands after each slot. -/
theorem Statement.delimited_of_mem_lines {statement : Statement} {line : Layout}
    (member : line ∈ statement.lines) : Delimited line := by
  cases statement with
  | allocLocals =>
      cases List.mem_singleton.mp member
      exact delimited_of_slots_eq_nil rfl
  | localVar name type =>
      cases List.mem_singleton.mp member
      exact delimited_of_slots_eq_nil rfl
  | bind pattern value =>
      cases List.mem_singleton.mp member
      exact .plain _ ((Expr.closable_layout value).between _ closes_semicolon)
  | eval value =>
      cases List.mem_singleton.mp member
      exact .plain _ ((Expr.closable_layout value).between _ closes_semicolon)
  | hint lines =>
      have none := (Statement.hint lines).slots_lines
      exact delimited_of_slots_eq_nil (List.flatMap_eq_nil_iff.mp none line member)
  | ret values =>
      cases List.mem_singleton.mp member
      exact .plain _ ((closable_tupled (Expr.closable_layouts values)).between _ closes_semicolon)

/-- So it does in every line of a function. -/
theorem Function.delimited_of_mem_lines {function : Function} :
    ∀ line ∈ function.lines, Delimited line :=
  Function.forall_mem_lines (.plain _ .nil) (fun _ _ _ => Statement.delimited_of_mem_lines)
    (.plain _ .nil)

private theorem Function.delimited_of_mem_listLines {functions : List Function} {line : Layout}
    (member : line ∈ Function.listLines functions) : Delimited line := by
  induction functions with
  | nil => cases member
  | cons function rest ih =>
      cases rest with
      | nil => exact delimited_of_mem_lines line member
      | cons next rest =>
          rcases List.mem_append.mp member with early | later
          · rcases List.mem_append.mp early with own | empty
            · exact delimited_of_mem_lines line own
            · cases List.mem_singleton.mp empty
              exact .nil
          · exact ih later

/-- A delimiter stands after every placeholder of a program. -/
theorem Program.delimited_of_mem_lines {program : Program} {line : Layout}
    (member : line ∈ program.lines) : Delimited line := by
  rcases List.mem_append.mp member with declared | later
  · obtain ⟨struct, _, found⟩ := List.mem_flatMap.mp declared
    rcases List.mem_append.mp found with own | empty
    · exact delimited_of_slots_eq_nil (StructDef.slots_of_mem_lines line own)
    · cases List.mem_singleton.mp empty
      exact .nil
  · exact Function.delimited_of_mem_listLines later

end HintFuzz.Cairo

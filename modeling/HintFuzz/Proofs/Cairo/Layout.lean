import HintFuzz.Cairo.Render

/-!
# Layouts

The text of a program is fixed but for what is written in place of its placeholders.
A layout lists the fixed stretches and the slots between them in the order in which
they are written, and writing a program is filling the slots of its layout, line by
line (`Program.render_eq`).
-/

namespace HintFuzz.Cairo

/-- A stretch of program text that is fixed, or the slot of a placeholder. -/
inductive Stretch
  | plain (text : String)
  | slot (id : PlaceholderId)
deriving DecidableEq, Repr

/-- What is written for a stretch, given a text for every placeholder. -/
def Stretch.write (texts : PlaceholderId → String) : Stretch → String
  | plain text => text
  | slot id => texts id

/-- The placeholder of a slot. -/
def Stretch.slot? : Stretch → Option PlaceholderId
  | plain _ => none
  | slot id => some id

/-- The stretches of a text, in order. -/
abbrev Layout := List Stretch

namespace Layout

/-- The placeholders of a layout, in the order of their slots. -/
def slots (layout : Layout) : List PlaceholderId :=
  layout.filterMap Stretch.slot?

/-- The text of a layout, given a text for every placeholder. -/
def write (texts : PlaceholderId → String) (layout : Layout) : String :=
  String.join (layout.map (Stretch.write texts))

/-- The text of a layout, unless one of its placeholders has no text. -/
def fill (binding : Binding) (layout : Layout) : Rendered :=
  match (slots layout).find? fun id => (binding id).isNone with
  | some id => .error id
  | none => .ok (write (fun id => (binding id).getD "") layout)

variable {binding : Binding} {texts : PlaceholderId → String} {left right layout : Layout}

/-- The slots of one layout stand before those of the next. -/
@[simp]
theorem slots_append : slots (left ++ right) = slots left ++ slots right :=
  List.filterMap_append

/-- Plain text has no slots. -/
@[simp]
theorem slots_plain (text : String) : slots (.plain text :: layout) = slots layout :=
  rfl

/-- A slot is the first of its layout and what is behind it. -/
@[simp]
theorem slots_slot (id : PlaceholderId) : slots (.slot id :: layout) = id :: slots layout :=
  rfl

/-- An empty layout has no slots. -/
@[simp]
theorem slots_nil : slots [] = [] :=
  rfl

/-- An empty layout is written as nothing. -/
@[simp]
theorem write_nil : write texts [] = "" :=
  rfl

/-- A layout is written stretch by stretch. -/
@[simp]
theorem write_cons (stretch : Stretch) :
    write texts (stretch :: layout) = stretch.write texts ++ write texts layout :=
  String.join_cons

/-- Layouts are written one behind the other. -/
@[simp]
theorem write_append : write texts (left ++ right) = write texts left ++ write texts right := by
  rw [write, List.map_append, String.join_append]
  rfl

/-- Plain text is written as it is. -/
theorem toList_write_plain (text : String) :
    (write texts (.plain text :: layout)).toList = text.toList ++ (write texts layout).toList := by
  rw [write_cons, String.toList_append]
  rfl

/-- A slot is written as the text that is given for it. -/
theorem toList_write_slot (id : PlaceholderId) :
    (write texts (.slot id :: layout)).toList = (texts id).toList ++ (write texts layout).toList := by
  rw [write_cons, String.toList_append]
  rfl

/-! ### Filling -/

private theorem fill_nil : fill binding [] = .ok "" :=
  rfl

private theorem fill_plain (text : String) : fill binding [.plain text] = .ok text := by
  change Except.ok (write _ [.plain text]) = _
  rw [write_cons, write_nil, String.append_empty]
  rfl

private theorem fill_slot_of_none {id : PlaceholderId} (unbound : binding id = none) :
    fill binding [.slot id] = .error id := by
  rw [fill, slots_slot, List.find?_cons, unbound]
  rfl

private theorem fill_slot_of_some {id : PlaceholderId} {text : String}
    (bound : binding id = some text) :
    fill binding [.slot id] = .ok text := by
  rw [fill, slots_slot, slots_nil, List.find?_cons, List.find?_nil, bound]
  simp only [Option.isNone_some, write_cons, write_nil, Stretch.write, bound, Option.getD_some,
    String.append_empty]

/-- Layouts are filled one after the other. -/
theorem fill_append :
    fill binding (left ++ right) = (do
      let text ← fill binding left
      return text ++ (← fill binding right)) := by
  unfold fill
  rw [slots_append, List.find?_append, write_append]
  cases (slots left).find? fun id => (binding id).isNone with
  | some id => rfl
  | none =>
      cases (slots right).find? fun id => (binding id).isNone with
      | some id => rfl
      | none => rfl

/-- A layout between two fixed texts. -/
def between (before : String) (layout : Layout) (after : String) : Layout :=
  .plain before :: (layout ++ [.plain after])

private theorem fill_between (before after : String) :
    fill binding (between before layout after) = (do
      let text ← fill binding layout
      return before ++ text ++ after) := by
  rw [between, ← List.singleton_append, fill_append, fill_append, fill_plain, fill_plain]
  cases fill binding layout with
  | error id => rfl
  | ok text => exact congrArg Except.ok String.append_assoc.symm

/-- Layouts with commas between them. -/
def commaSeparated : List Layout → Layout
  | [] => []
  | [layout] => layout
  | layout :: next :: rest => layout ++ .plain ", " :: commaSeparated (next :: rest)

private theorem fill_commaSeparated (layouts : List Layout) :
    fill binding (commaSeparated layouts) = (do
      let texts ← layouts.mapM (fill binding)
      return Text.commaSeparated texts) := by
  induction layouts with
  | nil => rfl
  | cons layout rest ih =>
      cases rest with
      | nil =>
          rw [commaSeparated, List.mapM_cons]
          cases fill binding layout with
          | error id => rfl
          | ok text => rfl
      | cons next rest =>
          rw [commaSeparated, List.mapM_cons, fill_append, ← List.singleton_append, fill_append,
            fill_plain, ih, List.mapM_cons]
          cases fill binding layout with
          | error id => rfl
          | ok text =>
              cases fill binding next with
              | error id => rfl
              | ok nextText =>
                  cases rest.mapM (fill binding) with
                  | error id => rfl
                  | ok texts => exact congrArg Except.ok String.append_assoc.symm

/-- Layouts as a tuple, unless there is exactly one. -/
def tupled : List Layout → Layout
  | [layout] => layout
  | layouts => between "(" (commaSeparated layouts) ")"

private theorem fill_tupled (layouts : List Layout) :
    fill binding (tupled layouts) = (do
      let texts ← layouts.mapM (fill binding)
      return Cairo.tupled texts) := by
  match layouts with
  | [] => rfl
  | [layout] =>
      rw [tupled, List.mapM_cons]
      cases fill binding layout with
      | error id => rfl
      | ok text => rfl
  | layout :: next :: rest =>
      rw [tupled, fill_between, fill_commaSeparated, List.mapM_cons, List.mapM_cons]
      · cases fill binding layout with
        | error id => rfl
        | ok text =>
            cases fill binding next with
            | error id => rfl
            | ok nextText =>
                cases rest.mapM (fill binding) with
                | error id => rfl
                | ok texts => rfl
      · exact nofun

/-! ### Lines -/

/-- A line of a function body. -/
def indented (layout : Layout) : Layout :=
  .plain "    " :: layout

/-- The layout of lines, each of which ends in a line feed. -/
def ofLines (lines : List Layout) : Layout :=
  lines.flatMap (· ++ [.plain "\n"])

/-- A line is followed by a line feed and the lines behind it. -/
theorem ofLines_cons (line : Layout) (lines : List Layout) :
    ofLines (line :: lines) = line ++ .plain "\n" :: ofLines lines := by
  rw [ofLines, List.flatMap_cons, List.append_assoc]
  rfl

/-- Lines may be laid out in two parts. -/
theorem ofLines_append (left right : List Layout) :
    ofLines (left ++ right) = ofLines left ++ ofLines right :=
  List.flatMap_append

private theorem fill_line (line : Layout) :
    fill binding (ofLines [line]) = (do
      let text ← fill binding line
      return text ++ "\n") := by
  rw [ofLines, List.flatMap_singleton, fill_append, fill_plain]
  rfl

private theorem fill_bodyLine (line : Layout) :
    fill binding (ofLines [indented line]) = (do
      let text ← fill binding line
      return bodyLine text) := by
  rw [fill_line, indented, ← List.singleton_append, fill_append, fill_plain]
  cases fill binding line with
  | error id => rfl
  | ok text => rfl

/-- Lines of items that are all filled with fixed texts make these texts. -/
theorem fill_flatMap {Item : Type} {lines : Item → List Layout} {text : Item → String}
    (each : ∀ item, fill binding (ofLines (lines item)) = .ok (text item)) (items : List Item) :
    fill binding (ofLines (items.flatMap lines)) = .ok (String.join (items.map text)) := by
  induction items with
  | nil => rfl
  | cons item rest ih =>
      rw [List.flatMap_cons, ofLines_append, fill_append, each, ih, List.map_cons, String.join_cons]
      rfl

end Layout

open Layout

/-! ### Expressions -/

mutual

/-- The layout of an expression. -/
def Expr.layout : Expr → Layout
  | .placeholder id => [.slot id]
  | .ident name => [.plain name]
  | .construct type fields => between (type ++ "(") (commaSeparated (Expr.fieldLayouts fields)) ")"
  | .call function args => between (function ++ "(") (commaSeparated (Expr.layouts args)) ")"

/-- The layouts of struct fields. -/
def Expr.fieldLayouts : List (String × Expr) → List Layout
  | [] => []
  | (name, value) :: rest => (.plain (name ++ "=") :: value.layout) :: Expr.fieldLayouts rest

/-- The layouts of several expressions. -/
def Expr.layouts : List Expr → List Layout
  | [] => []
  | value :: rest => value.layout :: Expr.layouts rest

end

/-- The fields of a struct are laid out each by itself. -/
theorem Expr.fieldLayouts_eq_map (fields : List (String × Expr)) :
    Expr.fieldLayouts fields =
      fields.map fun field => .plain (field.1 ++ "=") :: field.2.layout := by
  induction fields with
  | nil => rfl
  | cons field rest ih => rw [fieldLayouts, ih, List.map_cons]

/-- Arguments are laid out each by itself. -/
theorem Expr.layouts_eq_map (values : List Expr) :
    Expr.layouts values = values.map Expr.layout := by
  induction values with
  | nil => rfl
  | cons value rest ih => rw [layouts, ih, List.map_cons]

mutual

/-- An expression is written by filling its layout. -/
theorem Expr.render_eq (binding : Binding) (expr : Expr) :
    expr.render binding = fill binding expr.layout := by
  match expr with
  | .placeholder id =>
      cases bound : binding id with
      | none =>
          simp only [Expr.render, bound]
          exact (fill_slot_of_none bound).symm
      | some text =>
          simp only [Expr.render, bound]
          exact (fill_slot_of_some bound).symm
  | .ident name => rw [Expr.render, Expr.layout, fill_plain]
  | .construct type fields =>
      rw [Expr.render, Expr.layout, fill_between, fill_commaSeparated,
        Expr.renderFields_eq binding fields]
      cases (Expr.fieldLayouts fields).mapM (fill binding) with
      | error id => rfl
      | ok texts => rfl
  | .call function args =>
      rw [Expr.render, Expr.layout, fill_between, fill_commaSeparated,
        Expr.renderList_eq binding args]
      cases (Expr.layouts args).mapM (fill binding) with
      | error id => rfl
      | ok texts => rfl

private theorem Expr.renderFields_eq (binding : Binding) (fields : List (String × Expr)) :
    Expr.renderFields binding fields = (Expr.fieldLayouts fields).mapM (fill binding) := by
  match fields with
  | [] => rfl
  | (name, value) :: rest =>
      rw [Expr.renderFields, Expr.fieldLayouts, List.mapM_cons, Expr.render_eq binding value,
        Expr.renderFields_eq binding rest, ← List.singleton_append, fill_append, fill_plain]
      cases fill binding value.layout with
      | error id => rfl
      | ok text => rfl

private theorem Expr.renderList_eq (binding : Binding) (values : List Expr) :
    Expr.renderList binding values = (Expr.layouts values).mapM (fill binding) := by
  match values with
  | [] => rfl
  | value :: rest =>
      rw [Expr.renderList, Expr.layouts, List.mapM_cons, Expr.render_eq binding value,
        Expr.renderList_eq binding rest]

end

/-! ### Statements -/

/-- The lines of a statement. -/
def Statement.lines : Statement → List Layout
  | .allocLocals => [indented [.plain "alloc_locals", .plain ";"]]
  | .localVar name type => [indented [.plain ("local " ++ name ++ ": " ++ type), .plain ";"]]
  | .bind pattern value => [indented (between ("let " ++ pattern.text ++ " = ") value.layout ";")]
  | .eval value => [indented (between "" value.layout ";")]
  | .hint lines =>
    [indented [.plain "%\x7b"]] ++ lines.map (fun line => [.plain line]) ++
      [indented [.plain "%\x7d"]]
  | .ret values => [indented (between "return " (Layout.tupled (Expr.layouts values)) ";")]

/-- Lines of a hint have no slots, so that they are filled whatever is bound. -/
theorem fill_hintLines (binding : Binding) (lines : List String) :
    fill binding (ofLines (lines.map fun line => [.plain line])) =
      .ok (String.join (lines.map (· ++ "\n"))) := by
  rw [List.map_eq_flatMap]
  refine fill_flatMap (fun line => ?_) lines
  rw [fill_line, fill_plain]
  rfl

/-- Rendering a statement fills its lines. -/
theorem Statement.render_eq (binding : Binding) (statement : Statement) :
    statement.render binding = fill binding (ofLines statement.lines) := by
  cases statement with
  | allocLocals => rfl
  | localVar name type =>
      rw [lines, fill_bodyLine, ← List.singleton_append, fill_append, fill_plain, fill_plain]
      rfl
  | bind pattern value =>
      rw [lines, fill_bodyLine, fill_between, render, Expr.render_eq]
      cases fill binding value.layout with
      | error id => rfl
      | ok text => rfl
  | eval value =>
      rw [lines, fill_bodyLine, fill_between, render, Expr.render_eq]
      cases fill binding value.layout with
      | error id => rfl
      | ok text =>
          change Except.ok (bodyLine (text ++ ";")) = Except.ok (bodyLine ("" ++ text ++ ";"))
          rw [String.empty_append]
  | hint lines =>
      rw [Statement.lines, ofLines_append, ofLines_append, fill_append, fill_append, fill_bodyLine,
        fill_bodyLine, fill_hintLines, fill_plain, fill_plain]
      rfl
  | ret values =>
      rw [lines, fill_bodyLine, fill_between, fill_tupled, render, Expr.renderList_eq]
      cases (Expr.layouts values).mapM (fill binding) with
      | error id => rfl
      | ok texts => rfl

private theorem Statement.renderList_eq (binding : Binding) (statements : List Statement) :
    Statement.renderList binding statements =
      fill binding (ofLines (statements.flatMap Statement.lines)) := by
  induction statements with
  | nil => rfl
  | cons statement rest ih =>
      rw [renderList, List.flatMap_cons, ofLines_append, fill_append, render_eq, ih]

/-! ### Programs -/

/-- The lines of a struct declaration. -/
def StructDef.lines (struct : StructDef) : List Layout :=
  [[.plain ("struct " ++ struct.name ++ " \x7b")]] ++
    struct.members.map (fun member =>
      indented [.plain (member.1 ++ ": " ++ member.2), .plain ","]) ++
    [[.plain "\x7d"]]

/-- What holds of the first and the last line of a declaration and of its members' lines
holds of all its lines. -/
theorem StructDef.forall_mem_lines {P : Layout → Prop} {struct : StructDef}
    (first : P [.plain ("struct " ++ struct.name ++ " \x7b")])
    (members : ∀ member ∈ struct.members,
      P (indented [.plain (member.1 ++ ": " ++ member.2), .plain ","]))
    (last : P [.plain "\x7d"]) : ∀ line ∈ struct.lines, P line := by
  intro line member
  rcases List.mem_append.mp member with early | final
  · rcases List.mem_append.mp early with head | inside
    · cases List.mem_singleton.mp head
      exact first
    · obtain ⟨field, found, rfl⟩ := List.mem_map.mp inside
      exact members field found
  · cases List.mem_singleton.mp final
    exact last

private theorem StructDef.fill_members (binding : Binding) (members : List (String × String)) :
    fill binding (ofLines (members.map fun member =>
        indented [.plain (member.1 ++ ": " ++ member.2), .plain ","])) =
      .ok (String.join (members.map fun member =>
        bodyLine (member.1 ++ ": " ++ member.2 ++ ","))) := by
  rw [List.map_eq_flatMap]
  refine fill_flatMap (fun member => ?_) members
  rw [fill_bodyLine, ← List.singleton_append, fill_append, fill_plain, fill_plain]
  rfl

private theorem StructDef.fill_lines (binding : Binding) (struct : StructDef) :
    fill binding (ofLines struct.lines) = .ok struct.render := by
  have first : "struct " ++ struct.name ++ " \x7b\n" = "struct " ++ struct.name ++ " \x7b" ++ "\n" := by
    simp only [String.append_assoc]
    rfl
  rw [lines, ofLines_append, ofLines_append, fill_append, fill_append, fill_line, fill_line,
    fill_plain, fill_plain, fill_members, render, first]
  rfl

/-- The first line of a function, without its line feed. -/
def Function.headLine (function : Function) : String :=
  let params := function.params.map fun param => param.name ++ ": " ++ param.type
  let returns :=
    match function.returns with
    | [] => ""
    | types => " -> " ++ tupled types
  "func " ++ function.name ++ "(" ++ Text.commaSeparated params ++ ")" ++ returns ++ " \x7b"

private theorem Function.header_eq (function : Function) :
    function.header = function.headLine ++ "\n" := by
  simp only [header, headLine, String.append_assoc]
  rfl

/-- The lines of a function. -/
def Function.lines (function : Function) : List Layout :=
  [[.plain function.headLine]] ++ function.body.flatMap Statement.lines ++ [[.plain "\x7d"]]

/-- What holds of the first and the last line of a function and of its statements' lines
holds of all its lines. -/
theorem Function.forall_mem_lines {P : Layout → Prop} {function : Function}
    (first : P [.plain function.headLine])
    (body : ∀ statement ∈ function.body, ∀ line ∈ statement.lines, P line)
    (last : P [.plain "\x7d"]) : ∀ line ∈ function.lines, P line := by
  intro line member
  rcases List.mem_append.mp member with early | final
  · rcases List.mem_append.mp early with head | inside
    · cases List.mem_singleton.mp head
      exact first
    · obtain ⟨statement, statementMember, found⟩ := List.mem_flatMap.mp inside
      exact body statement statementMember line found
  · cases List.mem_singleton.mp final
    exact last

/-- Rendering a function fills its lines. -/
theorem Function.render_eq (binding : Binding) (function : Function) :
    function.render binding = fill binding (ofLines function.lines) := by
  rw [lines, ofLines_append, ofLines_append, fill_append, fill_append, fill_line, fill_line,
    fill_plain, fill_plain, ← Statement.renderList_eq, render, header_eq]
  cases Statement.renderList binding function.body with
  | error id => rfl
  | ok text => rfl

/-- The lines of functions, with an empty line between any two. -/
def Function.listLines : List Function → List Layout
  | [] => []
  | [function] => function.lines
  | function :: next :: rest => function.lines ++ [[]] ++ Function.listLines (next :: rest)

private theorem Function.renderList_eq (binding : Binding) (functions : List Function) :
    Function.renderList binding functions = fill binding (ofLines (Function.listLines functions)) := by
  induction functions with
  | nil => rfl
  | cons function rest ih =>
      cases rest with
      | nil => exact render_eq binding function
      | cons next rest =>
          rw [renderList, listLines, ofLines_append, ofLines_append, fill_append, fill_append,
            fill_line, fill_nil, render_eq, ih]
          cases fill binding (ofLines function.lines) with
          | error id => rfl
          | ok text => rfl

/-- The lines of a program. -/
def Program.lines (program : Program) : List Layout :=
  program.structs.flatMap (fun struct => struct.lines ++ [[]]) ++
    Function.listLines program.functions

/-- **A program is written by filling the slots of its layout.** -/
theorem Program.render_eq (binding : Binding) (program : Program) :
    program.render binding = fill binding (ofLines program.lines) := by
  have structs : fill binding
      (ofLines (program.structs.flatMap fun struct => struct.lines ++ [[]])) =
        .ok (String.join (program.structs.map fun struct => struct.render ++ "\n")) := by
    refine fill_flatMap (fun struct => ?_) program.structs
    rw [ofLines_append, fill_append, StructDef.fill_lines, fill_line, fill_nil]
    rfl
  rw [lines, ofLines_append, fill_append, structs, ← Function.renderList_eq, render]
  cases Function.renderList binding program.functions with
  | error id => rfl
  | ok text => rfl

end HintFuzz.Cairo

import HintFuzz.Cairo.Program
import HintFuzz.Text.Quoted

/-!
# Program text

A program is written in one pass, with a text in place of every placeholder.
Writing fails at the first placeholder that has no text.
-/

namespace HintFuzz.Cairo

/-- The text written for each placeholder, where there is one. -/
abbrev Binding := PlaceholderId → Option String

/-- How a placeholder is written while it has no value.  Neither Cairo nor
Python names hold a dollar sign, and the second one keeps a token from starting
another token. -/
def token (id : PlaceholderId) : String :=
  s!"$fuzz_{id}$"

/-- Every placeholder is written as its token. -/
def Binding.tokens : Binding :=
  fun id => some (token id)

/-- Every placeholder is written as the value given to it, in decimal. -/
def Binding.ofValues (values : List Assigned) : Binding :=
  fun id => (valueOf? values id).map toString

/-- Program text, or the first placeholder that could not be written. -/
abbrev Rendered := Except PlaceholderId String

mutual

/-- The text of an expression. -/
def Expr.render (binding : Binding) : Expr → Rendered
  | .placeholder id =>
    match binding id with
    | some text => .ok text
    | none => .error id
  | .ident name => .ok name
  | .construct type fields => do
    let fields ← Expr.renderFields binding fields
    return type ++ "(" ++ Text.commaSeparated fields ++ ")"
  | .call function args => do
    let args ← Expr.renderList binding args
    return function ++ "(" ++ Text.commaSeparated args ++ ")"

/-- The texts of struct fields. -/
def Expr.renderFields (binding : Binding) :
    List (String × Expr) → Except PlaceholderId (List String)
  | [] => .ok []
  | (name, value) :: rest => do
    let value ← value.render binding
    return (name ++ "=" ++ value) :: (← Expr.renderFields binding rest)

/-- The texts of several expressions. -/
def Expr.renderList (binding : Binding) : List Expr → Except PlaceholderId (List String)
  | [] => .ok []
  | value :: rest => do
    let value ← value.render binding
    return value :: (← Expr.renderList binding rest)

end

/-- A line of a function body. -/
def bodyLine (text : String) : String :=
  "    " ++ text ++ "\n"

/-- Texts as a tuple, unless there is exactly one. -/
def tupled : List String → String
  | [text] => text
  | texts => "(" ++ Text.commaSeparated texts ++ ")"

/-- The target of a `let`. -/
def Pattern.text : Pattern → String
  | single name => name
  | tuple names => "(" ++ Text.commaSeparated names ++ ")"

/-- The lines of a hint block. -/
def hintText (lines : List String) : String :=
  bodyLine "%\x7b" ++ String.join (lines.map (· ++ "\n")) ++ bodyLine "%\x7d"

/-- The text of a statement. -/
def Statement.render (binding : Binding) : Statement → Rendered
  | .allocLocals => .ok (bodyLine "alloc_locals;")
  | .localVar name type => .ok (bodyLine ("local " ++ name ++ ": " ++ type ++ ";"))
  | .bind pattern value => do
    let value ← value.render binding
    return bodyLine ("let " ++ pattern.text ++ " = " ++ value ++ ";")
  | .eval value => do
    let value ← value.render binding
    return bodyLine (value ++ ";")
  | .hint lines => .ok (hintText lines)
  | .ret values => do
    let values ← Expr.renderList binding values
    return bodyLine ("return " ++ tupled values ++ ";")

/-- The text of a list of statements. -/
def Statement.renderList (binding : Binding) : List Statement → Rendered
  | [] => .ok ""
  | statement :: rest => do
    let text ← statement.render binding
    return text ++ (← Statement.renderList binding rest)

/-- The text of a struct declaration. -/
def StructDef.render (struct : StructDef) : String :=
  "struct " ++ struct.name ++ " \x7b\n" ++
    String.join (struct.members.map fun member => bodyLine (member.1 ++ ": " ++ member.2 ++ ",")) ++
    "\x7d\n"

/-- The first line of a function. -/
def Function.header (function : Function) : String :=
  let params := function.params.map fun param => param.name ++ ": " ++ param.type
  let returns :=
    match function.returns with
    | [] => ""
    | types => " -> " ++ tupled types
  "func " ++ function.name ++ "(" ++ Text.commaSeparated params ++ ")" ++ returns ++ " \x7b\n"

/-- The text of a function. -/
def Function.render (binding : Binding) (function : Function) : Rendered := do
  let body ← Statement.renderList binding function.body
  return function.header ++ body ++ "\x7d\n"

/-- The text of functions, with an empty line between any two. -/
def Function.renderList (binding : Binding) : List Function → Rendered
  | [] => .ok ""
  | [function] => function.render binding
  | function :: next :: rest => do
    let text ← function.render binding
    return text ++ "\n" ++ (← Function.renderList binding (next :: rest))

/-- The text of a program. -/
def Program.render (binding : Binding) (program : Program) : Rendered := do
  let functions ← Function.renderList binding program.functions
  return String.join (program.structs.map fun struct => struct.render ++ "\n") ++ functions

end HintFuzz.Cairo

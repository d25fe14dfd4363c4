import HintFuzz.Values.Assignment

/-!
# Wrapper programs

The part of Cairo that a program around a hint needs.  Values to be filled in
are placeholders in the tree, so a hint's text is never searched for them.
-/

namespace HintFuzz.Cairo

/-- A struct declaration: names and type names of the members. -/
structure StructDef where
  name : String
  members : List (String × String)
deriving DecidableEq, Repr

/-- A parameter of a function. -/
structure Param where
  name : String
  type : String
deriving DecidableEq, Repr

/-- An expression. -/
inductive Expr
  | placeholder (id : PlaceholderId)
  | ident (name : String)
  /-- `Type(field=value, ...)` -/
  | construct (type : String) (fields : List (String × Expr))
  | call (function : String) (args : List Expr)
deriving Repr

/-- What a `let` binds. -/
inductive Pattern
  | single (name : String)
  | tuple (names : List String)
deriving DecidableEq, Repr

/-- A statement of a function body. -/
inductive Statement
  | allocLocals
  | localVar (name type : String)
  | bind (pattern : Pattern) (value : Expr)
  | eval (value : Expr)
  /-- A hint's lines, exactly as they are. -/
  | hint (lines : List String)
  | ret (values : List Expr)
deriving Repr

/-- A function. -/
structure Function where
  name : String
  params : List Param
  /-- Type names of the results. -/
  returns : List String
  body : List Statement
deriving Repr

/-- A program. -/
structure Program where
  structs : List StructDef
  functions : List Function
deriving Repr

mutual

/-- The placeholders of an expression in the order in which they are written. -/
def Expr.placeholders : Expr → List PlaceholderId
  | .placeholder id => [id]
  | .ident _ => []
  | .construct _ fields => Expr.fieldPlaceholders fields
  | .call _ args => Expr.listPlaceholders args

/-- The placeholders of the values of struct fields. -/
def Expr.fieldPlaceholders : List (String × Expr) → List PlaceholderId
  | [] => []
  | (_, value) :: rest => value.placeholders ++ Expr.fieldPlaceholders rest

/-- The placeholders of several expressions. -/
def Expr.listPlaceholders : List Expr → List PlaceholderId
  | [] => []
  | value :: rest => value.placeholders ++ Expr.listPlaceholders rest

end

/-- The placeholders of a statement. -/
def Statement.placeholders : Statement → List PlaceholderId
  | .bind _ value | .eval value => value.placeholders
  | .ret values => Expr.listPlaceholders values
  | .allocLocals | .localVar _ _ | .hint _ => []

/-- The placeholders of a program in the order in which they are written. -/
def Program.placeholders (program : Program) : List PlaceholderId :=
  program.functions.flatMap fun function => function.body.flatMap Statement.placeholders

end HintFuzz.Cairo

import HintFuzz.Cairo.Program
import HintFuzz.Cairo.Types
import Mathlib.Data.List.Forall2

/-!
# A type system for wrapper programs

The judgements say when the part of Cairo that wrapper programs use is well
scoped and well typed.  They follow the grammar of `Cairo.Program` and know
nothing of how a program was made.  A struct may only be made of felts and of
structs declared before it, every name is bound once, arguments and results are
names in scope, and a call binds exactly as many names as its function returns.
-/

namespace HintFuzz.Cairo

/-- Names in scope, the latest first, each with the name of its type. -/
abbrev Scope := List (String × String)

/-- No name is bound twice. -/
def Scope.Distinct (scope : Scope) : Prop :=
  (scope.map Prod.fst).Nodup

mutual

/-- `value.HasType structs type`: a value that is built without any name has a
type.  A felt is a placeholder, and a struct value lists exactly the members of
its struct, in declaration order, each with a value of the member's type. -/
inductive Expr.HasType (structs : List StructDef) : Expr → String → Prop
  | placeholder (id : PlaceholderId) : Expr.HasType structs (.placeholder id) CairoType.felt.name
  | construct {struct : StructDef} {fields : List (String × Expr)}
      (declared : struct ∈ structs) (values : FieldsHaveType structs fields struct.members) :
      Expr.HasType structs (.construct struct.name fields) struct.name

/-- The fields of a struct value fit the members of the struct one by one. -/
inductive FieldsHaveType (structs : List StructDef) :
    List (String × Expr) → List (String × String) → Prop
  | nil : FieldsHaveType structs [] []
  | cons {name type : String} {value : Expr} {fields : List (String × Expr)}
      {members : List (String × String)} (head : Expr.HasType structs value type)
      (tail : FieldsHaveType structs fields members) :
      FieldsHaveType structs ((name, value) :: fields) ((name, type) :: members)

end

/-- An expression that is a name in scope, of a given type. -/
def Expr.Refers (scope : Scope) (expr : Expr) (type : String) : Prop :=
  ∃ name, expr = .ident name ∧ (name, type) ∈ scope

/-- `BindsResults call types statement bound`: a statement evaluates a call that
returns values of the given types and binds one name to each of them.  Without
any results it is the bare call. -/
inductive BindsResults (call : Expr) : List String → Statement → Scope → Prop
  | none : BindsResults call [] (.eval call) []
  | one (name type : String) : BindsResults call [type] (.bind (.single name) call) [(name, type)]
  | many {names types : List String} (several : 2 ≤ names.length)
      (sameLength : names.length = types.length) :
      BindsResults call types (.bind (.tuple names) call) (names.zip types)

/-- A type that can be named: a felt or a declared struct. -/
def Program.Declares (program : Program) (type : String) : Prop :=
  type = CairoType.felt.name ∨ type ∈ program.structs.map StructDef.name

/-- `Statement.Checks program before statement after`: a statement that is no
`return` is right in the scope `before` and leaves the scope `after`. -/
inductive Statement.Checks (program : Program) : Scope → Statement → Scope → Prop
  | allocLocals {scope : Scope} : Statement.Checks program scope .allocLocals scope
  | hint {scope : Scope} (lines : List String) : Statement.Checks program scope (.hint lines) scope
  | localVar {scope : Scope} {name type : String} (declared : program.Declares type)
      (distinct : Scope.Distinct ((name, type) :: scope)) :
      Statement.Checks program scope (.localVar name type) ((name, type) :: scope)
  | value {scope : Scope} {name type : String} {value : Expr}
      (typed : value.HasType program.structs type)
      (distinct : Scope.Distinct ((name, type) :: scope)) :
      Statement.Checks program scope (.bind (.single name) value) ((name, type) :: scope)
  | call {scope bound : Scope} {callee : Function} {args : List Expr} {statement : Statement}
      (known : callee ∈ program.functions)
      (arguments : List.Forall₂ (Expr.Refers scope) args (callee.params.map Param.type))
      (results : BindsResults (.call callee.name args) callee.returns statement bound)
      (distinct : Scope.Distinct (bound ++ scope)) :
      Statement.Checks program scope statement (bound ++ scope)

/-- A function body that returns values of the given types.  It ends with its
only `return`, which gives names in scope. -/
inductive BodyChecks (program : Program) (returns : List String) : Scope → List Statement → Prop
  | ret {scope : Scope} {values : List Expr}
      (results : List.Forall₂ (Expr.Refers scope) values returns) :
      BodyChecks program returns scope [.ret values]
  | cons {before after : Scope} {statement : Statement} {rest : List Statement}
      (first : statement.Checks program before after)
      (later : BodyChecks program returns after rest) :
      BodyChecks program returns before (statement :: rest)

/-- The parameters of a function as a scope. -/
def Function.scope (function : Function) : Scope :=
  function.params.map fun param => (param.name, param.type)

/-- A function is right in a program. -/
structure Function.Checks (program : Program) (function : Function) : Prop where
  params_distinct : function.scope.Distinct
  params_declared : ∀ param ∈ function.params, program.Declares param.type
  returns_declared : ∀ type ∈ function.returns, program.Declares type
  body : BodyChecks program function.returns function.scope function.body

/-- The structs of a program in an order in which each can be declared. -/
structure StructsCheck (structs : List StructDef) : Prop where
  names_distinct : (structs.map StructDef.name).Nodup
  members_distinct : ∀ struct ∈ structs, (struct.members.map Prod.fst).Nodup
  /-- Each member is a felt or a struct declared earlier. -/
  members_declared : ∀ earlier struct later, structs = earlier ++ struct :: later →
    ∀ member ∈ struct.members,
      member.2 = CairoType.felt.name ∨ member.2 ∈ earlier.map StructDef.name

/-- A program is well scoped and well typed. -/
structure Program.WellTyped (program : Program) : Prop where
  structs : StructsCheck program.structs
  names_distinct : (program.functions.map Function.name).Nodup
  functions : ∀ function ∈ program.functions, function.Checks program

/-- Whether names are distinct does not depend on their order. -/
theorem Scope.Distinct.perm {scope other : Scope} (distinct : scope.Distinct)
    (rearranged : scope.Perm other) : other.Distinct :=
  (rearranged.map Prod.fst).nodup_iff.mp distinct

/-- A statement that binds one name, in every scope that does not have it. -/
def Statement.Introduces (program : Program) (statement : Statement) (entry : String × String) :
    Prop :=
  ∀ before : Scope, Scope.Distinct (entry :: before) →
    statement.Checks program before (entry :: before)

variable {program : Program} {returns : List String}

/-- Statements that bind one name each, in front of a body that is right once all
of these names are in scope. -/
theorem BodyChecks.bind {statements rest : List Statement} {bound scope : Scope}
    (binds : List.Forall₂ (Statement.Introduces program) statements bound)
    (distinct : Scope.Distinct (bound.reverse ++ scope))
    (later : BodyChecks program returns (bound.reverse ++ scope) rest) :
    BodyChecks program returns scope (statements ++ rest) := by
  induction binds generalizing scope with
  | nil => exact later
  | @cons statement entry statements bound first others ih =>
      have shift : (entry :: bound).reverse ++ scope = bound.reverse ++ (entry :: scope) := by
        rw [List.reverse_cons, List.append_assoc, List.singleton_append]
      rw [shift] at distinct later
      have head : Scope.Distinct (entry :: scope) :=
        List.Nodup.sublist ((List.sublist_append_right _ _).map Prod.fst) distinct
      exact .cons (first scope head) (ih distinct later)

end HintFuzz.Cairo

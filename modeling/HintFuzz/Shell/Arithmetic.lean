import HintFuzz.Format.Whole

/-!
# Arithmetic of the shell

Expressions over words of 64 bits with the usual operators, from the weakest to
the strongest binding.  Names stand for the numbers that their values write.  A
branch that a choice or a connective leaves out is read and not evaluated: it
looks nothing up, assigns nothing and divides by nothing.
-/

namespace HintFuzz.Shell.Arithmetic

open Format (digit? digitsIn numberFront isBlank signedFront?)

/-- A token of an expression. -/
inductive Token
  | number (value : Int64)
  | name (text : String)
  | operator (text : String)
deriving DecidableEq, Repr

/-- Operators of several characters, longer ones first. -/
def longOperators : List String :=
  ["<<=", ">>=", "<<", ">>", "<=", ">=", "==", "!=", "&&", "||",
   "+=", "-=", "*=", "/=", "%=", "&=", "|=", "^="]

/-! ### Numbers -/

/-- The word next to a number. -/
def saturated (value : Nat) : Int64 :=
  if Int64.maxValue.toInt < value then Int64.maxValue else Int64.ofNat value

/-- The word that the value of a variable writes: a number with blanks around it,
or nothing but blanks, which is 0. -/
def word? (text : String) : Option Int64 :=
  let characters := text.toList
  if characters.all isBlank then some 0
  else
    match signedFront? characters with
    | some (value, rest) =>
      if rest.all isBlank ∧ Int64.minValue.toInt ≤ value ∧ value ≤ Int64.maxValue.toInt then
        some (Int64.ofInt value)
      else none
    | none => none

/-! ### Tokens -/

/-- The tokens of an expression.  A character that starts no token is an operator
that nothing binds. -/
def tokens : (fuel : Nat) → List Char → List Token
  | 0, _ => []
  | _, [] => []
  | fuel + 1, c :: rest =>
    let text := c :: rest
    let isInName (c : Char) : Bool := c.isAlphanum || c = '_'
    if c = ' ' ∨ c = '\t' ∨ c = '\n' then tokens fuel rest
    else if c.isDigit then
      let (value, rest) := numberFront text
      .number (saturated value) :: tokens fuel rest
    else if isInName c then
      let name := text.takeWhile isInName
      .name (String.ofList name) :: tokens fuel (text.drop name.length)
    else
      match longOperators.find? fun operator => operator.toList.isPrefixOf text with
      | some operator => .operator operator :: tokens fuel (text.drop operator.length)
      | none => .operator (String.ofList [c]) :: tokens fuel rest

/-! ### Operators -/

/-- How strongly an operator of numbers binds. -/
def strength? (operator : String) : Option Nat :=
  match operator with
  | "|" => some 1
  | "^" => some 2
  | "&" => some 3
  | "==" | "!=" => some 4
  | "<" | "<=" | ">" | ">=" => some 5
  | "<<" | ">>" => some 6
  | "+" | "-" => some 7
  | "*" | "/" | "%" => some 8
  | _ => none

/-- The operator that an assignment applies to the old and the new value: none
for a plain one. -/
def assignment? (operator : String) : Option (Option String) :=
  if operator = "=" then some none
  else if ["<<=", ">>=", "+=", "-=", "*=", "/=", "%=", "&=", "|=", "^="].contains operator then
    some (some (String.ofList operator.toList.dropLast))
  else none

/-- Why an expression has no value. -/
inductive Fault
  | divisionByZero
  | missingOperand
  | missingColon
  | missingParenthesis
  | missingEnd
  /-- The value of a variable writes no number. -/
  | illegalNumber (text : String)
deriving DecidableEq, Repr

/-- The wording of a fault of an expression. -/
def Fault.message (expression : String) : Fault → String
  | divisionByZero => inExpression "division by zero"
  | missingOperand => inExpression "expecting primary"
  | missingColon => inExpression "expecting ':'"
  | missingParenthesis => inExpression "expecting ')'"
  | missingEnd => inExpression "expecting EOF"
  | illegalNumber text => "Illegal number: " ++ text
where
  inExpression (what : String) : String :=
    "arithmetic expression: " ++ what ++ ": \"" ++ expression ++ "\""

/-- A truth value as a number. -/
def truth (condition : Bool) : Int64 :=
  if condition then 1 else 0

/-- The value of an operator of numbers.  Sums and products wrap around, and
quotients are cut towards zero. -/
def compute (operator : String) (left right : Int64) : Except Fault Int64 :=
  match operator with
  | "|" => .ok (left ||| right)
  | "^" => .ok (left ^^^ right)
  | "&" => .ok (left &&& right)
  | "==" => .ok (truth (left = right))
  | "!=" => .ok (truth (left ≠ right))
  | "<" => .ok (truth (left < right))
  | "<=" => .ok (truth (left ≤ right))
  | ">" => .ok (truth (right < left))
  | ">=" => .ok (truth (right ≤ left))
  | "<<" => .ok (left <<< right)
  | ">>" => .ok (left >>> right)
  | "+" => .ok (left + right)
  | "-" => .ok (left - right)
  | "*" => .ok (left * right)
  | "/" => if right = 0 then .error .divisionByZero else .ok (left / right)
  | "%" => if right = 0 then .error .divisionByZero else .ok (left % right)
  | _ => .error .missingOperand

/-! ### Evaluation -/

/-- The variables around an expression, and what it has assigned, the latest
first. -/
structure Scope where
  around : String → Option String
  assigned : List (String × Int64)

/-- The number of a name: 0 if the name has no value. -/
def Scope.valueOf (scope : Scope) (name : String) : Except Fault Int64 :=
  match scope.assigned.find? fun entry => entry.1 = name with
  | some (_, value) => .ok value
  | none =>
    let text := (scope.around name).getD ""
    match word? text with
    | some value => .ok value
    | none => .error (.illegalNumber text)

/-- What an expression comes to, and what is left of it. -/
abbrev Result := Except Fault (Int64 × Scope × List Token)

mutual

/-- An assignment or less.  Here and below, `active` says whether the expression
is evaluated or left out. -/
def evalAssignment (active : Bool) : (fuel : Nat) → Scope → List Token → Result
  | 0, _, _ => .error .missingOperand
  | fuel + 1, scope, tokens =>
    match tokens with
    | .name name :: .operator operator :: rest =>
      match assignment? operator with
      | some combining => do
        let (right, scope, rest) ← evalAssignment active fuel scope rest
        if !active then return (right, scope, rest)
        let value ← match combining with
          | some operator => compute operator (← scope.valueOf name) right
          | none => .ok right
        return (value, { scope with assigned := (name, value) :: scope.assigned }, rest)
      | none => evalChoice active fuel scope tokens
    | _ => evalChoice active fuel scope tokens

/-- A choice between two expressions, or less. -/
def evalChoice (active : Bool) : (fuel : Nat) → Scope → List Token → Result
  | 0, _, _ => .error .missingOperand
  | fuel + 1, scope, tokens => do
    let (condition, scope, rest) ← evalEither active fuel scope tokens
    match rest with
    | .operator "?" :: rest =>
      let (yes, scope, rest) ← evalAssignment (active && condition ≠ 0) fuel scope rest
      match rest with
      | .operator ":" :: rest =>
        let (no, scope, rest) ← evalChoice (active && condition = 0) fuel scope rest
        return (if condition ≠ 0 then yes else no, scope, rest)
      | _ => .error .missingColon
    | rest => return (condition, scope, rest)

/-- Expressions of which one has to hold, or a single one. -/
def evalEither (active : Bool) : (fuel : Nat) → Scope → List Token → Result
  | 0, _, _ => .error .missingOperand
  | fuel + 1, scope, tokens => do
    let (left, scope, rest) ← evalBoth active fuel scope tokens
    match rest with
    | .operator "||" :: rest =>
      let (right, scope, rest) ← evalEither (active && left = 0) fuel scope rest
      return (truth (left ≠ 0 || right ≠ 0), scope, rest)
    | rest => return (left, scope, rest)

/-- Expressions that all have to hold, or a single one. -/
def evalBoth (active : Bool) : (fuel : Nat) → Scope → List Token → Result
  | 0, _, _ => .error .missingOperand
  | fuel + 1, scope, tokens => do
    let (left, scope, rest) ← evalBinary active fuel 1 scope tokens
    match rest with
    | .operator "&&" :: rest =>
      let (right, scope, rest) ← evalBoth (active && left ≠ 0) fuel scope rest
      return (truth (left ≠ 0 && right ≠ 0), scope, rest)
    | rest => return (left, scope, rest)

/-- Operators of numbers that bind at least as strongly as `weakest`. -/
def evalBinary (active : Bool) : (fuel weakest : Nat) → Scope → List Token → Result
  | 0, _, _, _ => .error .missingOperand
  | fuel + 1, weakest, scope, tokens => do
    let (left, scope, rest) ← evalUnary active fuel scope tokens
    evalAfter active fuel weakest left scope rest

/-- What an expression goes on with behind its left operand. -/
def evalAfter (active : Bool) : (fuel weakest : Nat) → Int64 → Scope → List Token → Result
  | 0, _, _, _, _ => .error .missingOperand
  | fuel + 1, weakest, left, scope, tokens =>
    match tokens with
    | .operator operator :: rest =>
      match strength? operator with
      | some strength =>
        if weakest ≤ strength then do
          let (right, scope, rest) ← evalBinary active fuel (strength + 1) scope rest
          let value ← if active then compute operator left right else .ok right
          evalAfter active fuel weakest value scope rest
        else .ok (left, scope, tokens)
      | none => .ok (left, scope, tokens)
    | _ => .ok (left, scope, tokens)

/-- Signs, negations, numbers, names and parentheses. -/
def evalUnary (active : Bool) : (fuel : Nat) → Scope → List Token → Result
  | 0, _, _ => .error .missingOperand
  | fuel + 1, scope, tokens =>
    match tokens with
    | .number value :: rest => .ok (value, scope, rest)
    | .name name :: rest => do
      let value ← if active then scope.valueOf name else .ok 0
      return (value, scope, rest)
    | .operator "-" :: rest => do
      let (value, scope, rest) ← evalUnary active fuel scope rest
      return (-value, scope, rest)
    | .operator "+" :: rest => evalUnary active fuel scope rest
    | .operator "!" :: rest => do
      let (value, scope, rest) ← evalUnary active fuel scope rest
      return (truth (value = 0), scope, rest)
    | .operator "~" :: rest => do
      let (value, scope, rest) ← evalUnary active fuel scope rest
      return (~~~value, scope, rest)
    | .operator "(" :: rest => do
      let (value, scope, rest) ← evalAssignment active fuel scope rest
      match rest with
      | .operator ")" :: rest => return (value, scope, rest)
      | _ => .error .missingParenthesis
    | _ => .error .missingOperand

end

/-- The value of an expression, and its assignments in order. -/
def eval (around : String → Option String) (expression : String) :
    Except Fault (Int64 × List (String × Int64)) := do
  let characters := expression.toList
  let tokens := tokens (characters.length + 1) characters
  let (value, scope, rest) ← evalAssignment true (8 * tokens.length + 8) ⟨around, []⟩ tokens
  if rest.isEmpty then return (value, scope.assigned.reverse) else .error .missingEnd

end HintFuzz.Shell.Arithmetic

import HintFuzz.Format.Whole
import HintFuzz.Regex.Reader
import HintFuzz.Regex.Search
import HintFuzz.Utility.Options

/-!
# Expressions of arguments

`expr` works out what its arguments write: numbers, texts, comparisons and what a
pattern covers.  Operators are arguments of their own.
-/

namespace HintFuzz.Utility.Expression

/-- What an expression comes to. -/
inductive Value
  | number (value : Int)
  | text (text : Octets)

namespace Value

/-- The number that a value is, if it is one. -/
def number? : Value → Option Int
  | number value => some value
  | text word =>
    let (negative, digits) := match word.toList with
      | '-' :: digits => (true, digits)
      | digits => (false, digits)
    if digits.isEmpty ∨ !digits.all Char.isDigit then none
    else
      let (magnitude, _) := Format.digitsIn 10 digits
      some (if negative then -magnitude else magnitude)

/-- The text of a value. -/
def shown : Value → Octets
  | number value => toString value
  | text word => word

/-- Whether a value counts as nothing. -/
def isNothing (value : Value) : Bool :=
  match value.number? with
  | some amount => amount == 0
  | none => value.shown.isEmpty

/-- The value of a condition. -/
def ofBool (holds : Bool) : Value := number (if holds then 1 else 0)

end Value

/-- Why an expression comes to nothing. -/
inductive Fault
  | missingAfter (operator : Octets)
  | unexpected (arg : Octets)
  | unclosed (arg : Octets)
  | lonelyBracket
  | noNumber
  | division
  | pattern (fault : Regex.Fault)

/-- The words for a fault. -/
def Fault.words : Fault → Octets
  | missingAfter operator =>
    "syntax error: missing argument after " ++ Text.quotedWord operator
  | unexpected arg => "syntax error: unexpected argument " ++ Text.quotedWord arg
  | unclosed arg => "syntax error: expecting ')' after " ++ Text.quotedWord arg
  | lonelyBracket => "syntax error: unexpected ')'"
  | noNumber => "non-integer argument"
  | division => "division by zero"
  | pattern fault => fault.words

/-- The state of reading: the last argument that was read, and those that follow. -/
structure State where
  last : Octets
  args : List Octets

/-- Reads a part of an expression. -/
abbrev Reading := StateT State (Except Fault)

/-- What a pattern covers at the start of a text: the first group of the pattern, or
how many characters. -/
def covered (text pattern : Octets) : Except Fault Value :=
  match Regex.read ⟨false, false⟩ pattern.toList with
  | .error fault => .error (.pattern fault)
  | .ok regex =>
    let hasGroup := regex.groupCount ≠ 0
    let program := Regex.Program.ofRegex regex false false
    let characters := text.toList
    match (program.find? characters.toArray 0 false).filter fun found => found.first = 0 with
    | none => .ok (if hasGroup then .text "" else .number 0)
    | some found =>
      if hasGroup then
        match found.group 1 with
        | some (first, last) => .ok (.text (String.ofList ((characters.take last).drop first)))
        | none => .ok (.text "")
      else .ok (.number (found.last : Nat))

/-- Takes the next argument if it is one of several operators. -/
def accept (operators : List Octets) : Reading (Option Octets) := do
  match (← get).args with
  | arg :: rest =>
    if operators.contains arg then
      set (⟨arg, rest⟩ : State)
      return some arg
    else return none
  | [] => return none

/-- Takes the next argument. -/
def next : Reading Octets := do
  match (← get).args with
  | arg :: rest =>
    set (⟨arg, rest⟩ : State)
    return arg
  | [] => throw (.missingAfter (← get).last)

/-- The numbers of two values. -/
def numbersOf (left right : Value) : Reading (Int × Int) := do
  match left.number?, right.number? with
  | some a, some b => return (a, b)
  | _, _ => throw .noNumber

/-- The part of a text of some length from a place on, counted from one. -/
def part (text : Octets) (place length : Value) : Octets :=
  match place.number?, length.number? with
  | some place, some length =>
    if place < 1 ∨ length < 1 then ""
    else String.ofList ((text.toList.drop (place.toNat - 1)).take length.toNat)
  | _, _ => ""

/-- The first place in a text of one of several characters, counted from one. -/
def placeOf (text characters : Octets) : Nat :=
  let front := text.toList.takeWhile fun c => !characters.toList.contains c
  if front.length < text.length then front.length + 1 else 0

/-- Whether a comparison holds of two values: as numbers if both are numbers, and as
texts otherwise. -/
def compares (operator : Octets) (left right : Value) : Bool :=
  let order : Ordering := match left.number?, right.number? with
    | some a, some b => compare a b
    | _, _ => compare left.shown right.shown
  match operator with
  | "<" => order == .lt
  | "<=" => order != .gt
  | "=" | "==" => order == .eq
  | "!=" => order != .eq
  | ">=" => order != .lt
  | _ => order == .gt

/-- What an operator makes of two numbers. -/
def calculate (operator : Octets) (a b : Int) : Except Fault Int :=
  match operator with
  | "+" => .ok (a + b)
  | "-" => .ok (a - b)
  | "*" => .ok (a * b)
  | "/" => if b = 0 then .error .division else .ok (a.tdiv b)
  | _ => if b = 0 then .error .division else .ok (a.tmod b)

/-- The operators of the levels, the loosest ones first. -/
def levels : List (List Octets) :=
  [["|"], ["&"], ["<", "<=", "=", "==", "!=", ">=", ">"], ["+", "-"], ["*", "/", "%"], [":"]]

/-- What an operator makes of two values; with `counts`, faults of the values count. -/
def combine (counts : Bool) (operator : Octets) (left right : Value) : Reading Value := do
  match operator with
  | "|" => return if !left.isNothing then left else if right.isNothing then .number 0 else right
  | "&" => return if left.isNothing || right.isNothing then .number 0 else left
  | ":" => if counts then covered left.shown right.shown else return .number 0
  | operator =>
    if ["+", "-", "*", "/", "%"].contains operator then
      if counts then
        let (a, b) ← numbersOf left right
        return .number (← calculate operator a b)
      else return .number 0
    else return .ofBool (compares operator left right)

mutual

/-- A part of an expression without operators outside of parentheses. -/
def readOne (fuel : Nat) (counts : Bool) : Reading Value := do
  match fuel with
  | 0 => throw .noNumber
  | fuel + 1 =>
    let arg ← next
    match arg with
    | "+" => return .text (← next)
    | "(" =>
      let value ← readLevel fuel levels counts
      match (← get).args with
      | ")" :: rest =>
        set (⟨")", rest⟩ : State)
        return value
      | [] => throw (.unclosed (← get).last)
      | arg :: _ => throw (.unexpected arg)
    | ")" => throw .lonelyBracket
    | "length" =>
      let value ← readOne fuel counts
      return .number (value.shown.length : Nat)
    | "match" =>
      let value ← readOne fuel counts
      let pattern ← readOne fuel counts
      if counts then covered value.shown pattern.shown else return .number 0
    | "index" =>
      let value ← readOne fuel counts
      let characters ← readOne fuel counts
      return .number (placeOf value.shown characters.shown : Nat)
    | "substr" =>
      let value ← readOne fuel counts
      let place ← readOne fuel counts
      let length ← readOne fuel counts
      return .text (part value.shown place length)
    | arg => return .text arg

/-- A part of an expression with the operators of some levels. -/
def readLevel (fuel : Nat) (levels : List (List Octets)) (counts : Bool) : Reading Value := do
  match fuel, levels with
  | 0, _ => throw .noNumber
  | fuel + 1, [] => readOne fuel counts
  | fuel + 1, operators :: tighter =>
    let left ← readLevel fuel tighter counts
    readRest fuel operators tighter counts left

/-- What follows the first part of a level. -/
def readRest (fuel : Nat) (operators : List Octets) (tighter : List (List Octets))
    (counts : Bool) (left : Value) : Reading Value := do
  match fuel with
  | 0 => throw .noNumber
  | fuel + 1 =>
    match ← accept operators with
    | none => return left
    | some operator =>
      let needed : Bool :=
        if operator = "|" then left.isNothing
        else if operator = "&" then !left.isNothing
        else true
      let right ← readLevel fuel tighter (counts && needed)
      readRest fuel operators tighter counts (← combine counts operator left right)

end

/-- What arguments come to. -/
def evaluate (args : List Octets) : Except Fault Value := do
  let (value, state) ← (readLevel (16 * args.length + 16) levels true).run ⟨"", args⟩
  match state.args with
  | arg :: _ => .error (.unexpected arg)
  | [] => .ok value

end HintFuzz.Utility.Expression

namespace HintFuzz.Utility

/-- `expr`: works out an expression. -/
def workOut (args : List Octets) : Act Unit := do
  let args := if args.head? = some "--" then args.tail else args
  if args.isEmpty then failMissing
  else
    match Expression.evaluate args with
    | .ok value =>
      printLine value.shown
      setStatus (if value.isNothing then 1 else 0)
    | .error fault => fail fault.words

end HintFuzz.Utility

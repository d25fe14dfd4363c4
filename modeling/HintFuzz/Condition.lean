import HintFuzz.Format.Whole
import HintFuzz.Kernel.Process

/-!
# Conditions

The conditions of `test`: what is said of texts, numbers and files, with negations
and connectives.  A word counts as an operator or as an operand by what stands
behind it, and a condition of three or four words is read by its length first.
-/

namespace HintFuzz.Condition

open Kernel (ask)

/-- What an operator takes. -/
inductive Arity
  | one
  | two
  /-- It stands between conditions, or in front of one. -/
  | connective
deriving DecidableEq

/-- The operators that say something of one word. -/
def unaryOperators : List String :=
  ["-r", "-w", "-x", "-e", "-f", "-d", "-c", "-b", "-p", "-u", "-g", "-k", "-s", "-t", "-z", "-n",
   "-h", "-O", "-G", "-L", "-S"]

/-- The operators that say something of two words. -/
def binaryOperators : List String :=
  ["=", "!=", "<", ">", "-eq", "-ne", "-ge", "-gt", "-le", "-lt", "-nt", "-ot", "-ef"]

/-- The arity of a word that is an operator. -/
def arity? (word : String) : Option Arity :=
  if unaryOperators.contains word then some .one
  else if binaryOperators.contains word then some .two
  else if ["!", "-a", "-o", "(", ")"].contains word then some .connective
  else none

/-- What a word is where it stands. -/
inductive Token
  | finish
  | operand
  | operator (text : String) (arity : Arity)
deriving DecidableEq

/-- Whether the first word is an operand although it looks like an operator. -/
def isOperand : List String → Bool
  | _ :: next :: _ :: _ => arity? next = some .two
  | [_, _] => false
  | _ => true

/-- What the first word is. -/
def token : List String → Token
  | [] => .finish
  | word :: rest =>
    match arity? word with
    | some arity =>
      if arity = .one ∧ isOperand (word :: rest) then .operand
      else if word = "(" ∧ rest.isEmpty then .operand
      else .operator word arity
    | none => .operand

/-- The condition of a text: the words, of which the first is the one that is
being looked at. -/
abbrev Words := List String

/-- Why a condition cannot be read. -/
abbrev Fault := String

/-- A number that a word writes. -/
def number (word : String) : Except Fault Int :=
  match Format.decimal? word with
  | some value => .ok value
  | none => .error ("Illegal number: " ++ word)

/-- What is asked of the system to see whether a condition holds. -/
abbrev Inquiry (σ : Type) := Kernel.Act Fault σ

/-- What is known about the file at a path. -/
def facts? {σ : Type} (path : String) (through : Bool) : Inquiry σ (Option Kernel.Facts) := do
  return (← ask (.facts (Octets.toText path) through)).toOption

/-- A number that a word writes, or the fault that it writes none. -/
def needNumber {σ : Type} (word : String) : Inquiry σ Int :=
  match number word with
  | .ok value => return value
  | .error fault => throw fault

/-- Whether a unary operator holds of a word. -/
def holdsOfOne {σ : Type} (operator word : String) : Inquiry σ Bool := do
  let ofFile (p : Kernel.Facts → Bool) : Inquiry σ Bool := do
    return (← facts? word true).any p
  match operator with
  | "-z" => return word.isEmpty
  | "-n" => return !word.isEmpty
  | "-t" =>
    let _ ← needNumber word
    return false
  | "-r" | "-w" | "-e" | "-O" | "-G" => ofFile fun _ => true
  | "-x" => ofFile fun facts => facts.kind = .directory || facts.mode &&& 0o111 ≠ 0
  | "-f" => ofFile fun facts => facts.kind = .file
  | "-d" => ofFile fun facts => facts.kind = .directory
  | "-c" => ofFile fun facts => facts.kind = .device
  | "-p" => ofFile fun facts => facts.kind = .channel
  | "-s" => ofFile fun facts => 0 < facts.size
  | "-u" => ofFile fun facts => facts.mode &&& 0o4000 ≠ 0
  | "-g" => ofFile fun facts => facts.mode &&& 0o2000 ≠ 0
  | "-k" => ofFile fun facts => facts.mode &&& 0o1000 ≠ 0
  | "-h" | "-L" => return (← facts? word false).any fun facts => facts.kind = .link
  | _ => return false

/-- Whether a binary operator holds of two words. -/
def holdsOfTwo {σ : Type} (operator left right : String) : Inquiry σ Bool := do
  let ofNumbers (p : Int → Int → Bool) : Inquiry σ Bool := do
    let a ← needNumber left
    let b ← needNumber right
    return p a b
  let ofFiles (p : Kernel.Facts → Kernel.Facts → Bool) : Inquiry σ Bool := do
    match ← facts? left true, ← facts? right true with
    | some a, some b => return p a b
    | _, _ => return false
  match operator with
  | "=" => return left = right
  | "!=" => return left ≠ right
  | "<" => return left < right
  | ">" => return right < left
  | "-eq" => ofNumbers (· == ·)
  | "-ne" => ofNumbers (· != ·)
  | "-ge" => ofNumbers fun a b => b ≤ a
  | "-gt" => ofNumbers fun a b => b < a
  | "-le" => ofNumbers fun a b => a ≤ b
  | "-lt" => ofNumbers fun a b => a < b
  | "-nt" => ofFiles fun a b => b.modified < a.modified
  | "-ot" => ofFiles fun a b => a.modified < b.modified
  | _ => ofFiles fun a b => a.id = b.id

/-! ### Parts of conditions

Each part gives what it comes to, and the words from its last one on. -/

mutual

/-- Conditions of which one has to hold. -/
def anyOf {σ : Type} : (fuel : Nat) → Token → Words → Inquiry σ (Bool × Words)
  | 0, _, words => return (false, words)
  | fuel + 1, first, words => do
    let (left, words) ← allOf fuel first words
    if token words.tail = .operator "-o" .connective then
      let words := words.drop 2
      let (right, words) ← anyOf fuel (token words) words
      return (left || right, words)
    else return (left, words)

/-- Conditions that all have to hold. -/
def allOf {σ : Type} : (fuel : Nat) → Token → Words → Inquiry σ (Bool × Words)
  | 0, _, words => return (false, words)
  | fuel + 1, first, words => do
    let (left, words) ← negatable fuel first words
    if token words.tail = .operator "-a" .connective then
      let words := words.drop 2
      let (right, words) ← allOf fuel (token words) words
      return (left && right, words)
    else return (left, words)

/-- A condition that may be negated. -/
def negatable {σ : Type} : (fuel : Nat) → Token → Words → Inquiry σ (Bool × Words)
  | 0, _, words => return (false, words)
  | fuel + 1, first, words => do
    if first = .operator "!" .connective then
      let next := token words.tail
      let (holds, words) ← negatable fuel next (if next = .finish then words else words.tail)
      return (!holds, words)
    else primary fuel first words

/-- A condition without a connective, or one in parentheses. -/
def primary {σ : Type} : (fuel : Nat) → Token → Words → Inquiry σ (Bool × Words)
  | 0, _, words => return (false, words)
  | fuel + 1, first, words => do
    match first with
    | .finish => return (false, words)
    | .operator "(" _ =>
      let words := words.tail
      let next := token words
      if next = .operator ")" .connective then return (false, words)
      else
        let (holds, words) ← anyOf fuel next words
        let words := words.tail
        if token words = .operator ")" .connective then return (holds, words)
        else throw "closing paren expected"
    | .operator operator .one =>
      match words.tail with
      | [] => throw (operator ++ ": argument expected")
      | word :: rest => return (← holdsOfOne operator word, word :: rest)
    | _ =>
      match token words.tail with
      | .operator operator .two =>
        match words.drop 2 with
        | [] => throw (operator ++ ": argument expected")
        | right :: rest =>
          return (← holdsOfTwo operator (words.headD "") right, right :: rest)
      | _ => return (!(words.headD "").isEmpty, words)

end

/-- Whether the condition that words write holds, given what the first one is. -/
def evaluate {σ : Type} (first : Token) (words : Words) : Inquiry σ Bool := do
  match ← anyOf (8 * words.length + 8) first words with
  | (_, word :: _ :: _) =>
    throw ((if word.isEmpty then "" else word ++ ": ") ++ "unexpected operator")
  | (holds, _) => return holds

/-- Whether the condition that words write holds, or does not hold if `negated`.  A
second negation in front of the first one changes nothing. -/
def holds {σ : Type} : (fuel : Nat) → (negated : Bool) → Words → Inquiry σ Bool
  | 0, _, _ => return false
  | fuel + 1, negated, words => do
    let byEnds : Inquiry σ Bool := do
      if words.head? = some "(" ∧ words.getLast? = some ")" then
        let inner := words.tail.dropLast
        return (← evaluate (token inner) inner) != negated
      else if words.head? = some "!" then holds fuel true words.tail
      else return (← evaluate (token words) words) != negated
    match words with
    | [] => return negated
    | [_, operator, _] =>
      if arity? operator = some .two then return (← evaluate .operand words) != negated
      else byEnds
    | [_, _, _, _] => byEnds
    | _ => return (← evaluate (token words) words) != negated

/-- Whether the condition of a command of a name holds.  One that is called by a
bracket needs another one behind it. -/
def ofCommand {σ : Type} (name : String) (args : List String) : Inquiry σ Bool :=
  if name = "[" then
    if args.getLast? = some "]" then holds (args.length + 1) false args.dropLast
    else throw "missing ]"
  else holds (args.length + 1) false args

end HintFuzz.Condition

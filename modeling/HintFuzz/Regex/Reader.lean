import HintFuzz.Regex.Basic

/-!
# Reading regular expressions

There are two ways of writing them.  In the basic one, groups, intervals and
choices are written with backslashes, and in the extended one without.
-/

namespace HintFuzz.Regex

open Text (CharacterClass)

/-- What is wrong with a pattern. -/
inductive Fault
  | badPattern
  | noClass
  | collation
  | trailingBackslash
  | backReference
  | openBracket
  | openGroup
  | openInterval
  | badInterval
  | badRange
  | tooBig
  | noOperand
  | closedGroup
  | classSyntax
deriving DecidableEq

/-- The words for a fault. -/
def Fault.words : Fault → String
  | badPattern => "Invalid regular expression"
  | noClass => "Invalid character class name"
  | collation => "Invalid collation character"
  | trailingBackslash => "Trailing backslash"
  | backReference => "Invalid back reference"
  | openBracket => "Unmatched [, [^, [:, [., or [="
  | openGroup => "Unmatched ( or \\("
  | openInterval => "Unmatched \\\x7b"
  | badInterval => "Invalid content of \\\x7b\\\x7d"
  | badRange => "Invalid range end"
  | tooBig => "Regular expression too big"
  | noOperand => "Invalid preceding regular expression"
  | closedGroup => "Unmatched ) or \\)"
  | classSyntax => "character class syntax is [[:space:]], not [:space:]"

/-- A way of writing regular expressions. -/
structure Dialect where
  extended : Bool
  /-- An operator without anything in front of it is a fault. -/
  strict : Bool

/-! ### Tokens -/

/-- A token. -/
inductive Token
  | one (test : CharTest)
  | between (condition : Condition)
  | openGroup
  | closeGroup
  | bar
  | repeated (least : Nat) (most : Option Nat)
  | reference (number : Nat)
deriving DecidableEq

/-- The character behind an opening bracket and a mark, up to the mark and a closing
bracket, and what stands behind. -/
def markedCharacter (mark : Char) : List Char → Except Fault (Char × List Char)
  | c :: d :: ']' :: rest => if d = mark then .ok (c, rest) else .error .collation
  | _ => .error .openBracket

/-- One end of a range in a set, and what stands behind. -/
def rangeEnd : List Char → Except Fault (Char × List Char)
  | '[' :: '.' :: rest => markedCharacter '.' rest
  | '[' :: '=' :: rest => markedCharacter '=' rest
  | c :: rest => .ok (c, rest)
  | [] => .error .openBracket

/-- A character, or the range that starts with it, and what stands behind. -/
def rangeFrom (first : Char) : List Char → Except Fault (SetItem × List Char)
  | '-' :: ']' :: rest => .ok (.range first first, '-' :: ']' :: rest)
  | '-' :: rest => do
    let (last, rest) ← rangeEnd rest
    if last < first then .error .badRange else .ok (.range first last, rest)
  | rest => .ok (.range first first, rest)

/-- The first item of a set, and what stands behind. -/
def setItem : List Char → Except Fault (SetItem × List Char)
  | '[' :: ':' :: rest =>
    let name := rest.takeWhile Char.isAlpha
    match rest.drop name.length with
    | ':' :: ']' :: rest =>
      match CharacterClass.ofName? (String.ofList name) with
      | some kind => .ok (.named kind, rest)
      | none => .error .noClass
    | _ => if rest.contains ']' then .error .noClass else .error .openBracket
  | text => do
    let (first, rest) ← rangeEnd text
    rangeFrom first rest

/-- The items of a set up to its bracket, and what stands behind it. -/
def setItems : (fuel : Nat) → List Char → Except Fault (List SetItem × List Char)
  | 0, _ => .error .openBracket
  | _, ']' :: rest => .ok ([], rest)
  | fuel + 1, text => do
    let (item, rest) ← setItem text
    let (items, rest) ← setItems fuel rest
    return (item :: items, rest)

/-- Whether the items of a set look as if they were to name a class. -/
def looksLikeClass (items : List SetItem) : Bool :=
  let colon : SetItem := .range ':' ':'
  let isOne (item : SetItem) : Bool := match item with
    | .range first last => first = last
    | .named _ => false
  items.head? = some colon && items.getLast? = some colon && items.all isOne &&
    items.any fun item => item ≠ colon

/-- A set behind its opening bracket, and what stands behind it.  A closing bracket in
front of everything else is an item. -/
def readSet (text : List Char) : Except Fault (CharTest × List Char) := do
  let (negated, text) := match text with
    | '^' :: rest => (true, rest)
    | rest => (false, rest)
  match text with
  | [] => .error .badPattern
  | ']' :: rest =>
    let (item, rest) ← rangeFrom ']' rest
    let (items, rest) ← setItems (rest.length + 1) rest
    return (.set negated (item :: items), rest)
  | text =>
    let (items, rest) ← setItems (text.length + 1) text
    if looksLikeClass items then .error .classSyntax else return (.set negated items, rest)

/-- The most rounds that an interval may ask for. -/
def mostRounds : Nat := 32767

/-- An interval behind its opening brace, and what stands behind it.  None if it is no
interval at all. -/
def readInterval (dialect : Dialect) (text : List Char) :
    Except Fault (Option (Token × List Char)) :=
  let number (digits : List Char) : Nat :=
    digits.foldl (fun value c => value * 10 + (c.toNat - 48)) 0
  let first := text.takeWhile Char.isDigit
  let rest := text.drop first.length
  let (last, rest) : Option (List Char) × List Char := match rest with
    | ',' :: rest =>
      let digits := rest.takeWhile Char.isDigit
      (some digits, rest.drop digits.length)
    | rest => (none, rest)
  let rest? : Option (List Char) := match dialect.extended, rest with
    | true, '\x7d' :: rest => some rest
    | false, '\\' :: '\x7d' :: rest => some rest
    | _, _ => none
  let isEmpty := first.isEmpty && last.isNone
  match rest? with
  | none =>
    if dialect.extended ∧ !dialect.strict then .ok none
    else if rest.isEmpty then .error .openInterval
    else .error .badInterval
  | some rest =>
    if isEmpty then (if dialect.extended ∧ !dialect.strict then .ok none else .error .badInterval)
    else
      let least := number first
      let most := match last with
        | none => some least
        | some [] => none
        | some digits => some (number digits)
      if most.any fun most => most < least then .error .badInterval
      else if mostRounds < least ∨ most.any fun most => mostRounds < most then .error .tooBig
      else .ok (some (.repeated least most, rest))

/-- The test or condition that a letter behind a backslash stands for. -/
def escapedToken? (c : Char) : Option Token :=
  match c with
  | 'w' => some (.one (.set false wordItems))
  | 'W' => some (.one (.set true wordItems))
  | 's' => some (.one (.set false [.named .space]))
  | 'S' => some (.one (.set true [.named .space]))
  | 'b' => some (.between .wordEdge)
  | 'B' => some (.between .noWordEdge)
  | '<' => some (.between .wordStart)
  | '>' => some (.between .wordEnd)
  | '\x60' => some (.between .textStart)
  | '\'' => some (.between .textEnd)
  | _ => none

/-- Whether a choice starts here. -/
def startsChoice : Option Token → Bool
  | none | some .openGroup | some .bar => true
  | _ => false

/-- Whether nothing that could be repeated stands in front. -/
def startsOperand : Option Token → Bool
  | some (.between _) => true
  | before => startsChoice before

/-- Whether a token repeats what stands in front of it. -/
def Token.isRepeated : Token → Bool
  | repeated .. => true
  | _ => false

/-- The first token of a pattern and what stands behind; `before` is the token in
front. -/
def readToken (dialect : Dialect) (before : Option Token) (c : Char) (rest : List Char) :
    Except Fault (Option Token × List Char) :=
  let literal : Except Fault (Option Token × List Char) := .ok (some (.one (.only c)), rest)
  let operator (token : Token) (rest : List Char) : Except Fault (Option Token × List Char) :=
    if !startsOperand before then
      if dialect.strict ∧ !dialect.extended ∧ before.any Token.isRepeated then .error .noOperand
      else .ok (some token, rest)
    else if !dialect.extended then .ok (some (.one (.only c)), rest)
    else if dialect.strict then .error .noOperand
    else .ok (some token, rest)
  let extended (token : Token) : Except Fault (Option Token × List Char) :=
    if dialect.extended then .ok (some token, rest) else literal
  match c, rest with
  | '\\', [] => .error .trailingBackslash
  | '\\', d :: rest =>
    let isBasic := !dialect.extended
    if d.isDigit ∧ d ≠ '0' then .ok (some (.reference (d.toNat - 48)), rest)
    else if isBasic ∧ d = '(' then .ok (some .openGroup, rest)
    else if isBasic ∧ d = ')' then .ok (some .closeGroup, rest)
    else if isBasic ∧ d = '|' then .ok (some .bar, rest)
    else if isBasic ∧ (d = '+' ∨ d = '?') then
      if startsOperand before then .ok (some (.one (.only d)), rest)
      else if d = '+' then .ok (some (.repeated 1 none), rest)
      else .ok (some (.repeated 0 (some 1)), rest)
    else if isBasic ∧ d = '\x7b' then
      if startsOperand before ∨ (dialect.strict ∧ before.any Token.isRepeated) then
        if dialect.strict then .error .noOperand else .ok (some (.one (.only d)), rest)
      else
        match readInterval dialect rest with
        | .error fault => .error fault
        | .ok none => .error .badInterval
        | .ok (some (token, rest)) => .ok (some token, rest)
    else
      match escapedToken? d with
      | some token => .ok (some token, rest)
      | none => .ok (some (.one (.only d)), rest)
  | '[', rest => do
    let (test, rest) ← readSet rest
    return (some (.one test), rest)
  | '.', rest => .ok (some (.one .any), rest)
  | '*', rest => operator (.repeated 0 none) rest
  | '^', rest =>
    if dialect.extended ∨ startsChoice before then
      .ok (some (.between .lineStart), rest)
    else literal
  | '$', rest =>
    let isLast : Bool := match rest with
      | [] => true
      | '\\' :: d :: _ => d = ')' || d = '|'
      | _ => false
    if dialect.extended ∨ isLast then .ok (some (.between .lineEnd), rest) else literal
  | '(', _ => extended .openGroup
  | ')', _ => extended .closeGroup
  | '|', _ => extended .bar
  | '+', _ =>
    if dialect.extended then operator (.repeated 1 none) rest else literal
  | '?', _ =>
    if dialect.extended then operator (.repeated 0 (some 1)) rest else literal
  | '\x7b', rest =>
    if !dialect.extended then literal
    else
      match readInterval dialect rest with
      | .error fault => if startsOperand before then .error .noOperand else .error fault
      | .ok none => literal
      | .ok (some (token, rest)) => operator token rest
  | _, _ => literal

/-- The tokens of a pattern. -/
def tokens (dialect : Dialect) :
    (fuel : Nat) → (before : Option Token) → List Char → Except Fault (List Token)
  | 0, _, _ => .ok []
  | _, _, [] => .ok []
  | fuel + 1, before, c :: rest => do
    let (token?, rest) ← readToken dialect before c rest
    match token? with
    | some token => return token :: (← tokens dialect fuel (some token) rest)
    | none => tokens dialect fuel before rest

/-! ### Expressions -/

/-- What a group that is open holds so far: choices that are complete, the last one
first, and the parts of the open one, the last one first. -/
structure OpenGroup where
  number : Nat
  choices : List Regex
  parts : List Regex

namespace OpenGroup

/-- The parts of one choice, one after the other. -/
def sequenceOf (parts : List Regex) : Regex :=
  match parts with
  | [] => .nothing
  | last :: others => others.foldl (fun behind part => .sequence part behind) last

/-- Everything that a group holds. -/
def whole (group : OpenGroup) : Regex :=
  group.choices.foldl (fun others choice => .either choice others) (sequenceOf group.parts)

/-- A group with one part more. -/
def add (group : OpenGroup) (part : Regex) : OpenGroup :=
  { group with parts := part :: group.parts }

/-- A group in which another choice starts. -/
def cut (group : OpenGroup) : OpenGroup :=
  { group with choices := sequenceOf group.parts :: group.choices, parts := [] }

end OpenGroup

/-- Puts tokens together.  `outer` are the groups around `inner`, `next` is
the number of the next group, and `closed` are the numbers of groups that are complete. -/
def assemble (dialect : Dialect) :
    List Token → (inner : OpenGroup) → (outer : List OpenGroup) → (next : Nat) →
    (closed : List Nat) → Except Fault Regex
  | [], inner, [], _, _ => .ok inner.whole
  | [], _, _ :: _, _, _ => .error .openGroup
  | token :: rest, inner, outer, next, closed =>
    match token with
    | .one test => assemble dialect rest (inner.add (.one test)) outer next closed
    | .between condition => assemble dialect rest (inner.add (.between condition)) outer next closed
    | .bar => assemble dialect rest inner.cut outer next closed
    | .openGroup => assemble dialect rest ⟨next, [], []⟩ (inner :: outer) (next + 1) closed
    | .closeGroup =>
      match outer with
      | [] =>
        if dialect.extended ∧ !dialect.strict then
          assemble dialect rest (inner.add (.one (.only ')'))) [] next closed
        else .error .closedGroup
      | above :: outer =>
        assemble dialect rest (above.add (.group inner.number inner.whole)) outer next
          (inner.number :: closed)
    | .reference number =>
      if closed.contains number then
        assemble dialect rest (inner.add (.reference number)) outer next closed
      else .error .backReference
    | .repeated least most =>
      match inner.parts with
      | [] => assemble dialect rest inner outer next closed
      | part :: parts =>
        assemble dialect rest { inner with parts := .repeated part least most :: parts } outer next
          closed

/-- The expression that a pattern writes. -/
def read (dialect : Dialect) (pattern : List Char) : Except Fault Regex := do
  let tokens ← tokens dialect (pattern.length + 1) none pattern
  assemble dialect tokens ⟨0, [], []⟩ [] 1 []

/-- The operators of a pattern that have nothing in front of them, as far as they count
as operators all the same.  `start` tells that nothing that covers characters stands in
front of what follows. -/
def strayOperators (dialect : Dialect) :
    (fuel : Nat) → (start : Bool) → (before : Option Token) → List Char → List String
  | 0, _, _, _ => []
  | _, _, _, [] => []
  | fuel + 1, start, before, c :: rest =>
    match readToken dialect before c rest with
    | .error _ => []
    | .ok (none, rest) => strayOperators dialect fuel start before rest
    | .ok (some token, rest) =>
      let isStray := start && dialect.extended && token.isRepeated
      let start : Bool := match token with
        | .openGroup | .bar => true
        | .between _ => start
        | .repeated .. => start && c ≠ '\x7b'
        | _ => false
      (if isStray then [if c = '\x7b' then "\x7b...\x7d" else String.singleton c] else []) ++
        strayOperators dialect fuel start (some token) rest

end HintFuzz.Regex

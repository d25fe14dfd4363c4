import HintFuzz.Regex.Basic

/-!
# Searching

A regular expression becomes a program of small steps, of which several may be
possible at once.  All of them are tried, the one that is meant first before the
others, and of all ways that end in success the one that reaches farthest counts.
A step that was tried at some place of the text need not be tried there again,
unless the pattern refers to its groups.
-/

namespace HintFuzz.Regex

/-- A step of a program; the numbers are the places of the steps that follow. -/
inductive Instruction
  | accept
  | test (test : CharTest) (next : Nat)
  | check (condition : Condition) (next : Nat)
  | fork (first second : Nat)
  /-- Keeps the place in the text: the start or the end of a group. -/
  | mark (slot next : Nat)
  | reference (number next : Nat)
deriving DecidableEq

/-- A program, of which the first step is at `entry`. -/
structure Program where
  steps : Array Instruction
  entry : Nat
  hasReference : Bool
  /-- Letters of both cases are the same. -/
  fold : Bool
  /-- The text has several lines. -/
  lines : Bool

/-- Steps with the place at which they start. -/
abbrev Code := Nat × Array Instruction

/-- One step in front of others. -/
def Code.step (code : Code) (instruction : Nat → Instruction) : Code :=
  (code.2.size, code.2.push (instruction code.1))

/-- Any number of rounds in front of others. -/
def Code.loop (code : Code) (round : Code → Code) : Code :=
  let place := code.2.size
  let (entry, steps) := round (place, code.2.push .accept)
  (place, steps.set! place (.fork entry code.1))

/-- The steps of an expression in front of others. -/
def compileBefore : Regex → Code → Code
  | .nothing, code => code
  | .one test, code => code.step (.test test)
  | .between condition, code => code.step (.check condition)
  | .sequence first second, code => compileBefore first (compileBefore second code)
  | .either first second, code =>
    let (right, steps) := compileBefore second code
    let (left, steps) := compileBefore first (code.1, steps)
    (steps.size, steps.push (.fork left right))
  | .repeated body least most, code =>
    let round := compileBefore body
    let code := match most with
      | none => code.loop round
      | some most =>
        -- Without one of the rounds there are none of those behind it either.
        let leave := code.1
        (List.range (most - least)).foldl (fun code _ =>
          let (entry, steps) := round code
          (steps.size, steps.push (.fork entry leave))) code
    (List.range least).foldl (fun code _ => round code) code
  | .group number body, code =>
    (compileBefore body (code.step (.mark (2 * number + 1)))).step (.mark (2 * number))
  | .reference number, code => code.step (.reference number)

/-- The program of an expression. -/
def Program.ofRegex (regex : Regex) (fold lines : Bool) : Program :=
  let (entry, steps) := compileBefore regex (0, #[.accept])
  ⟨steps, entry, regex.hasReference, fold, lines⟩

/-- A way that is left to be tried. -/
structure Thread where
  step : Nat
  place : Nat
  /-- The places that were kept, the latest one first. -/
  marks : List (Nat × Nat)
  /-- The steps that were taken since the last character. -/
  idle : List Nat

/-- The stretch of text that a group covers. -/
def coveredBy (marks : List (Nat × Nat)) (number : Nat) : Option (Nat × Nat) :=
  let last? := marks.find? fun entry => entry.1 = 2 * number + 1
  let first? := marks.find? fun entry => entry.1 = 2 * number
  match first?, last? with
  | some first, some last => if first.2 ≤ last.2 then some (first.2, last.2) else none
  | _, _ => none

/-- The place behind a stretch of text, if the same stands from some place on. -/
def behindCopy (program : Program) (text : Array Char) (first last place : Nat) : Option Nat :=
  let isSame := (List.range (last - first)).all fun offset =>
    match text[first + offset]?, text[place + offset]? with
    | some a, some b => a = b || (program.fold && a.toLower = b.toLower)
    | _, _ => false
  if isSame then some (place + (last - first)) else none

/-- The ways that follow one step of a way. -/
def Program.advance (program : Program) (text : Array Char) (thread : Thread)
    (instruction : Instruction) : List Thread :=
  let idle := if program.hasReference then thread.step :: thread.idle else []
  let stay (step : Nat) : Thread := { thread with step, idle }
  match instruction with
  | .accept => []
  | .test test next =>
    match text[thread.place]? with
    | some c =>
      if test.passes program.fold c then [⟨next, thread.place + 1, thread.marks, []⟩] else []
    | none => []
  | .check condition next =>
    let before := if thread.place = 0 then none else text[thread.place - 1]?
    if condition.holds program.lines before text[thread.place]? then [stay next] else []
  | .fork first second => [stay first, stay second]
  | .mark slot next => [{ stay next with marks := (slot, thread.place) :: thread.marks }]
  | .reference number next =>
    match coveredBy thread.marks number with
    | none => []
    | some (first, last) =>
      match behindCopy program text first last thread.place with
      | none => []
      | some place => [{ stay next with place, idle := if first = last then idle else [] }]

/-- Whether a step was tried. -/
def wasTried (tried : ByteArray) (index : Nat) : Bool :=
  if h : index < tried.size then tried[index] ≠ 0 else false

/-- Tries all ways that are left, the first one first.  `tried` tells which steps were
tried at which places, `best` is the way that has reached farthest so far.  With
`any`, the first success is enough. -/
def Program.explore (program : Program) (text : Array Char) (any : Bool) :
    (fuel : Nat) → List Thread → (tried : ByteArray) → (best : Option Thread) →
    Option Thread × ByteArray
  | 0, _, tried, best => (best, tried)
  | _, [], tried, best => (best, tried)
  | fuel + 1, thread :: rest, tried, best =>
    let index := thread.step * (text.size + 1) + thread.place
    let isDone :=
      if program.hasReference then thread.idle.contains thread.step else wasTried tried index
    if isDone then explore program text any fuel rest tried best
    else
      let tried := if program.hasReference then tried else tried.set! index 1
      match program.steps[thread.step]? with
      | none => explore program text any fuel rest tried best
      | some .accept =>
        let isBetter := best.all fun best => best.place < thread.place
        let best := if isBetter then some thread else best
        if any then (best, tried) else explore program text any fuel rest tried best
      | some instruction =>
        explore program text any fuel (program.advance text thread instruction ++ rest) tried best

/-- A stretch of text that an expression covers. -/
structure Covered where
  first : Nat
  last : Nat
  marks : List (Nat × Nat)

/-- The stretch that a group covers; group 0 is everything. -/
def Covered.group (covered : Covered) (number : Nat) : Option (Nat × Nat) :=
  if number = 0 then some (covered.first, covered.last) else coveredBy covered.marks number

/-- How many steps a pattern with references may take from one place on. -/
def mostSteps : Nat := 2000000

/-- The first stretch from some place on. -/
def Program.findFrom (program : Program) (text : Array Char) (any : Bool) :
    (count : Nat) → (start : Nat) → (tried : ByteArray) → Option Covered
  | 0, _, _ => none
  | count + 1, start, tried =>
    let fuel :=
      if program.hasReference then mostSteps
      else 2 * (program.steps.size + 1) * (text.size + 2)
    match program.explore text any fuel [⟨program.entry, start, [], []⟩] tried none with
    | (some thread, _) => some ⟨start, thread.place, thread.marks⟩
    | (none, tried) => findFrom program text any count (start + 1) tried

/-- The first stretch of a text from some place on that a program covers.  Of several
that start there it is the longest one, or with `any`, one of them. -/
def Program.find? (program : Program) (text : Array Char) (start : Nat) (any : Bool) :
    Option Covered :=
  let size := if program.hasReference then 0 else program.steps.size * (text.size + 1)
  program.findFrom text any (text.size + 1 - start) start ⟨Array.replicate size 0⟩

end HintFuzz.Regex

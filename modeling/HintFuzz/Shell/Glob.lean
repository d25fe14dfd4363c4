import HintFuzz.Text.CharacterClass

/-!
# Patterns of the shell

A pattern matches a whole text: `*` any stretch, `?` any character, and brackets
one character of a set.
-/

namespace HintFuzz.Shell

open Text (CharacterClass)

/-- A part of a set of characters. -/
inductive SetPart
  | range (low high : Char)
  | named (kind : CharacterClass)
deriving DecidableEq

/-- Whether a part of a set holds a character. -/
def SetPart.holds (part : SetPart) (c : Char) : Bool :=
  match part with
  | range low high => low ≤ c && c ≤ high
  | named kind => kind.holds c

/-- One element of a pattern. -/
inductive Glob
  | exactly (c : Char)
  | anyOne
  | anyStretch
  /-- A character of some parts, or of none of them if `negated`. -/
  | oneOf (negated : Bool) (parts : List SetPart)
deriving DecidableEq

namespace Glob

/-- Whether an element matches a character. -/
def takes (glob : Glob) (c : Char) : Bool :=
  match glob with
  | exactly expected => c = expected
  | anyOne | anyStretch => true
  | oneOf negated parts => (parts.any fun part => part.holds c) != negated

/-- Whether a pattern matches a text. -/
def covers : List Glob → List Char → Bool
  | [], text => text.isEmpty
  | anyStretch :: globs, [] => covers globs []
  | _ :: _, [] => false
  | anyStretch :: globs, c :: rest =>
    covers globs (c :: rest) || covers (anyStretch :: globs) rest
  | glob :: globs, c :: rest => glob.takes c && covers globs rest
termination_by globs text => (text.length, globs.length)

/-- Characters, each with whether it is quoted. -/
abbrev Marked := List (Char × Bool)

/-- The parts of a set, up to the bracket that closes it.  A bracket right at the
start belongs to the set. -/
def readParts : (fuel : Nat) → (first : Bool) → Marked → Option (List SetPart × Marked)
  | 0, _, _ => none
  | _, _, [] => none
  | fuel + 1, first, (c, quoted) :: rest =>
    if c = ']' ∧ !quoted ∧ !first then some ([], rest)
    else
      let named? := if c = '[' ∧ !quoted then CharacterClass.read? (rest.map Prod.fst) else none
      match named? with
      | some (kind, behind) =>
        (readParts fuel false (rest.drop (rest.length - behind.length))).map
          fun (parts, rest) => (.named kind :: parts, rest)
      | none =>
        -- A backslash that nobody took away quotes the next character.
        let (c, rest) := match c, quoted, rest with
          | '\\', false, (d, _) :: rest => (d, rest)
          | c, _, rest => (c, rest)
        let (last, rest) := match rest with
          | ('-', false) :: (d, quoted) :: more =>
            if d = ']' ∧ !quoted then (c, rest) else (d, more)
          | rest => (c, rest)
        (readParts fuel false rest).map fun (parts, rest) => (.range c last :: parts, rest)

/-- The pattern of a text in which each character tells whether it is quoted. -/
def ofMarked : (fuel : Nat) → Marked → List Glob
  | 0, _ => []
  | _, [] => []
  | fuel + 1, (c, quoted) :: rest =>
    if quoted then exactly c :: ofMarked fuel rest
    else
      match c with
      | '*' => anyStretch :: ofMarked fuel rest
      | '?' => anyOne :: ofMarked fuel rest
      | '\\' =>
        match rest with
        | (d, _) :: rest => exactly d :: ofMarked fuel rest
        | [] => [exactly '\\']
      | '[' =>
        let (negated, set) := match rest with
          | ('!', false) :: set => (true, set)
          | set => (false, set)
        match readParts set.length true set with
        | some (parts, rest) => oneOf negated parts :: ofMarked fuel rest
        | none => exactly c :: ofMarked fuel rest
      | c => exactly c :: ofMarked fuel rest

/-- The pattern of a text in which nothing is quoted. -/
def ofText (text : String) : List Glob :=
  ofMarked text.length (text.toList.map (·, false))

/-- A text without a front that a pattern covers: the shortest such front, or the
longest one. -/
def dropFront (longest : Bool) (globs : List Glob) (text : List Char) : List Char :=
  let lengths := List.range (text.length + 1)
  let found := (if longest then lengths.reverse else lengths).find? fun length =>
    covers globs (text.take length)
  text.drop (found.getD 0)

/-- A text without an end that a pattern covers: the shortest such end, or the
longest one. -/
def dropEnd (longest : Bool) (globs : List Glob) (text : List Char) : List Char :=
  let lengths := List.range (text.length + 1)
  let found := (if longest then lengths else lengths.reverse).find? fun length =>
    covers globs (text.drop length)
  text.take (found.getD text.length)

end Glob

end HintFuzz.Shell

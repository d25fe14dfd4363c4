import HintFuzz.Shell.Glob
import HintFuzz.Shell.State

/-!
# Fields of expanded words

What a word gives is a row of characters, of which some are quoted and some come
from expansions.  The row is split into fields at the separators in expansions,
and a field with the marks of a pattern stands for the paths that the pattern
covers.
-/

namespace HintFuzz.Shell

open Kernel (ask)

/-! ### Marks -/

/-- A character of an expanded word, or a mark between characters. -/
inductive Mark
  | held (c : Char) (quoted : Bool)
  /-- It comes from an expansion that is split. -/
  | grown (c : Char)
  /-- Something quoted stands here, so there is a field even without characters. -/
  | present
  /-- One field ends here and another one starts. -/
  | cut
  /-- A blank between two arguments of the script. -/
  | gap
deriving DecidableEq

/-- A field: characters, each with whether it is quoted. -/
abbrev Field := Glob.Marked

/-- The text of a field. -/
def Field.text (field : Field) : Octets :=
  String.ofList (field.map Prod.fst)

/-- The pattern of a field: what is quoted stands for itself. -/
def Field.pattern (field : Field) : List Glob :=
  Glob.ofMarked field.length field

/-- The character of a mark. -/
def Mark.char? : Mark → Option (Char × Bool)
  | held c quoted => some (c, quoted)
  | grown c => some (c, false)
  | gap => some (' ', false)
  | present | cut => none

/-- The characters of marks, all in one field. -/
def oneField (marks : List Mark) : Field :=
  marks.filterMap Mark.char?

/-- The text of marks. -/
def textOf (marks : List Mark) : Octets :=
  (oneField marks).text

/-- The separators that are used if nothing else is said. -/
def usualSeparators : List Char := [' ', '\t', '\n']

/-- The separators of fields. -/
def State.separators (state : State) : List Char :=
  match state.value? "IFS" with
  | some text => text.toList
  | none => usualSeparators

/-- The fields of marks.  `current` holds what was read of the open field, last
character first; `blank` tells that a blank has just ended a field, so that a
separator behind it ends nothing more. -/
def splitMarks (separators : List Char) :
    (current : Option Field) → (blank : Bool) → List Mark → List Field
  | current, _, [] => (current.map List.reverse).toList
  | current, blank, mark :: rest =>
    let ended : List Field := (current.map List.reverse).toList
    match mark with
    | .held c quoted => splitMarks separators (some ((c, quoted) :: current.getD [])) false rest
    | .present => splitMarks separators (some (current.getD [])) false rest
    | .cut => ended ++ splitMarks separators none false rest
    | .gap => ended ++ splitMarks separators none (blank || current.isSome) rest
    | .grown c =>
      if !separators.contains c then
        splitMarks separators (some ((c, false) :: current.getD [])) false rest
      else if usualSeparators.contains c then
        ended ++ splitMarks separators none (blank || current.isSome) rest
      else if blank then splitMarks separators none false rest
      else (current.getD []).reverse :: splitMarks separators none false rest

/-- The fields of marks. -/
def fieldsOf (separators : List Char) (marks : List Mark) : List Field :=
  splitMarks separators none false marks

/-- The marks of the value of an expansion. -/
def marksOf (quoted : Bool) (text : Octets) : List Mark :=
  if quoted then .present :: text.toList.map (.held · true) else text.toList.map .grown

/-- A mark of the operand of an expansion.  What is not quoted there is split if the
expansion is. -/
def Mark.splittable (quoted : Bool) : Mark → Mark
  | held c false => if quoted then held c false else grown c
  | mark => mark

/-! ### Lines that are read -/

/-- The end of a line that goes into one variable whole.  A separator at its end is
left out if there is no other one in it, and blanks at its end are left out. -/
def trimRest (separators : List Char) (text : Field) : Field :=
  let isBlank (entry : Char × Bool) : Bool :=
    !entry.2 && separators.contains entry.1 && usualSeparators.contains entry.1
  let isSeparator (entry : Char × Bool) : Bool := !entry.2 && separators.contains entry.1
  let body := (text.reverse.dropWhile isBlank).reverse
  match body.reverse with
  | last :: front =>
    let front := front.dropWhile isBlank
    if isSeparator last ∧ !front.any isSeparator then front.reverse else body
  | [] => []

/-- The texts that a line gives to so many variables.  `blank` is as in
`splitMarks`. -/
def splitLine (separators : List Char) :
    (count : Nat) → (current : Field) → (blank : Bool) → Field → List Field
  | 0, _, _, _ => []
  | 1, current, blank, text =>
    let isBlank (entry : Char × Bool) : Bool :=
      !entry.2 && separators.contains entry.1 && usualSeparators.contains entry.1
    let text := if current.isEmpty then text.dropWhile isBlank else text
    let text := match text with
      | (c, quoted) :: rest =>
        if blank ∧ !quoted ∧ separators.contains c then rest.dropWhile isBlank else text
      | [] => []
    [trimRest separators (current.reverse ++ text)]
  | _, current, _, [] => if current.isEmpty then [] else [current.reverse]
  | count + 2, current, blank, (c, quoted) :: rest =>
    if quoted ∨ !separators.contains c then
      splitLine separators (count + 2) ((c, quoted) :: current) false rest
    else if usualSeparators.contains c then
      if current.isEmpty then splitLine separators (count + 2) [] blank rest
      else current.reverse :: splitLine separators (count + 1) [] true rest
    else if blank ∧ current.isEmpty then splitLine separators (count + 2) [] false rest
    else current.reverse :: splitLine separators (count + 1) [] false rest
termination_by count _ _ text => (text.length, count)

/-! ### Paths -/

/-- Whether a field has a mark of a pattern. -/
def Field.isPattern (field : Field) : Bool :=
  field.any fun (c, quoted) => !quoted && (c = '*' || c = '?' || c = '[')

/-- Whether a name in a directory is covered by a pattern.  One with a point in
front is covered only if the pattern starts with a point. -/
def Field.coversName (field : Field) (name : Octets) : Bool :=
  Glob.covers field.pattern name.toList &&
    (!name.startsWith "." || field.head?.map Prod.fst = some '.')

/-- The names of a path. -/
def Field.components (field : Field) : List Field :=
  field.foldr (fun (c, quoted) components =>
    match components with
    | first :: others => if c = '/' then [] :: components else ((c, quoted) :: first) :: others
    | [] => []) [[]]

/-- The text of a name in a pattern of which nothing is a mark: a backslash quotes
what stands behind it. -/
def Field.literal : Field → List Char
  | ('\\', false) :: (c, _) :: rest => c :: literal rest
  | (c, _) :: rest => c :: literal rest
  | [] => []

/-- The paths that are covered by the names of a pattern, with `front` in front of
them. -/
def pathsBelow : (front : Octets) → List Field → Act (List Octets)
  | front, [] => return [front]
  | front, component :: rest => do
    let link := if rest.isEmpty then "" else "/"
    if component.isPattern then
      let directory := if front = "" then "." else front
      match ← ask (.list (Octets.toText directory)) with
      | .error _ => return []
      | .ok names =>
        let names := "." :: ".." :: names.map Octets.ofText
        let covered := (names.filter component.coversName).mergeSort fun a b => a ≤ b
        covered.flatMapM fun name => pathsBelow (front ++ name ++ link) rest
    else
      let path := front ++ String.ofList component.literal
      if rest.isEmpty then
        match ← ask (.facts (Octets.toText path) false) with
        | .ok _ => return [path]
        | .error _ => return []
      else pathsBelow (path ++ link) rest

/-- The texts that a field stands for: the paths that it covers, or its own text
if it is no pattern or covers none. -/
def Field.texts (field : Field) : Act (List Octets) := do
  if field.isPattern ∧ !(← get).has 'f' then
    match ← pathsBelow "" field.components with
    | [] => return [field.text]
    | paths => return paths
  else return [field.text]

/-! ### Parameters -/

/-- The letters of the options, in the order in which they are listed. -/
def optionLetters : List Char :=
  "pubaCEVvxsnmiIfe".toList

/-- The value of a parameter. -/
def State.parameter? (state : State) (name : Octets) : Option Octets :=
  match name with
  | "0" => some state.name
  | "#" => some (toString state.args.length)
  | "?" => some (toString state.status)
  | "$" => some (toString state.process)
  | "!" => state.lastBackground.map toString
  | "-" => some (String.ofList (optionLetters.filter state.has))
  | "@" | "*" =>
    if state.args.isEmpty then none
    else
      let separator := match state.value? "IFS" with
        | some text => String.ofList (text.toList.take 1)
        | none => " "
      some (String.intercalate separator state.args)
  | _ =>
    match name.toNat? with
    | some 0 => some state.name
    | some number => state.args[number - 1]?
    | none => state.value? name

/-- The marks of all arguments of the script: quoted, each is a field of its own. -/
def argumentMarks (quoted : Bool) (args : List Octets) : List Mark :=
  ((args.map (marksOf quoted)).intersperse [if quoted then .cut else .gap]).flatten

/-- The marks of so many characters behind others.  A mark between two arguments
counts as one. -/
def keepMarks : (skipped kept : Nat) → List Mark → List Mark
  | _, _, [] => []
  | skipped, kept, .present :: rest => .present :: keepMarks skipped kept rest
  | skipped + 1, kept, _ :: rest => keepMarks skipped kept rest
  | 0, kept + 1, mark :: rest => mark :: keepMarks 0 kept rest
  | 0, 0, _ :: rest => keepMarks 0 0 rest

/-- A text without the line feeds at its end. -/
def withoutLineEnds (text : List Char) : List Char :=
  (text.reverse.dropWhile (· = '\n')).reverse

/-- The text of what a script has written; zero bytes are left out. -/
def outputText (bytes : ByteArray) : Octets :=
  String.ofList (withoutLineEnds ((Octets.charactersOf bytes).filter (· ≠ '\x00')))

end HintFuzz.Shell

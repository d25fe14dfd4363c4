import HintFuzz.Hint.Lexeme
import HintFuzz.Text.Word
import HintFuzz.Text.Utf8

/-!
# What a hint line says

Four things are recognized in the code of a line: the bracket depth that it
leaves open, its `ids.<root>(.<field>)*` reference chains, its assignment
operator and the arguments of its `pack(...)` calls.  Calls may span lines, so a
line is scanned from the depth that the lines before it left open.

Each of them is found site by site: a `Site` is a character of the code with
everything on either side of it.  Spans count UTF-8 bytes.
-/

namespace HintFuzz.Hint

/-- A stretch of a line's code, in bytes. -/
structure Span where
  start : Nat
  stop : Nat
deriving DecidableEq, Repr

/-- The bracket depth after a character.  Brackets in literals do not count, and
a closing bracket too many leaves the depth at zero. -/
def depthAfter (depth : Nat) (cell : Cell) : Nat :=
  if cell.lexeme ≠ .code then depth
  else
    match cell.char with
    | '(' | '[' | '{' => depth + 1
    | ')' | ']' | '}' => depth - 1
    | _ => depth

/-- A hint line without its comment, scanned as the continuation of lines that
left `depth` brackets open. -/
structure Line where
  depth : Nat
  cells : List Cell
deriving DecidableEq, Repr

/-- Scans a line. -/
def Line.scan (depth : Nat) (text : String) : Line :=
  ⟨depth, Hint.cells .code [] text.toList⟩

/-- The code of a line. -/
def Line.code (line : Line) : String :=
  String.ofList (line.cells.map Cell.char)

/-- The bracket depth still open at the end of a line. -/
def Line.closingDepth (line : Line) : Nat :=
  line.cells.foldl depthAfter line.depth

/-- A character of a line's code and what stands around it. -/
structure Site where
  /-- Bytes of code before the character. -/
  offset : Nat
  /-- Bracket depth before the character. -/
  depth : Nat
  /-- The code before the character, the last character first. -/
  before : List Char
  here : Cell
  /-- The code after the character. -/
  after : List Cell
deriving DecidableEq, Repr

/-- The sites of a stretch of code. -/
def sites (offset depth : Nat) (before : List Char) : List Cell → List Site
  | [] => []
  | here :: after =>
    ⟨offset, depth, before, here, after⟩ ::
      sites (offset + here.char.utf8Size) (depthAfter depth here) (here.char :: before) after

/-- The sites of a line, from left to right. -/
def Line.sites (line : Line) : List Site :=
  Hint.sites 0 line.depth [] line.cells

/-- Whether no word character stands right before a site. -/
def Site.startsWord (site : Site) : Bool :=
  match site.before with
  | [] => true
  | last :: _ => !isWord last

/-! ### Reference chains -/

/-- A reference chain: the root, the fields that follow it and where it stands. -/
structure Reference where
  root : String
  path : List String
  span : Span
deriving DecidableEq, Repr

/-- The names of the longest chain `.name.name...` at the front of a text. -/
def memberNames : List Char → List (List Char)
  | '.' :: c :: rest =>
    if isNameStart c then
      (c :: rest.takeWhile isNameChar) :: memberNames (rest.dropWhile isNameChar)
    else []
  | _ => []
termination_by text => text.length
decreasing_by
  have := (List.dropWhile_sublist (l := rest) isNameChar).length_le
  simp only [List.length_cons]
  omega

/-- The characters of a list of cells if they start with a given word: what
follows the word. -/
def afterWord? (word : List Char) (cells : List Cell) : Option (List Char) :=
  let text := cells.map Cell.char
  if word.isPrefixOf text then some (text.drop word.length) else none

/-- The reference chain that starts at a site.  It starts a word that no dot
leads to (`foo.ids.x` is an attribute of something else) and that is not in a
plain string literal, and it is as long as possible. -/
def Site.reference? (site : Site) : Option Reference :=
  if site.here.char = 'i' ∧ site.startsWord ∧ site.before.head? ≠ some '.' ∧
      site.here.lexeme ≠ .text then
    match (afterWord? "ids".toList (site.here :: site.after)).map memberNames with
    | some (root :: fields) =>
      let length := Text.width "ids".toList +
        (root :: fields).foldr (fun name total => 1 + Text.width name + total) 0
      some
        { root := String.ofList root
          path := fields.map String.ofList
          span := ⟨site.offset, site.offset + length⟩ }
    | _ => none
  else none

/-- The reference chains of a line, from left to right. -/
def Line.references (line : Line) : List Reference :=
  line.sites.filterMap Site.reference?

/-! ### The assignment operator -/

/-- Whether an assignment operator ends at a site: an equals sign of the code
outside all brackets that is no part of a comparison. -/
def Site.assigns (site : Site) : Bool :=
  site.here = ⟨'=', .code⟩ && site.depth = 0 &&
    (site.after.head?.map Cell.char) ≠ some '=' &&
    match site.before with
    | '=' :: _ | '!' :: _ => false
    | '<' :: earlier => earlier.head? = some '<'
    | '>' :: earlier => earlier.head? = some '>'
    | _ => true

/-- How many bytes of an assignment operator stand before its equals sign. -/
def operatorLead (before : List Char) : Nat :=
  match before with
  | '<' :: _ | '>' :: _ => 2
  | '/' :: earlier => if earlier.head? = some '/' then 2 else 1
  | '*' :: earlier => if earlier.head? = some '*' then 2 else 1
  | c :: _ => if "+-%&|^@:".toList.contains c then 1 else 0
  | [] => 0

/-- The assignment operator of a line, if it is an assignment.  Of several the
last one counts, so that every target stands before it. -/
def Line.operator? (line : Line) : Option Span :=
  (line.sites.filter Site.assigns).getLast?.map fun site =>
    ⟨site.offset - operatorLead site.before, site.offset + 1⟩

/-! ### Arguments of `pack` -/

/-- Where the bracket that is open before a stretch of code is closed: the
offset of the matching parenthesis, or of the end of the code if there is none.
`depth` counts the parentheses opened since. -/
def closingOffset (offset depth : Nat) : List Cell → Nat
  | [] => offset
  | cell :: rest =>
    if cell = ⟨'(', .code⟩ then closingOffset (offset + 1) (depth + 1) rest
    else if cell = ⟨')', .code⟩ then
      match depth with
      | 0 => offset
      | depth + 1 => closingOffset (offset + 1) depth rest
    else closingOffset (offset + cell.char.utf8Size) depth rest

/-- The arguments of the `pack` call whose name starts at a site of the code. -/
def Site.pack? (site : Site) : Option Span :=
  if site.here = ⟨'p', .code⟩ ∧ site.startsWord then
    match site.after with
    | ⟨'a', _⟩ :: ⟨'c', _⟩ :: ⟨'k', _⟩ :: rest =>
      let blanks := (rest.takeWhile fun cell => isBlank cell.char).map Cell.char
      match rest.drop blanks.length with
      | ⟨'(', _⟩ :: arguments =>
        let start := site.offset + 4 + Text.width blanks + 1
        some ⟨start, closingOffset start 0 arguments⟩
      | _ => none
    | _ => none
  else none

/-- The arguments of every `pack` call of a line, from left to right. -/
def Line.packs (line : Line) : List Span :=
  line.sites.filterMap Site.pack?

end HintFuzz.Hint

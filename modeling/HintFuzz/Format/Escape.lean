import HintFuzz.Format.Whole
import HintFuzz.Text.Octets

/-!
# Escapes

A backslash stands in front of a letter or of octal digits for a character that
cannot be written as easily.
-/

namespace HintFuzz.Format

/-- The octal digits at the start of a text, three at the most. -/
def octalDigits (text : List Char) : List Char :=
  (text.take 3).takeWhile fun c => '0' ≤ c && c ≤ '7'

/-- The byte that octal digits write. -/
def octalByte (digits : List Char) : Char :=
  Char.ofNat (digits.foldl (fun value c => 8 * value + (c.toNat - 48)) 0 % 256)

/-- The character that a letter behind a backslash stands for. -/
def namedEscape? (c : Char) : Option Char :=
  match c with
  | '\\' => some '\\'
  | 'a' => some '\x07'
  | 'b' => some '\x08'
  | 'e' => some '\x1b'
  | 'f' => some '\x0c'
  | 'n' => some '\n'
  | 'r' => some '\r'
  | 't' => some '\t'
  | 'v' => some '\x0b'
  | _ => none

/-- The character of an escape, from behind its backslash on, and what follows.  A
backslash in front of anything else stands for itself.  With `wide`, two digits in base
sixteen may stand behind an `x`. -/
def escape (wide : Bool) : List Char → Char × List Char
  | [] => ('\\', [])
  | c :: rest =>
    let octal := octalDigits (c :: rest)
    if !octal.isEmpty then (octalByte octal, (c :: rest).drop octal.length)
    else if wide ∧ c = 'x' ∧ (rest.head?.bind (digit? 16)).isSome then
      let digits := (rest.take 2).takeWhile fun c => (digit? 16 c).isSome
      (Char.ofNat (digitsIn 16 digits).1, rest.drop digits.length)
    else
      match namedEscape? c with
      | some named => (named, rest)
      | none => ('\\', c :: rest)

/-- The characters of a text with escapes, in which octal digits may stand behind a
zero, and whether the text says that nothing follows. -/
def unescape (wide : Bool) : (fuel : Nat) → List Char → List Char × Bool
  | 0, _ => ([], false)
  | _, [] => ([], false)
  | fuel + 1, '\\' :: rest =>
    let (c, rest, ended) : Option Char × List Char × Bool := match rest with
      | 'c' :: _ => (none, [], true)
      | '0' :: d :: more =>
        let (c, rest) := escape wide (if '0' ≤ d ∧ d ≤ '7' then d :: more else '0' :: d :: more)
        (some c, rest, false)
      | rest =>
        let (c, rest) := escape wide rest
        (some c, rest, false)
    if ended then ([], true)
    else
      let (characters, ended) := unescape wide fuel rest
      (c.toList ++ characters, ended)
  | fuel + 1, c :: rest =>
    let (characters, ended) := unescape wide fuel rest
    (c :: characters, ended)

end HintFuzz.Format

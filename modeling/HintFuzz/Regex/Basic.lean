import HintFuzz.Text.CharacterClass

/-!
# Regular expressions

What a pattern is made of: tests of single characters, conditions on the place
between two characters, and the ways of putting patterns together.
-/

namespace HintFuzz.Regex

open Text (CharacterClass)

/-- A part of a set of characters. -/
inductive SetItem
  | range (first last : Char)
  | named (kind : CharacterClass)
deriving DecidableEq

/-- A test of one character. -/
inductive CharTest
  | any
  | only (c : Char)
  | set (negated : Bool) (items : List SetItem)
deriving DecidableEq

/-- Whether an item holds a character. -/
def SetItem.holds : SetItem → Char → Bool
  | range first last, c => first ≤ c && c ≤ last
  | named kind, c => kind.holds c

/-- Whether a character passes a test; with `fold`, it may be of either case. -/
def CharTest.passes (fold : Bool) (c : Char) : CharTest → Bool
  | any => true
  | only d => c = d || (fold && c.toLower = d.toLower)
  | set negated items =>
    (items.any fun item =>
      item.holds c || (fold && (item.holds c.toLower || item.holds c.toUpper))) != negated

/-- Whether a character belongs to words. -/
def isInWord (c : Char) : Bool :=
  c.isAlphanum || c = '_'

/-- The items for the characters of words. -/
def wordItems : List SetItem :=
  [.named .alnum, .range '_' '_']

/-- A condition on the place between two characters. -/
inductive Condition
  | lineStart
  | lineEnd
  | textStart
  | textEnd
  | wordStart
  | wordEnd
  | wordEdge
  | noWordEdge
  /-- No character of a word is in front, or behind. -/
  | noWordBefore
  | noWordBehind
deriving DecidableEq

/-- Whether a condition holds between two characters.  With `lines`, the text has
several lines. -/
def Condition.holds (lines : Bool) (before behind : Option Char) : Condition → Bool
  | lineStart => before.isNone || (lines && before = some '\n')
  | lineEnd => behind.isNone || (lines && behind = some '\n')
  | textStart => before.isNone
  | textEnd => behind.isNone
  | wordStart => !before.any isInWord && behind.any isInWord
  | wordEnd => before.any isInWord && !behind.any isInWord
  | wordEdge => before.any isInWord != behind.any isInWord
  | noWordEdge => before.any isInWord == behind.any isInWord
  | noWordBefore => !before.any isInWord
  | noWordBehind => !behind.any isInWord

end Regex

/-- A regular expression. -/
inductive Regex
  | nothing
  | one (test : Regex.CharTest)
  | between (condition : Regex.Condition)
  | sequence (first second : Regex)
  | either (first second : Regex)
  | repeated (body : Regex) (least : Nat) (most : Option Nat)
  /-- What the body covers is kept under a number. -/
  | group (number : Nat) (body : Regex)
  /-- The text that the group of a number covers. -/
  | reference (number : Nat)

namespace Regex

/-- Whether a group is referred to. -/
def hasReference : Regex → Bool
  | nothing | one _ | between _ => false
  | sequence first second | either first second => first.hasReference || second.hasReference
  | repeated body _ _ | group _ body => body.hasReference
  | reference _ => true

/-- How many groups there are. -/
def groupCount : Regex → Nat
  | nothing | one _ | between _ | reference _ => 0
  | sequence first second | either first second => first.groupCount + second.groupCount
  | repeated body _ _ => body.groupCount
  | group _ body => body.groupCount + 1

end HintFuzz.Regex

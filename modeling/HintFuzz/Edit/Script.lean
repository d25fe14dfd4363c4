import HintFuzz.Regex.Search
import HintFuzz.Text.Octets

/-!
# Editing scripts

A script is a row of commands that are carried out for every line.  A command is for
all lines, for those of an address, or for the lines from one address to another.
-/

namespace HintFuzz.Edit

/-- An expression, or the one that was used last. -/
abbrev Pattern := Option Regex.Program

/-- The address of lines. -/
inductive Address
  | line (number : Nat)
  /-- Every so many lines from a first one on. -/
  | every (first step : Nat)
  | last
  | covered (pattern : Pattern)

/-- The end of a range of lines. -/
inductive Finish
  | place (address : Address)
  /-- So many lines behind the first one. -/
  | more (count : Nat)
  /-- The next line whose number is a multiple. -/
  | multiple (factor : Nat)

/-- How the case of letters changes. -/
inductive CaseChange
  | upper
  | lower
  | upperNext
  | lowerNext
  /-- Letters stay as they are from here on. -/
  | keep
deriving DecidableEq

/-- A part of a replacement. -/
inductive ReplacementPart
  | text (characters : List Char)
  | group (number : Nat)
  | change (change : CaseChange)
deriving DecidableEq

/-- What is replaced in a line, and by what. -/
structure Substitution where
  pattern : Pattern
  replacement : List ReplacementPart
  /-- All stretches from the first one on. -/
  all : Bool
  /-- The number of the first stretch. -/
  first : Nat
  prints : Bool
  /-- A file that changed lines are written to. -/
  path : Option Octets

/-- When a branch is taken. -/
inductive BranchCondition
  | always
  /-- If something was replaced since the line was read or such a branch was taken. -/
  | replaced
  | notReplaced
deriving DecidableEq

/-- What a command does. -/
inductive Action
  | nothing
  /-- Starts a block that ends in front of the command of a number. -/
  | block (finish : Nat)
  | append (text : List Char)
  | insert (text : List Char)
  | change (text : List Char)
  | branch (condition : BranchCondition) (label : Octets)
  | delete
  | deleteFirst
  | print
  | printFirst
  | next
  | appendNext
  | get
  | getAppend
  | hold
  | holdAppend
  | exchange
  | clear
  | list (width : Option Nat)
  | number
  | fileName
  | quit (status : Nat)
  | quitSilently (status : Nat)
  | readFile (path : Octets)
  | readLine (path : Octets)
  | write (path : Octets)
  | writeFirst (path : Octets)
  | substitute (substitution : Substitution)
  | exchangeCharacters (pairs : List (Char × Char))

/-- A command with the lines that it is for. -/
structure Command where
  start : Option Address
  finish : Option Finish
  /-- The command is for all other lines. -/
  negated : Bool
  action : Action

/-- A script with the places of its labels. -/
structure Script where
  commands : Array Command
  labels : List (Octets × Nat)
  /-- Lines are not printed unless a command says so. -/
  silent : Bool

end HintFuzz.Edit

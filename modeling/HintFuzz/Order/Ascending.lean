/-!
# Ascending lists

A finite set is written as the list of its elements in strictly ascending
order.  `List.ascending` sorts a list and drops repetitions; it is the one
normal form in which roots, field paths, arities and declared structs are
listed.
-/

namespace HintFuzz

variable {α : Type} [LT α] [DecidableLT α]

/-- Puts `x` at its place in an ascending list, unless it stands there already. -/
def insertAscending (x : α) : List α → List α
  | [] => [x]
  | y :: rest =>
    if x < y then x :: y :: rest
    else if y < x then y :: insertAscending x rest
    else y :: rest

/-- The elements of a list in strictly ascending order, each once. -/
def ascending (xs : List α) : List α :=
  xs.foldr insertAscending []

end HintFuzz

import HintFuzz.Values.Law

/-!
# Values for placeholders

Every placeholder of a program is given one value, drawn from the usual table
in the order of the placeholders.
-/

namespace HintFuzz

/-- The number of a placeholder: a slot of a program that a value fills. -/
abbrev PlaceholderId := Nat

/-- A value given to a placeholder. -/
structure Assigned where
  placeholder : PlaceholderId
  value : Nat
deriving DecidableEq, Repr

namespace Values

/-- One value of the usual table. -/
def drawUsual (stream : Random.Stream) : Nat × Random.Stream :=
  match draw usualTable stream with
  | .ok (drawn, stream) => (drawn.value, stream)
  -- The usual table has weight and no empty range, so every draw succeeds.
  | .error _ => (0, stream)

/-- One value for each placeholder, in the given order. -/
def assign : List PlaceholderId → Random.Stream → List Assigned
  | [], _ => []
  | placeholder :: rest, stream =>
    let (value, stream) := drawUsual stream
    ⟨placeholder, value⟩ :: assign rest stream

end Values

/-- The value that a list gives to a placeholder; the last one given counts. -/
def valueOf? (values : List Assigned) (placeholder : PlaceholderId) : Option Nat :=
  (values.reverse.find? fun assigned => assigned.placeholder = placeholder).map Assigned.value

end HintFuzz

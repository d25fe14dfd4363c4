import HintFuzz.Hint.Signature
import HintFuzz.Random.Stream
import HintFuzz.Text.Lines

/-!
# Hint catalogs

An ordered set of hints.  The number of a hint is the number of those before it, so numbers are
stable and every number below the size names a hint.
-/

namespace HintFuzz

/-- The hints of a catalog, in order and numbered from 0. -/
structure Catalog where
  entries : List Hint
  numbered : entries.map Hint.id = List.range entries.length
deriving DecidableEq, Repr

namespace Catalog

/-- How many hints a catalog has. -/
def size (catalog : Catalog) : Nat :=
  catalog.entries.length

/-- The lines of all hints, in order. -/
def hints (catalog : Catalog) : List (List String) :=
  catalog.entries.map Hint.lines

/-- The catalog without hints. -/
def empty : Catalog where
  entries := []
  numbered := rfl

/-- A catalog with one hint more, which is numbered by how many there were. -/
def push (catalog : Catalog) (lines : List String) : Catalog where
  entries := catalog.entries ++ [⟨catalog.size, lines⟩]
  numbered := by
    rw [List.map_append, catalog.numbered, List.length_append]
    exact List.range_succ.symm

/-- The catalog of some hints, enumerated. -/
def ofHints (hints : List (List String)) : Catalog where
  entries := hints.zipIdx.map fun (lines, id) => ⟨id, lines⟩
  numbered := by
    rw [List.length_map, List.length_zipIdx, List.map_map, List.range_eq_range',
      ← List.zipIdx_map_snd]
    rfl

/-- A catalog of snippets held in memory. -/
def ofSnippets (snippets : List String) : Catalog :=
  .ofHints (snippets.map Text.lines)

/-- The hint with a given number. -/
def get? (catalog : Catalog) (id : HintId) : Option Hint :=
  catalog.entries[id]?

/-- The number of a hint drawn uniformly.  Nothing is drawn from an empty
catalog. -/
def select (catalog : Catalog) (stream : Random.Stream) : Option HintId × Random.Stream :=
  if catalog.size = 0 then (none, stream)
  else
    let (index, stream) := Random.uniform 2 0 (catalog.size - 1) stream
    ((catalog.get? index).map Hint.id, stream)

end Catalog

end HintFuzz

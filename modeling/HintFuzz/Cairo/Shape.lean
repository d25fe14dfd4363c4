import HintFuzz.Cairo.Types
import HintFuzz.Hint.Signature

/-!
# From accesses to types

The fields by which a hint reaches into a root decide the root's type.
-/

namespace HintFuzz.Cairo

/-- What the accesses of a root say about its type. -/
inductive Shape
  /-- A felt or a struct of the vocabulary.  The type is `exact` unless the
  accessed fields cannot be honoured. -/
  | known (type : CairoType) (exact : Bool)
  /-- Fields of one level that no struct of the vocabulary has. -/
  | generated (members : List String)
  | unresolvable (detail : String)
deriving DecidableEq, Repr

/-- Whether all fields are among the allowed ones. -/
def within (fields allowed : List String) : Bool :=
  fields.all allowed.contains

/-- The shape of a root that is accessed one level down, through `fields`. -/
def flatShape (packed : Bool) (fields : List String) : Shape :=
  if within fields limbs then .known (.known .bigInt3) true
  else if packed then
    -- Only big integers can be packed, so the accessed fields are given up.
    .known (.known .bigInt3) false
  else if within fields halves then .known (.known .uint256) true
  else if within fields coordinates then .known (.known .ecPoint) true
  else .generated fields

/-- The shape of a root that is accessed two levels down, through `outer` fields
and their `inner` fields. -/
def nestedShape (outer inner : List String) : Shape :=
  if within outer coordinates && within inner limbs then .known (.known .secpPoint) true
  else
    .unresolvable
      ("nested fields " ++ Text.quotedSet outer ++ "." ++ Text.quotedSet inner ++
        " match no known struct")

end HintFuzz.Cairo

namespace HintFuzz

open Cairo

/-- The shape of a root. -/
def RootVariable.shape (root : RootVariable) : Shape :=
  let fieldsAt (level : Nat) := ascending (root.paths.filterMap fun path => path[level]?)
  match root.arity with
  | 0 => .known (if root.packed then .known .bigInt3 else .felt) true
  | 1 => flatShape root.packed (fieldsAt 0)
  | 2 => nestedShape (fieldsAt 0) (fieldsAt 1)
  | depth => .unresolvable s!"field paths of depth {depth} are not supported"

end HintFuzz

/-!
# Types of a wrapper program

The vocabulary of Cairo structs that hints are known to use, and structs
declared for one program only.  Every struct is at most two levels deep: its
leaves are felts.
-/

namespace HintFuzz.Cairo

/-- The limbs of a big integer. -/
def limbs : List String := ["d0", "d1", "d2"]

/-- The halves of a 256-bit integer. -/
def halves : List String := ["low", "high"]

/-- The coordinates of a point. -/
def coordinates : List String := ["x", "y"]

/-- The structs with fixed members. -/
inductive Known
  /-- `d0`, `d1` and `d2`, all felts. -/
  | bigInt3
  /-- `low` and `high`, both felts. -/
  | uint256
  /-- `x` and `y`, both felts. -/
  | ecPoint
  /-- `x` and `y`, both big integers. -/
  | secpPoint
deriving DecidableEq, Repr

/-- The vocabulary in declaration order: no struct comes before one that it
is made of. -/
def Known.all : List Known := [.bigInt3, .uint256, .ecPoint, .secpPoint]

/-- The name under which a struct is declared. -/
def Known.name : Known → String
  | bigInt3 => "BigInt3"
  | uint256 => "Uint256"
  | ecPoint => "EcPoint"
  | secpPoint => "SecpPoint"

/-- The type of a variable. -/
inductive CairoType
  | felt
  | known (struct : Known)
  /-- A struct of felts, declared for one program. -/
  | generated (name : String) (members : List String)
deriving DecidableEq, Repr

namespace CairoType

/-- The name of a type in program text. -/
def name : CairoType → String
  | felt => "felt"
  | known struct => struct.name
  | generated name _ => name

/-- The members of a struct in declaration order; a felt has none. -/
def members : CairoType → List (String × CairoType)
  | felt => []
  | known .bigInt3 => limbs.map (·, felt)
  | known .uint256 => halves.map (·, felt)
  | known .ecPoint => coordinates.map (·, felt)
  | known .secpPoint => coordinates.map (·, known .bigInt3)
  | generated _ members => members.map (·, felt)

/-- The field paths that lead to the felts of a value, in declaration order. -/
def leaves : CairoType → List (List String)
  | felt => [[]]
  | known .secpPoint =>
    coordinates.flatMap fun coordinate => limbs.map fun limb => [coordinate, limb]
  | type => type.members.map fun member => [member.1]

/-- How many felts a value takes. -/
def leafCount (type : CairoType) : Nat :=
  type.leaves.length

/-- The place of a type in the declaration order: felts, the vocabulary, then
generated structs. -/
def rank : CairoType → Nat
  | felt => 0
  | known .bigInt3 => 1
  | known .uint256 => 2
  | known .ecPoint => 3
  | known .secpPoint => 4
  | generated _ _ => 5

/-- Whether a type is declared before another one: by rank, and generated
structs by name and then by members. -/
def declaredBefore (left right : CairoType) : Bool :=
  match left, right with
  | generated name members, generated name' members' =>
    name < name' || (name = name' && members < members')
  | _, _ => left.rank < right.rank

instance : LT CairoType := ⟨fun left right => left.declaredBefore right = true⟩

instance : DecidableLT CairoType := fun left right =>
  inferInstanceAs (Decidable (left.declaredBefore right = true))

end CairoType

end HintFuzz.Cairo

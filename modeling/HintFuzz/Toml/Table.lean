import HintFuzz.Toml.Basic

/-!
# Building tables

A document speaks of its tables in pieces: under headers, and with keys that
have points in them.  A table remembers how it came about, since a table that a
header has defined cannot be defined again, and one that keys with points made
cannot be given a header.
-/

namespace HintFuzz.Toml

/-- How a table came about. -/
inductive Origin
  /-- It stands on the way to a table with a header. -/
  | implied
  /-- A key with points made it. -/
  | dotted
  /-- It has a header of its own. -/
  | defined
deriving DecidableEq, Repr

/-- What stands under a name while a document is read. -/
inductive Entry
  | leaf (value : Toml)
  | table (origin : Origin) (members : List (String × Entry))
  /-- Tables under one header in double brackets; the last one is open. -/
  | series (elements : List (List (String × Entry)))
deriving Repr

namespace Entry

/-- What stands under a name. -/
def find? (members : List (String × Entry)) (name : String) : Option Entry :=
  (members.find? fun member => member.1 = name).map Prod.snd

/-- The members with another entry under a name, at its place or at the end. -/
def set (members : List (String × Entry)) (name : String) (entry : Entry) :
    List (String × Entry) :=
  if (find? members name).isSome then
    members.map fun member => if member.1 = name then (name, entry) else member
  else members ++ [(name, entry)]

/-- Changes the table that a path leads to, given the origin of that table.
Tables that are missing on the way are made with the origin `fresh`.  Keys with
points do not lead through tables that have a header. -/
def alter (fresh : Origin) (change : Origin → List (String × Entry) →
    Option (List (String × Entry))) :
    (path : List String) → Origin → List (String × Entry) → Option (List (String × Entry))
  | [], origin, members => change origin members
  | name :: path, _, members =>
    match find? members name with
    | none => do
      return set members name (.table fresh (← alter fresh change path fresh []))
    | some (.leaf _) => none
    | some (.table origin inner) => do
      if fresh = .dotted ∧ origin = .defined then none
      else return set members name (.table origin (← alter fresh change path origin inner))
    | some (.series elements) =>
      match elements.getLast? with
      | none => none
      | some last => do
        let last ← alter fresh change path .defined last
        return set members name (.series (elements.dropLast ++ [last]))

/-- The last name of a path and the way to it. -/
def splitPath? (path : List String) : Option (List String × String) :=
  path.getLast?.map fun name => (path.dropLast, name)

/-- The members of a document with a new table under a header. -/
def openTable (document : List (String × Entry)) (header : List String) :
    Option (List (String × Entry)) := do
  let (path, name) ← splitPath? header
  alter .implied (fun _ members =>
    match find? members name with
    | none => some (set members name (.table .defined []))
    | some (.table .implied inner) => some (set members name (.table .defined inner))
    | some _ => none) path .defined document

/-- The members of a document with a new table in the series under a header. -/
def openSeries (document : List (String × Entry)) (header : List String) :
    Option (List (String × Entry)) := do
  let (path, name) ← splitPath? header
  alter .implied (fun _ members =>
    match find? members name with
    | none => some (set members name (.series [[]]))
    | some (.series elements) => some (set members name (.series (elements ++ [[]])))
    | some _ => none) path .defined document

/-- The members of a table with a value under a key, which stands nowhere yet. -/
def assign (key : List String) (value : Toml) (members : List (String × Entry)) :
    Option (List (String × Entry)) := do
  let (path, name) ← splitPath? key
  alter .dotted (fun origin members =>
    if (origin = .dotted ∧ path = []) ∨ (origin ≠ .dotted ∧ path ≠ []) then none
    else if (find? members name).isSome then none
    else some (set members name (.leaf value))) path .defined members

/-- The members of a document with a value under a key of the table with the
given header. -/
def assignUnder (document : List (String × Entry)) (header key : List String) (value : Toml) :
    Option (List (String × Entry)) :=
  alter .implied (fun _ members => assign key value members) header .defined document

mutual

/-- The value of an entry. -/
def value : Entry → Toml
  | leaf value => value
  | table _ members => .table (memberValues members)
  | series elements => .array (elementValues elements)

/-- The values under all names. -/
def memberValues : List (String × Entry) → List (String × Toml)
  | [] => []
  | (name, entry) :: rest => (name, entry.value) :: memberValues rest

/-- The tables of a series. -/
def elementValues : List (List (String × Entry)) → List Toml
  | [] => []
  | members :: rest => .table (memberValues members) :: elementValues rest

end

end Entry

end HintFuzz.Toml

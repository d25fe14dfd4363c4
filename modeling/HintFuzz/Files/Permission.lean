/-!
# Permissions in words

Permissions are written as octal digits or as clauses: for whom, whether they are
added, taken away or set, and which ones.
-/

namespace HintFuzz.Files

/-- What a clause does with permissions. -/
inductive PermissionChange
  | add
  | remove
  | replace
deriving DecidableEq

/-- One step of a clause. -/
structure PermissionStep where
  /-- All bits of those that are meant: users in the first place, others in the last
  one. -/
  users : List Char
  change : PermissionChange
  permissions : List Char
deriving DecidableEq

/-- How permissions are changed. -/
inductive PermissionSpec
  | exactly (mode : Nat)
  | steps (steps : List PermissionStep)
deriving DecidableEq

namespace PermissionSpec

/-- The steps of a clause behind those that are meant by it. -/
def stepsOf (users : List Char) : (fuel : Nat) → List Char → Option (List PermissionStep)
  | _, [] => some []
  | 0, _ :: _ => none
  | fuel + 1, c :: rest =>
    let change? : Option PermissionChange := match c with
      | '+' => some .add
      | '-' => some .remove
      | '=' => some .replace
      | _ => none
    match change? with
    | none => none
    | some change =>
      let isPermission (c : Char) : Bool := "rwxXstugo".toList.contains c
      let permissions := rest.takeWhile isPermission
      (stepsOf users fuel (rest.drop permissions.length)).map
        fun steps => ⟨users, change, permissions⟩ :: steps

/-- The steps of a clause. -/
def clause? (text : List Char) : Option (List PermissionStep) :=
  let isUser (c : Char) : Bool := "ugoa".toList.contains c
  let users := text.takeWhile isUser
  let rest := text.drop users.length
  if rest.isEmpty then none else stepsOf users rest.length rest

/-- The clauses of a text. -/
def clauses (text : List Char) : List (List Char) :=
  text.foldr (fun c clauses =>
    match clauses with
    | first :: others => if c = ',' then [] :: clauses else (c :: first) :: others
    | [] => []) [[]]

/-- How a text says that permissions are changed. -/
def ofText? (text : String) : Option PermissionSpec :=
  let characters := text.toList
  if !characters.isEmpty ∧ characters.all fun c => '0' ≤ c && c ≤ '7' then
    let mode := characters.foldl (fun mode c => 8 * mode + (c.toNat - 48)) 0
    if mode ≤ 0o7777 then some (exactly mode) else none
  else ((clauses characters).mapM clause?).map fun steps => .steps steps.flatten

/-- The bits of a permission for all users. -/
def bits (mode : Nat) (isDirectory : Bool) (permission : Char) : Nat :=
  let spread (part : Nat) : Nat := part ||| part <<< 3 ||| part <<< 6
  match permission with
  | 'r' => 0o444
  | 'w' => 0o222
  | 'x' => 0o111
  | 'X' => if isDirectory || mode &&& 0o111 ≠ 0 then 0o111 else 0
  | 's' => 0o6000
  | 't' => 0o1000
  | 'u' => spread (mode >>> 6 &&& 7)
  | 'g' => spread (mode >>> 3 &&& 7)
  | 'o' => spread (mode &&& 7)
  | _ => 0

/-- The bits that belong to users. -/
def usersMask (users : List Char) : Nat :=
  users.foldl (fun mask user => mask ||| match user with
    | 'u' => 0o4700
    | 'g' => 0o2070
    | 'o' => 0o1007
    | _ => 0o7777) 0

/-- The permissions after one step.  A step that names no users means all of them,
but leaves alone what is masked. -/
def applyStep (step : PermissionStep) (masked mode : Nat) (isDirectory : Bool) : Nat :=
  let given := step.permissions.foldl (fun value c => value ||| bits mode isDirectory c) 0
  let affected :=
    if step.users.isEmpty then 0o7777 - (masked &&& 0o7777) else usersMask step.users
  let given := given &&& affected
  match step.change with
  | .add => mode ||| given
  | .remove => mode - (mode &&& given)
  | .replace =>
    let kept := if isDirectory then mode &&& 0o6000 else 0
    let cleared := if step.users.isEmpty then 0o7777 else affected
    (mode - (mode &&& cleared)) ||| given ||| (kept &&& cleared)

/-- The permissions after a change, given what is masked. -/
def apply (spec : PermissionSpec) (masked mode : Nat) (isDirectory : Bool) : Nat :=
  match spec with
  | exactly mode => mode
  | steps list => list.foldl (fun mode step => applyStep step masked mode isDirectory) mode

/-- The letters of three bits. -/
def triple (bits : Nat) : String :=
  (if bits &&& 4 ≠ 0 then "r" else "") ++ (if bits &&& 2 ≠ 0 then "w" else "") ++
    (if bits &&& 1 ≠ 0 then "x" else "")

/-- Three bits of a mode as letters.  `special` tells whether the bit that changes the
last letter is set, and `mark` which letter that is. -/
def letters (bits : Nat) (special : Bool) (mark : Char) : List Char :=
  [if bits &&& 4 ≠ 0 then 'r' else '-', if bits &&& 2 ≠ 0 then 'w' else '-',
   match special, (bits &&& 1 ≠ 0 : Bool) with
   | false, false => '-'
   | false, true => 'x'
   | true, false => mark.toUpper
   | true, true => mark]

/-- A mode as nine letters. -/
def modeLetters (mode : Nat) : List Char :=
  letters (mode >>> 6 &&& 7) (mode &&& 0o4000 ≠ 0) 's' ++
    letters (mode >>> 3 &&& 7) (mode &&& 0o2000 ≠ 0) 's' ++
    letters (mode &&& 7) (mode &&& 0o1000 ≠ 0) 't'

/-- What a mask leaves, as clauses. -/
def describeMask (mask : Nat) : String :=
  let left := 0o777 - (mask &&& 0o777)
  "u=" ++ triple (left >>> 6 &&& 7) ++ ",g=" ++ triple (left >>> 3 &&& 7) ++ ",o=" ++
    triple (left &&& 7)

end PermissionSpec

end HintFuzz.Files

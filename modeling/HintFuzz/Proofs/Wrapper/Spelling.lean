import HintFuzz.Proofs.Cairo.Spelling
import HintFuzz.Proofs.Wrapper.Types

/-!
# Spelling of wrapper programs

A wrapper program is a front and the function that holds the hint: its opening, the hint's
block and two lines more (`lines_hintHolder`).  Everything but the lines of the hint is
spelled in the characters of programs, since all names come from the scanner, from the
vocabulary or from the numbering of structs.
-/

namespace HintFuzz.Wrapper

open Cairo Layout

/-! ### Names of types -/

/-- A type whose name and member names are names. -/
structure NamedType (type : CairoType) : Prop where
  name : IsName type.name
  members : ∀ member ∈ type.members, IsName member.1 ∧ IsName member.2.name

private theorem namedType_known (struct : Known) : NamedType (.known struct) := by
  cases struct <;> exact ⟨by decide, by decide⟩

private theorem namedType_felt : NamedType .felt :=
  ⟨by decide, nofun⟩

private theorem namedType_generated {members : List String} (index : Nat)
    (each : ∀ member ∈ members, IsName member) :
    NamedType (.generated (generatedName index) members) := by
  refine ⟨IsName.append (by decide) (isName_decimal index), ?_⟩
  intro member found
  obtain ⟨name, nameMember, rfl⟩ := List.mem_map.mp found
  exact ⟨each name nameMember, namedType_felt.name⟩

/-- A root whose name, and the names of whose type, are names. -/
structure TypedRoot.Named (typed : TypedRoot) : Prop where
  name : IsName typed.root.name
  type : NamedType typed.type

/-- The roots of a signature have types with names. -/
theorem named_of_mem_typedRoots {roots : List RootVariable} (named : ∀ root ∈ roots, root.Named) :
    ∀ typed ∈ typedRoots roots, typed.Named := by
  intro typed member
  obtain ⟨root, rootMember, rfl⟩ := List.mem_map.mp member
  refine ⟨(named root rootMember).name, ?_⟩
  change NamedType (typeOf (generatedMembers roots) root)
  unfold typeOf
  rcases root.shape_cases with ⟨_, shape⟩ | ⟨_, _, shape⟩ | shape | ⟨_, shape⟩
  · rw [shape]
    exact namedType_felt
  · rw [shape]
    exact namedType_known _
  · rw [shape]
    refine namedType_generated _ fun field fieldMember => ?_
    obtain ⟨path, pathMember, found⟩ :=
      RootVariable.exists_path_of_shape_generated shape fieldMember
    exact (named root rootMember).path path pathMember field found
  · rw [shape]
    exact namedType_felt

variable {typed inputs outputs : List TypedRoot} {lines : List String}

/-- What a program declares has names. -/
theorem namedType_of_mem_structTypes (named : ∀ root ∈ typed, root.Named) {type : CairoType}
    (member : type ∈ structTypes (typed.map TypedRoot.type)) : NamedType type := by
  rcases mem_structTypes.mp member with ⟨used, _⟩ | ⟨rfl, _⟩
  · obtain ⟨root, found, rfl⟩ := List.mem_map.mp used
    exact (named root found).type
  · exact namedType_known .bigInt3

/-! ### Spelling -/

private theorem isSpelled_structDef {type : CairoType} (named : NamedType type) :
    ∀ line ∈ (structDef type).lines, IsSpelled line := by
  have name := spelled_of_isName named.name
  refine StructDef.forall_mem_lines ?_ ?_ (isSpelled_plain (by decide))
  · exact isSpelled_plain ((Spelled.append (by decide) name).append (by decide))
  · intro field found
    obtain ⟨member, memberFound, rfl⟩ := List.mem_map.mp found
    obtain ⟨name, type⟩ := named.members member memberFound
    have text : Spelled (member.1 ++ ": " ++ member.2.name) :=
      ((spelled_of_isName name).append (by decide)).append (spelled_of_isName type)
    exact .indented (.plain_cons text (isSpelled_plain (by decide)))

private theorem isSpelled_flatValue {name : String} {members : List String} (named : IsName name)
    (each : ∀ member ∈ members, IsName member) (first : PlaceholderId) :
    IsSpelled (flatValue name members first).layout := by
  refine Expr.isSpelled_construct named fun field member => ?_
  obtain ⟨⟨memberName, id⟩, found, rfl⟩ := List.mem_map.mp member
  exact ⟨each memberName (List.fst_mem_of_mem_zipIdx found), isSpelled_slot id⟩

private theorem isSpelled_inputValue {type : CairoType} (named : NamedType type)
    (first : PlaceholderId) :
    IsSpelled (inputValue first type).layout := by
  have flat : ∀ type, NamedType type →
      IsSpelled (flatValue type.name (type.members.map Prod.fst) first).layout := by
    intro type named
    refine isSpelled_flatValue named.name (fun name member => ?_) first
    obtain ⟨typeMember, found, rfl⟩ := List.mem_map.mp member
    exact (named.members typeMember found).1
  match type with
  | .felt => exact isSpelled_slot first
  | .known .bigInt3 => exact flat (.known .bigInt3) named
  | .known .uint256 => exact flat (.known .uint256) named
  | .known .ecPoint => exact flat (.known .ecPoint) named
  | .known .secpPoint =>
      refine Expr.isSpelled_construct named.name fun field member => ?_
      obtain ⟨⟨coordinate, number⟩, found, rfl⟩ := List.mem_map.mp member
      refine ⟨?_, isSpelled_flatValue (by decide) (by decide) _⟩
      have names : ∀ name ∈ coordinates, IsName name := by decide
      exact names coordinate (List.fst_mem_of_mem_zipIdx found)
  | .generated name members => exact flat (.generated name members) named

private theorem isSpelled_bindInputs (named : ∀ root ∈ inputs, root.Named) (first : PlaceholderId) :
    ∀ statement ∈ bindInputs first inputs, ∀ line ∈ statement.lines, IsSpelled line := by
  induction inputs generalizing first with
  | nil => exact nofun
  | cons input rest ih =>
      intro statement member
      rcases List.mem_cons.mp member with rfl | later
      · intro line found
        cases List.mem_singleton.mp found
        have this := named input List.mem_cons_self
        have name := spelled_of_isName this.name
        exact .indented (.between ((Spelled.append (by decide) name).append (by decide))
          (isSpelled_inputValue this.type first) (by decide))
      · exact ih (fun root member => named root (List.mem_cons_of_mem _ member)) _ statement later

private theorem isName_of_mem_names (named : ∀ root ∈ typed, root.Named) :
    ∀ name ∈ typed.map fun root => root.root.name, IsName name := by
  intro name member
  obtain ⟨root, found, rfl⟩ := List.mem_map.mp member
  exact (named root found).name

/-- The names of roots are spelled wherever they are listed. -/
theorem isSpelled_roots (named : ∀ root ∈ typed, root.Named) :
    ∀ layout ∈ Expr.layouts (typed.map fun root => .ident root.root.name), IsSpelled layout := by
  have spelled := Expr.isSpelled_idents (isName_of_mem_names named)
  rwa [List.map_map] at spelled

private theorem isSpelled_callHint (inputsNamed : ∀ root ∈ inputs, root.Named)
    (outputsNamed : ∀ root ∈ outputs, root.Named) :
    ∀ line ∈ (callHint inputs outputs).lines, IsSpelled line := by
  have call : IsSpelled
      (Expr.call hintFunction (inputs.map fun input => .ident input.root.name)).layout := by
    rw [Expr.layout]
    exact .between (by decide) (isSpelled_commaSeparated (isSpelled_roots inputsNamed)) (by decide)
  have binds {target : Pattern} (name : Spelled target.text) : IsSpelled
      (indented (between ("let " ++ target.text ++ " = ")
        (Expr.call hintFunction (inputs.map fun input => .ident input.root.name)).layout ";")) :=
    .indented (.between ((Spelled.append (by decide) name).append (by decide)) call (by decide))
  intro line member
  unfold callHint at member
  match outputs with
  | [] =>
      cases List.mem_singleton.mp member
      exact .indented (.between (by decide) call (by decide))
  | [output] =>
      cases List.mem_singleton.mp member
      exact binds (spelled_of_isName (outputsNamed output List.mem_cons_self).name)
  | first :: second :: rest =>
      cases List.mem_singleton.mp member
      refine binds ((Spelled.append (by decide) (spelled_commaSeparated ?_)).append (by decide))
      intro name found
      exact spelled_of_isName (isName_of_mem_names outputsNamed name found)

/-! ### The two parts of a program -/

/-- The lines of a program before the function that holds the hint. -/
def frontLines (structs : List CairoType) (inputs outputs : List TypedRoot) : List Layout :=
  structs.flatMap (fun type => (structDef type).lines ++ [[]]) ++ (entry inputs outputs).lines ++ [[]]

/-- The lines of the function that holds the hint, before the hint's block. -/
def openingLines (inputs outputs : List TypedRoot) : List Layout :=
  [[.plain (hintHolder [] inputs outputs).headLine]] ++ Statement.allocLocals.lines ++
    outputs.flatMap fun output => (Statement.localVar output.root.name output.type.name).lines

/-- The lines of that function after the hint's lines. -/
def closingLines (outputs : List TypedRoot) : List Layout :=
  [indented [.plain "%\x7d"],
    indented (between "return "
      (Layout.tupled (Expr.layouts (outputs.map fun output => .ident output.root.name))) ";"),
    [.plain "\x7d"]]

/-- The line that opens the hint's block. -/
def blockLine : Layout :=
  indented [.plain "%\x7b"]

/-- The function around a hint opens, has the hint as a block and closes. -/
theorem lines_hintHolder (lines : List String) (inputs outputs : List TypedRoot) :
    (hintHolder lines inputs outputs).lines =
      openingLines inputs outputs ++
        blockLine :: ((lines.map fun line => [.plain line]) ++ closingLines outputs) := by
  have head : (hintHolder lines inputs outputs).headLine = (hintHolder [] inputs outputs).headLine :=
    rfl
  rw [Function.lines, head]
  simp only [hintHolder, List.cons_append, List.flatMap_cons, List.flatMap_append, List.flatMap_map,
    openingLines, closingLines, Statement.lines, List.append_assoc, List.flatMap_nil]
  rfl

/-- All lines in front of that function are spelled. -/
theorem isSpelled_front {structs : List CairoType} (structsNamed : ∀ type ∈ structs, NamedType type)
    (inputsNamed : ∀ root ∈ inputs, root.Named) (outputsNamed : ∀ root ∈ outputs, root.Named) :
    ∀ line ∈ frontLines structs inputs outputs, IsSpelled line := by
  have empty : ∀ line ∈ [([] : Layout)], IsSpelled line := by
    intro line member
    cases List.mem_singleton.mp member
    exact isSpelled_nil
  have body : ∀ statement ∈ (entry inputs outputs).body, ∀ line ∈ statement.lines,
      IsSpelled line := by
    intro statement member
    rcases List.mem_append.mp member with binding | later
    · exact isSpelled_bindInputs inputsNamed 0 statement binding
    · rcases List.mem_cons.mp later with rfl | last
      · exact isSpelled_callHint inputsNamed outputsNamed
      · cases List.mem_singleton.mp last
        intro line found
        cases List.mem_singleton.mp found
        exact .indented (.between (by decide) (isSpelled_tupled nofun) (by decide))
  have first : Spelled (entry [] []).headLine := by decide
  have main : ∀ line ∈ (entry inputs outputs).lines, IsSpelled line :=
    Function.forall_mem_lines (isSpelled_plain first) body
      (isSpelled_plain (by decide))
  intro line member
  rcases List.mem_append.mp member with early | last
  · rcases List.mem_append.mp early with declared | own
    · obtain ⟨type, typeMember, found⟩ := List.mem_flatMap.mp declared
      rcases List.mem_append.mp found with struct | separator
      · exact isSpelled_structDef (structsNamed type typeMember) line struct
      · exact empty line separator
    · exact main line own
  · exact empty line last

private theorem spelled_headLine (inputsNamed : ∀ root ∈ inputs, root.Named)
    (outputsNamed : ∀ root ∈ outputs, root.Named) :
    Spelled (hintHolder lines inputs outputs).headLine := by
  have params : Spelled (Text.commaSeparated
      ((hintHolder lines inputs outputs).params.map fun param => param.name ++ ": " ++ param.type)) := by
    refine spelled_commaSeparated fun text member => ?_
    obtain ⟨param, found, rfl⟩ := List.mem_map.mp member
    obtain ⟨input, inputMember, rfl⟩ := List.mem_map.mp found
    have named := inputsNamed input inputMember
    exact ((spelled_of_isName named.name).append (by decide)).append
      (spelled_of_isName named.type.name)
  have types : ∀ type ∈ (hintHolder lines inputs outputs).returns, Spelled type := by
    intro type member
    obtain ⟨output, found, rfl⟩ := List.mem_map.mp member
    exact spelled_of_isName (outputsNamed output found).type.name
  have start : Spelled ("func " ++ hintFunction ++ "(") := by decide
  unfold Function.headLine
  refine Spelled.append (.append (.append (.append start params) (by decide)) ?_) (by decide)
  split
  · decide
  · exact Spelled.append (by decide) (spelled_tupled types)

/-- So are its lines before the block. -/
theorem isSpelled_opening (inputsNamed : ∀ root ∈ inputs, root.Named)
    (outputsNamed : ∀ root ∈ outputs, root.Named) :
    ∀ line ∈ openingLines inputs outputs, IsSpelled line := by
  intro line member
  rcases List.mem_append.mp member with early | declared
  · rcases List.mem_append.mp early with head | alloc
    · cases List.mem_singleton.mp head
      exact isSpelled_plain (spelled_headLine inputsNamed outputsNamed)
    · cases List.mem_singleton.mp alloc
      exact .indented (.plain_cons (by decide) (isSpelled_plain (by decide)))
  · obtain ⟨output, outputMember, found⟩ := List.mem_flatMap.mp declared
    cases List.mem_singleton.mp found
    have named := outputsNamed output outputMember
    have text : Spelled ("local " ++ output.root.name ++ ": " ++ output.type.name) :=
      ((Spelled.append (by decide) (spelled_of_isName named.name)).append (by decide)).append
        (spelled_of_isName named.type.name)
    exact .indented (.plain_cons text (isSpelled_plain (by decide)))

/-- So are its lines behind the block. -/
theorem isSpelled_results (outputsNamed : ∀ root ∈ outputs, root.Named) :
    ∀ line ∈ (closingLines outputs).tail, IsSpelled line := by
  intro line member
  rcases List.mem_cons.mp member with rfl | last
  · exact .indented (.between (by decide) (isSpelled_tupled (isSpelled_roots outputsNamed)) (by decide))
  · cases List.mem_singleton.mp last
    exact isSpelled_plain (by decide)

end HintFuzz.Wrapper

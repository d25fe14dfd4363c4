import HintFuzz.Proofs.Cairo.Shape
import HintFuzz.Proofs.Hint.Signature
import HintFuzz.Proofs.Trial.Plan
import HintFuzz.Proofs.Wrapper.Types
import Mathlib.Data.List.Nodup

/-!
# Programs that fit their hint

A program fits a reference of its hint if the type that it declares for the root is no
struct of its own making and the fields lead to a felt of it (`Cairo.Program.Fits`).  This
is said of the program alone: of its parameters, its locals and its structs.  A wrapper is
exact if its program fits every reference of the hint, and only then
(`Hint.exact_iff_fits`).
-/

namespace HintFuzz.Cairo

/-- From a value of a type, fields lead to a felt: from member to member, through the structs
that are declared. -/
def LeadsToFelt (structs : List StructDef) : String → List String → Prop
  | type, [] => type = CairoType.felt.name
  | type, field :: rest =>
    ∃ struct ∈ structs, struct.name = type ∧
      ∃ member ∈ struct.members, member.1 = field ∧ LeadsToFelt structs member.2 rest

/-- A program declares a variable with a type, as a parameter or as a local. -/
def Program.Gives (program : Program) (name type : String) : Prop :=
  ∃ function ∈ program.functions,
    ⟨name, type⟩ ∈ function.params ∨ .localVar name type ∈ function.body

/-- The names of the types that are not made for one program. -/
def vocabulary : List String :=
  CairoType.felt.name :: Known.all.map Known.name

/-- A program fits a reference of its hint. -/
structure Program.Fits (program : Program) (root : String) (path : List String) : Prop where
  typed : ∃ type, program.Gives root type
  /-- The root has no generated struct. -/
  known : ∀ type, program.Gives root type → type ∈ vocabulary
  /-- The fields name a felt of the type of the root, if there are any. -/
  leads : ∀ type, program.Gives root type → path = [] ∨ LeadsToFelt program.structs type path

end HintFuzz.Cairo

namespace HintFuzz.Wrapper

open Cairo

/-! ### Declared types -/

private theorem localVar_notMem_bindInputs {name type : String} (first : PlaceholderId)
    (inputs : List TypedRoot) : Statement.localVar name type ∉ bindInputs first inputs := by
  induction inputs generalizing first with
  | nil => exact List.not_mem_nil
  | cons input rest ih =>
      rintro (_ | ⟨_, later⟩)
      exact ih _ later

private theorem localVar_ne_callHint {name type : String} (inputs outputs : List TypedRoot) :
    Statement.localVar name type ≠ callHint inputs outputs := by
  unfold callHint
  match outputs with
  | [] => exact nofun
  | [_] => exact nofun
  | _ :: _ :: _ => exact nofun

/-- The program around a hint declares its roots, with their types, and nothing else. -/
theorem gives_programOf {lines : List String} {typed : List TypedRoot} {name type : String} :
    (programOf lines typed).Gives name type ↔
      ∃ root ∈ typed, root.root.name = name ∧ root.type.name = type := by
  constructor
  · rintro ⟨function, member, given⟩
    rcases List.mem_cons.mp member with rfl | later
    · rcases given with param | localVar
      · cases param
      · rcases List.mem_append.mp localVar with input | call
        · exact absurd input (localVar_notMem_bindInputs _ _)
        · rcases List.mem_cons.mp call with same | last
          · exact absurd same (localVar_ne_callHint _ _)
          · cases List.mem_singleton.mp last
    · cases List.mem_singleton.mp later
      rcases given with param | localVar
      · obtain ⟨input, found, same⟩ := List.mem_map.mp param
        obtain ⟨rfl, rfl⟩ := Param.mk.inj same
        exact ⟨input, (List.mem_filter.mp found).1, rfl, rfl⟩
      · rcases List.mem_cons.mp localVar with same | later
        · cases same
        · rcases List.mem_append.mp later with output | last
          · obtain ⟨root, found, same⟩ := List.mem_map.mp output
            obtain ⟨rfl, rfl⟩ := Statement.localVar.inj same
            exact ⟨root, (List.mem_filter.mp found).1, rfl, rfl⟩
          · rcases List.mem_cons.mp last with same | ret
            · cases same
            · cases List.mem_singleton.mp ret
  · rintro ⟨root, member, rfl, rfl⟩
    refine ⟨_, List.mem_cons_of_mem _ List.mem_cons_self, ?_⟩
    cases role : root.root.role with
    | input =>
        have input : root ∈ typed.filter fun typed => typed.root.role = .input :=
          List.mem_filter.mpr ⟨member, decide_eq_true role⟩
        exact .inl (List.mem_map.mpr ⟨root, input, rfl⟩)
    | output =>
        have output : root ∈ typed.filter fun typed => typed.root.role = .output :=
          List.mem_filter.mpr ⟨member, decide_eq_true role⟩
        exact .inr (List.mem_cons_of_mem _
          (List.mem_append_left _ (List.mem_map.mpr ⟨root, output, rfl⟩)))

/-! ### Fields -/

section Fields

variable {generated : List (List String)} {types : List CairoType} {type : CairoType}
  {field : String} {path : List String}

/-- A felt is none of the declared structs. -/
theorem name_ne_felt (listed : ∀ type ∈ types, Listed generated type)
    (declared : type ∈ structTypes types) : type.name ≠ CairoType.felt.name := by
  intro same
  have feltListed : Listed generated .felt := trivial
  have felt : type = .felt :=
    (listed_of_mem_structTypes listed declared).eq_of_name_eq feltListed same
  rcases mem_structTypes.mp declared with ⟨-, struct⟩ | ⟨bigInt3, -⟩
  · exact struct felt
  · cases felt.symm.trans bigInt3

private theorem leadsToFelt_felt (listed : ∀ type ∈ types, Listed generated type) :
    LeadsToFelt ((structTypes types).map structDef) CairoType.felt.name path ↔ path = [] := by
  cases path with
  | nil => exact iff_of_true rfl rfl
  | cons field rest =>
      refine iff_of_false ?_ (List.cons_ne_nil _ _)
      rintro ⟨struct, member, same, -⟩
      obtain ⟨type, declared, rfl⟩ := List.mem_map.mp member
      exact name_ne_felt listed declared same

/-- The structs of a program are told by their names, so the first field is a member of the
type itself. -/
theorem leadsToFelt_cons (listed : ∀ type ∈ types, Listed generated type)
    (declared : type ∈ structTypes types) :
    LeadsToFelt ((structTypes types).map structDef) type.name (field :: path) ↔
      ∃ member ∈ type.members, member.1 = field ∧
        LeadsToFelt ((structTypes types).map structDef) member.2.name path := by
  constructor
  · rintro ⟨struct, structMember, same, named, member, rfl, leads⟩
    obtain ⟨other, otherDeclared, rfl⟩ := List.mem_map.mp structMember
    have same : other = type :=
      (listed_of_mem_structTypes listed otherDeclared).eq_of_name_eq
        (listed_of_mem_structTypes listed declared) same
    subst same
    obtain ⟨typed, found, rfl⟩ := List.mem_map.mp member
    exact ⟨typed, found, rfl, leads⟩
  · rintro ⟨member, found, rfl, leads⟩
    exact ⟨structDef type, List.mem_map_of_mem declared, rfl, _, List.mem_map_of_mem found, rfl,
      leads⟩

/-- The structs that a declared struct is made of are declared as well. -/
theorem declared_of_mem_members {member : String × CairoType} (declared : type ∈ structTypes types)
    (found : member ∈ type.members) : member.2 = .felt ∨ member.2 ∈ structTypes types := by
  rcases member_type_cases found with felt | ⟨rfl, bigInt3⟩
  · exact .inl felt
  · rw [bigInt3]
    exact .inr (bigInt3_mem_structTypes declared)

/-- Fields lead to a felt in a program if they lead there from member to member of the type. -/
theorem leadsToFelt_iff_leads (listed : ∀ type ∈ types, Listed generated type)
    (known : type = .felt ∨ type ∈ structTypes types) :
    LeadsToFelt ((structTypes types).map structDef) type.name path ↔ type.Leads path := by
  induction path generalizing type with
  | nil =>
      rcases known with rfl | declared
      · exact iff_of_true rfl .felt
      · refine iff_of_false (name_ne_felt listed declared) fun leads => ?_
        cases leads
        exact name_ne_felt listed declared rfl
  | cons field rest ih =>
      rcases known with rfl | declared
      · rw [leadsToFelt_felt listed, leads_felt_iff]
      · rw [leadsToFelt_cons listed declared, leads_cons_iff]
        constructor
        · rintro ⟨⟨name, inner⟩, found, rfl, leads⟩
          exact ⟨inner, found, (ih (declared_of_mem_members declared found)).mp leads⟩
        · rintro ⟨inner, found, leads⟩
          exact ⟨_, found, rfl, (ih (declared_of_mem_members declared found)).mpr leads⟩

/-- Fields lead to a felt in a program if they name a leaf of the type. -/
theorem leadsToFelt_iff (listed : ∀ type ∈ types, Listed generated type)
    (used : type ∈ types) :
    LeadsToFelt ((structTypes types).map structDef) type.name path ↔ path ∈ type.leaves := by
  have known : type = .felt ∨ type ∈ structTypes types := by
    by_cases felt : type = .felt
    · exact .inl felt
    · exact .inr (mem_structTypes.mpr (.inl ⟨used, felt⟩))
  rw [leadsToFelt_iff_leads listed known, leads_iff]

end Fields

/-- A struct of the vocabulary, or a felt, is no generated struct. -/
theorem name_mem_vocabulary_iff {generated : List (List String)} {type : CairoType}
    (listed : Listed generated type) :
    type.name ∈ vocabulary ↔ ∀ name members, type ≠ .generated name members := by
  cases type with
  | felt => exact iff_of_true List.mem_cons_self nofun
  | known struct => exact iff_of_true (by cases struct <;> decide) nofun
  | generated name members =>
      refine iff_of_false ?_ fun other => other name members rfl
      obtain ⟨-, rfl⟩ := listed
      intro known
      rcases List.mem_cons.mp known with felt | struct
      · exact (generatedName_ne _ .bigInt3).2 felt
      · obtain ⟨struct, -, same⟩ := List.mem_map.mp struct
        exact (generatedName_ne _ struct).1 same.symm

/-! ### Confidence -/

/-- A program is exact if every root has a known type that fits. -/
theorem confidenceOf_eq_exact_iff {roots : List RootVariable} :
    confidenceOf roots = .exact ↔ ∀ root ∈ roots, ∃ type, root.shape = .known type true := by
  unfold confidenceOf
  simp only
  split
  · next all =>
      refine iff_of_true rfl fun root member => ?_
      have fits := List.all_eq_true.mp all root member
      split at fits
      · next type exact shape => exact ⟨type, fits ▸ shape⟩
      · cases fits
  · next some =>
      refine iff_of_false nofun fun known => some (List.all_eq_true.mpr fun root member => ?_)
      obtain ⟨type, shape⟩ := known root member
      rw [shape]

end HintFuzz.Wrapper

namespace HintFuzz

open Cairo Wrapper

variable {hint : Hint} {signature : Signature} {wrapper : Wrapper}

/-- The program of a wrapper declares each root of its hint once, with its type. -/
theorem Hint.gives_iff (analyzed : hint.analyze = .ok signature)
    (built : hint.synthesize signature = .ok wrapper) {root : RootVariable}
    (member : root ∈ signature.roots) {type : String} :
    wrapper.program.Gives root.name type ↔
      (typeOf (generatedMembers signature.roots) root).name = type := by
  obtain ⟨-, program⟩ := Hint.synthesize_ok built
  rw [program, gives_programOf]
  constructor
  · rintro ⟨typed, typedMember, same, rfl⟩
    obtain ⟨other, otherMember, rfl⟩ := List.mem_map.mp typedMember
    rw [List.inj_on_of_nodup_map (Hint.analyze_names_nodup analyzed) otherMember member same]
  · rintro rfl
    exact ⟨_, List.mem_map_of_mem member, rfl, rfl⟩

/-- A program fits a reference if the type of its root is not generated and fits the path. -/
theorem Hint.fits_iff (analyzed : hint.analyze = .ok signature)
    (built : hint.synthesize signature = .ok wrapper) {root : RootVariable}
    (member : root ∈ signature.roots) {path : List String} :
    wrapper.program.Fits root.name path ↔
      (∀ name members, typeOf (generatedMembers signature.roots) root ≠ .generated name members) ∧
        (typeOf (generatedMembers signature.roots) root).Fits path := by
  have gives := @Hint.gives_iff _ _ _ analyzed built root member
  have listed : ∀ type ∈ (typedRoots signature.roots).map TypedRoot.type,
      Listed (generatedMembers signature.roots) type := by
    intro type typeMember
    obtain ⟨typed, typedMember, rfl⟩ := List.mem_map.mp typeMember
    obtain ⟨other, otherMember, rfl⟩ := List.mem_map.mp typedMember
    exact listed_typeOf otherMember
  have used : typeOf (generatedMembers signature.roots) root ∈
      (typedRoots signature.roots).map TypedRoot.type :=
    List.mem_map_of_mem (List.mem_map_of_mem member)
  have structs : wrapper.program.structs =
      (structTypes ((typedRoots signature.roots).map TypedRoot.type)).map structDef := by
    rw [(Hint.synthesize_ok built).2]
    rfl
  rw [CairoType.Fits, ← leadsToFelt_iff listed used, ← structs,
    ← name_mem_vocabulary_iff (listed _ used)]
  constructor
  · rintro ⟨-, known, leads⟩
    exact ⟨known _ (gives.mpr rfl), leads _ (gives.mpr rfl)⟩
  · rintro ⟨known, leads⟩
    refine ⟨⟨_, gives.mpr rfl⟩, ?_, ?_⟩
    · intro type given
      rwa [← gives.mp given]
    · intro type given
      rwa [← gives.mp given]

/-- **Exact programs fit their hint.** A wrapper is exact if its program fits every reference
of the hint, and only then. -/
theorem Hint.exact_iff_fits (prepared : hint.prepare = .ok wrapper) :
    wrapper.confidence = .exact ↔
      ∀ occurrence ∈ Hint.occurrences 0 hint.lines,
        wrapper.program.Fits occurrence.root occurrence.path := by
  obtain ⟨signature, analyzed, built⟩ := Hint.prepare_ok prepared
  obtain ⟨confidence, resolved⟩ := Hint.synthesize_confidence built
  rw [confidence, confidenceOf_eq_exact_iff]
  constructor
  · intro known occurrence found
    obtain ⟨root, member, name⟩ := (Hint.exists_root_iff analyzed).mpr ⟨occurrence, found, rfl⟩
    obtain ⟨type, shape⟩ := known root member
    have typed : typeOf (generatedMembers signature.roots) root = type := by rw [typeOf, shape]
    rw [← name, Hint.fits_iff analyzed built member, typed]
    refine ⟨root.not_generated_of_shape_known shape, ?_⟩
    have fits := (root.exact_iff (fun _ => Hint.length_of_mem_paths analyzed member) shape).mp rfl
    exact fits _ ((Hint.mem_paths_iff analyzed member).mpr ⟨occurrence, found, name.symm, rfl⟩)
  · intro fits root member
    cases shape : root.shape with
    | known type exact =>
        have typed : typeOf (generatedMembers signature.roots) root = type := by rw [typeOf, shape]
        have exact_iff := root.exact_iff (fun _ => Hint.length_of_mem_paths analyzed member) shape
        refine ⟨type, congrArg (Shape.known type) (exact_iff.mpr fun path found => ?_)⟩
        obtain ⟨occurrence, occurs, name, rfl⟩ := (Hint.mem_paths_iff analyzed member).mp found
        exact typed ▸ ((Hint.fits_iff analyzed built member).mp (name ▸ fits occurrence occurs)).2
    | generated members =>
        obtain ⟨occurrence, occurs, name⟩ := (Hint.exists_root_iff analyzed).mp ⟨root, member, rfl⟩
        have other := ((Hint.fits_iff analyzed built member).mp (name ▸ fits occurrence occurs)).1
        exact absurd (by rw [typeOf, shape]) (other _ members)
    | unresolvable detail => exact absurd shape (resolved root member detail)

end HintFuzz

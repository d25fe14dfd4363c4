import HintFuzz.Proofs.Cairo.Shape
import HintFuzz.Proofs.Decimal.Digits
import HintFuzz.Proofs.Hint.Chains
import HintFuzz.Proofs.Hint.Signature

/-!
# Names

The scanner reads names only: every root of a signature, and every field by which
it is reached, is made of ASCII letters, digits and underscores
(`Hint.named_of_analyze`).
-/

namespace HintFuzz

open Hint

/-- Made of the characters of names. -/
def IsName (text : String) : Prop :=
  ∀ c ∈ text.toList, isNameChar c = true

instance (text : String) : Decidable (IsName text) :=
  List.decidableBAll (fun c => isNameChar c = true) text.toList

/-- Two names are a name one behind the other. -/
theorem IsName.append {left right : String} (first : IsName left) (second : IsName right) :
    IsName (left ++ right) := by
  intro c member
  rw [String.toList_append] at member
  rcases List.mem_append.mp member with early | late
  · exact first c early
  · exact second c late

/-- The digits of a number may stand in a name. -/
theorem isName_decimal (number : Nat) : IsName (toString number) := by
  intro c member
  rw [isNameChar, Char.isAlphanum, isDigit_of_mem_decimal member, Bool.or_true, Bool.true_or]

/-! ### What is scanned -/

/-- The root and the fields of a reference chain are names. -/
structure Hint.Reference.Named (reference : Reference) : Prop where
  root : IsName reference.root
  path : ∀ field ∈ reference.path, IsName field

private theorem Hint.isName_of_isIdentifier {text : String}
    (identifier : IsIdentifier text.toList) :
    IsName text := by
  obtain ⟨first, rest, same, start, named⟩ := identifier
  intro c member
  rw [same] at member
  rcases List.mem_cons.mp member with rfl | later
  · exact isNameChar_of_isNameStart start
  · exact named c later

private theorem Hint.Site.named_of_reference? {site : Site} {reference : Reference}
    (found : site.reference? = some reference) : reference.Named := by
  obtain ⟨-, -, -, identifiers, -⟩ :=
    exists_spelling_of_chain? (reference?_eq_some_iff.mp found).2
  have named {name : String} (member : name ∈ reference.root :: reference.path) : IsName name :=
    isName_of_isIdentifier (identifiers name member)
  exact ⟨named List.mem_cons_self, fun field member => named (List.mem_cons_of_mem _ member)⟩

/-- What occurs on the lines of a hint are names. -/
theorem Hint.named_of_mem_occurrences {lines : List String} {depth : Nat}
    {occurrence : Occurrence} (member : occurrence ∈ occurrences depth lines) :
    IsName occurrence.root ∧ ∀ field ∈ occurrence.path, IsName field := by
  induction lines generalizing depth with
  | nil => cases member
  | cons text rest ih =>
      rcases List.mem_append.mp member with here | later
      · obtain ⟨reference, found, rfl⟩ := List.mem_map.mp here
        obtain ⟨site, -, scanned⟩ := List.mem_filterMap.mp found
        have named := Site.named_of_reference? scanned
        exact ⟨named.root, named.path⟩
      · exact ih later

/-! ### Roots -/

/-- A root and the fields by which it is reached are names. -/
structure RootVariable.Named (root : RootVariable) : Prop where
  name : IsName root.name
  path : ∀ path ∈ root.paths, ∀ field ∈ path, IsName field

/-- All roots of a signature are names. -/
theorem Hint.named_of_analyze {hint : Hint} {signature : Signature}
    (analyzed : hint.analyze = .ok signature) : ∀ root ∈ signature.roots, root.Named := by
  obtain ⟨-, roots⟩ := Hint.analyze_ok analyzed
  intro root member
  rw [roots] at member
  obtain ⟨name, nameMember, rfl⟩ := List.mem_map.mp member
  refine ⟨?_, ?_⟩
  · obtain ⟨occurrence, found, rfl⟩ := List.mem_map.mp (mem_ascending.mp nameMember)
    exact (named_of_mem_occurrences found).1
  · intro path pathMember
    obtain ⟨occurrence, found, rfl⟩ := List.mem_map.mp (mem_ascending.mp pathMember)
    exact (named_of_mem_occurrences (List.mem_filter.mp found).1).2

/-- The members of the struct of a root are fields by which it is reached. -/
theorem RootVariable.exists_path_of_shape_generated {root : RootVariable} {members : List String}
    {field : String} (shape : root.shape = .generated members) (member : field ∈ members) :
    ∃ path ∈ root.paths, field ∈ path := by
  rw [RootVariable.eq_fieldsAt_of_shape_generated shape] at member
  obtain ⟨path, pathMember, first⟩ := RootVariable.mem_fieldsAt.mp member
  exact ⟨path, pathMember, List.mem_of_getElem? first⟩

end HintFuzz

import HintFuzz.Json.Fields
import HintFuzz.Proofs.Decimal.Digits
import HintFuzz.Proofs.Json.RoundTrip

/-!
# Fields of written objects

Where the names of an object are different, its fields are its values in order
(`Json.fields?_ofMembers`).
-/

namespace HintFuzz.Json

/-- A string is read as its text. -/
theorem text?_ofString (text : String) : (ofString text).text? = some text := rfl

/-- A number of 64 bits is read as it was written. -/
theorem natural?_ofNat {number : Nat} (fits : number < UInt64.size) :
    (ofNat number).natural? = some number := by
  have digits : (toString number).toList.all Char.isDigit = true :=
    List.all_eq_true.mpr fun _ => isDigit_of_mem_decimal
  simp only [ofNat, natural?, digits, if_true, ofDigits_decimal, if_pos fits]

/-- A list is read if each of its items is. -/
theorem mapM_eq_some {α β : Type} {f : α → Option β} {g : α → β} {items : List α}
    (gives : ∀ item ∈ items, f item = some (g item)) : items.mapM f = some (items.map g) := by
  induction items with
  | nil => rfl
  | cons item rest ih =>
      rw [List.mapM_cons, gives item List.mem_cons_self,
        ih fun item member => gives item (List.mem_cons_of_mem _ member)]
      rfl

private theorem member?_named {members : List (String × Json)}
    (distinct : (members.map Prod.fst).Nodup)
    {member : String × Json} (found : member ∈ members) :
    member? (named members) member.1 = some (some member.2) := by
  have alone : (named members).filter (fun other => other.1 = some member.1) =
      [(some member.1, member.2)] := by
    induction members with
    | nil => cases found
    | cons first rest ih =>
        rw [List.map_cons, List.nodup_cons] at distinct
        obtain ⟨new, distinct⟩ := distinct
        simp only [named, List.map_cons]
        rcases List.mem_cons.mp found with rfl | later
        · rw [List.filter_cons_of_pos (by simp), List.filter_eq_nil_iff.mpr]
          intro other otherMember
          obtain ⟨source, sourceMember, rfl⟩ := List.mem_map.mp otherMember
          simp only [Option.some.injEq, decide_eq_true_eq]
          exact fun same => new (same ▸ List.mem_map_of_mem sourceMember)
        · have other : first.1 ≠ member.1 := fun same => new (same ▸ List.mem_map_of_mem later)
          rw [List.filter_cons_of_neg (by simp [other])]
          exact ih distinct later
  rw [member?, alone]

/-- The fields of an object with given names are its values in order. -/
theorem optionalFields?_ofMembers {members : List (String × Json)}
    (distinct : (members.map Prod.fst).Nodup) :
    (ofMembers members).optionalFields? (members.map Prod.fst) =
      some (members.map fun member => some member.2) := by
  have texts : (named members).all (fun member => member.1.isSome) = true := by
    simp [named]
  rw [ofMembers, optionalFields?, if_pos texts, List.mapM_map]
  exact mapM_eq_some fun member => member?_named distinct

/-- The members of an object are read by their names. -/
theorem fields?_ofMembers {members : List (String × Json)}
    (distinct : (members.map Prod.fst).Nodup) :
    (ofMembers members).fields? (members.map Prod.fst) = some (members.map Prod.snd) := by
  rw [fields?, optionalFields?_ofMembers distinct]
  rw [Option.bind_eq_bind, Option.bind_some, List.mapM_map]
  exact mapM_eq_some fun _ _ => rfl

end HintFuzz.Json

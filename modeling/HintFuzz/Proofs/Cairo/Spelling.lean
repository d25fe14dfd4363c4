import HintFuzz.Proofs.Cairo.Slots
import HintFuzz.Proofs.Hint.Names

/-!
# Spelling

Apart from what a hint says, programs are written in the characters of names and a few
marks.  What is not among them (line feeds, dollar signs, percent signs) is found in the
text of a layout only where it is filled in (`Layout.notMem_write`).
-/

namespace HintFuzz.Cairo

/-- The marks between the names of a program. -/
def punctuation : List Char :=
  [' ', '(', ')', ',', '-', ':', ';', '=', '>', '{', '}']

/-- The characters that programs are written in, hints apart. -/
def isProgramChar (c : Char) : Bool :=
  Hint.isNameChar c || punctuation.contains c

/-- Made of the characters that programs are written in. -/
def Spelled (text : String) : Prop :=
  ∀ c ∈ text.toList, isProgramChar c = true

instance (text : String) : Decidable (Spelled text) :=
  List.decidableBAll (fun c => isProgramChar c = true) text.toList

/-- A name is spelled with characters of programs. -/
theorem spelled_of_isName {name : String} (isName : IsName name) : Spelled name :=
  fun c member => Bool.or_eq_true_iff.mpr (.inl (isName c member))

/-- Two spelled texts are spelled one behind the other. -/
theorem Spelled.append {left right : String} (first : Spelled left) (second : Spelled right) :
    Spelled (left ++ right) := by
  intro c member
  rw [String.toList_append] at member
  rcases List.mem_append.mp member with early | late
  · exact first c early
  · exact second c late

/-- Commas between spelled texts are spelled, too. -/
theorem spelled_commaSeparated {texts : List String} (each : ∀ text ∈ texts, Spelled text) :
    Spelled (Text.commaSeparated texts) := by
  induction texts with
  | nil => decide
  | cons text rest ih =>
      have first := each text List.mem_cons_self
      have later := ih fun other member => each other (List.mem_cons_of_mem _ member)
      cases rest with
      | nil => exact first
      | cons next rest => exact (first.append (by decide)).append later

/-- So are parentheses around them. -/
theorem spelled_tupled {texts : List String} (each : ∀ text ∈ texts, Spelled text) :
    Spelled (tupled texts) := by
  have enclosed : Spelled ("(" ++ Text.commaSeparated texts ++ ")") :=
    (Spelled.append (by decide) (spelled_commaSeparated each)).append (by decide)
  match texts with
  | [] => exact enclosed
  | [text] => exact each text List.mem_cons_self
  | text :: next :: rest => exact enclosed

/-! ### Layouts -/

namespace Layout

variable {layout left right : Layout}

/-- A layout whose fixed stretches are spelled. -/
def IsSpelled (layout : Layout) : Prop :=
  ∀ text, .plain text ∈ layout → Spelled text

/-- There is nothing unspelled in an empty layout. -/
theorem isSpelled_nil : IsSpelled [] :=
  nofun

/-- A slot has no text of its own. -/
theorem isSpelled_slot (id : PlaceholderId) : IsSpelled [.slot id] :=
  fun _ member => by cases List.mem_singleton.mp member

/-- Spelled text may stand in front of a spelled layout. -/
theorem IsSpelled.plain_cons {text : String} (spelled : Spelled text) (later : IsSpelled layout) :
    IsSpelled (.plain text :: layout) := by
  intro other member
  rcases List.mem_cons.mp member with same | member
  · cases same
    exact spelled
  · exact later other member

/-- A layout of one spelled text is spelled. -/
theorem isSpelled_plain {text : String} (spelled : Spelled text) : IsSpelled [.plain text] :=
  .plain_cons spelled isSpelled_nil

/-- Two spelled layouts are spelled one behind the other. -/
theorem IsSpelled.append (first : IsSpelled left) (second : IsSpelled right) :
    IsSpelled (left ++ right) := by
  intro text member
  rcases List.mem_append.mp member with early | late
  · exact first text early
  · exact second text late

/-- A spelled layout stays so between two spelled texts. -/
theorem IsSpelled.between {before after : String} (beforeSpelled : Spelled before)
    (spelled : IsSpelled layout) (afterSpelled : Spelled after) :
    IsSpelled (between before layout after) :=
  .plain_cons beforeSpelled (spelled.append (isSpelled_plain afterSpelled))

/-- Layouts with commas between them are spelled if each of them is. -/
theorem isSpelled_commaSeparated {layouts : List Layout} (each : ∀ layout ∈ layouts, IsSpelled layout) :
    IsSpelled (commaSeparated layouts) := by
  induction layouts with
  | nil => exact isSpelled_nil
  | cons layout rest ih =>
      have first := each layout List.mem_cons_self
      have later := ih fun other member => each other (List.mem_cons_of_mem _ member)
      cases rest with
      | nil => exact first
      | cons next rest => exact first.append (.plain_cons (by decide) later)

/-- So are layouts in parentheses. -/
theorem isSpelled_tupled {layouts : List Layout} (each : ∀ layout ∈ layouts, IsSpelled layout) :
    IsSpelled (tupled layouts) := by
  have enclosed : IsSpelled (Layout.between "(" (commaSeparated layouts) ")") :=
    .between (by decide) (isSpelled_commaSeparated each) (by decide)
  match layouts with
  | [] => exact enclosed
  | [layout] => exact each layout List.mem_cons_self
  | layout :: next :: rest => exact enclosed

/-- Indenting a spelled layout leaves it spelled. -/
theorem IsSpelled.indented (spelled : IsSpelled layout) : IsSpelled (indented layout) :=
  .plain_cons (by decide) spelled

/-- What is not written in a program's characters is written in a slot. -/
theorem notMem_write {c : Char} {texts : PlaceholderId → String}
    (clean : ∀ text, .plain text ∈ layout → c ∉ text.toList)
    (filled : ∀ id ∈ slots layout, c ∉ (texts id).toList) : c ∉ (write texts layout).toList := by
  induction layout with
  | nil => exact List.not_mem_nil
  | cons stretch rest ih =>
      have later := fun text member => clean text (List.mem_cons_of_mem _ member)
      cases stretch with
      | plain text =>
          rw [toList_write_plain, List.mem_append, not_or]
          exact ⟨clean text List.mem_cons_self, ih later filled⟩
      | slot id =>
          rw [toList_write_slot, List.mem_append, not_or]
          exact ⟨filled id List.mem_cons_self,
            ih later fun other member => filled other (List.mem_cons_of_mem _ member)⟩

/-- No text of a spelled layout has a character that programs do not have. -/
theorem IsSpelled.notMem {c : Char} (spelled : IsSpelled layout) (other : isProgramChar c = false) :
    ∀ text, .plain text ∈ layout → c ∉ text.toList := by
  intro text member found
  rw [spelled text member c found] at other
  cases other

end Layout

open Layout

/-! ### Expressions -/

/-- A struct is spelled if its name, its fields and their values are. -/
theorem Expr.isSpelled_construct {type : String} {fields : List (String × Expr)}
    (typeName : IsName type) (each : ∀ field ∈ fields, IsName field.1 ∧ IsSpelled field.2.layout) :
    IsSpelled (Expr.construct type fields).layout := by
  rw [Expr.layout, Expr.fieldLayouts_eq_map]
  refine .between ((spelled_of_isName typeName).append (by decide)) ?_ (by decide)
  refine isSpelled_commaSeparated fun layout member => ?_
  obtain ⟨field, found, rfl⟩ := List.mem_map.mp member
  obtain ⟨fieldName, value⟩ := each field found
  exact .plain_cons ((spelled_of_isName fieldName).append (by decide)) value

/-- Names are spelled wherever they are listed. -/
theorem Expr.isSpelled_idents {names : List String} (each : ∀ name ∈ names, IsName name) :
    ∀ layout ∈ Expr.layouts (names.map Expr.ident), IsSpelled layout := by
  rw [Expr.layouts_eq_map, List.map_map]
  intro layout member
  obtain ⟨name, found, rfl⟩ := List.mem_map.mp member
  exact isSpelled_plain (spelled_of_isName (each name found))

end HintFuzz.Cairo

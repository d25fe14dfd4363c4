import HintFuzz.Catalog.Load
import HintFuzz.Proofs.Monad.Steps
import HintFuzz.Proofs.Order.Ascending
import HintFuzz.Proofs.Random.Uniform

/-!
# Catalogs and how they are loaded

The hints of a catalog are numbered by their positions (`Catalog.Indexed`).  A catalog is loaded
from the whitelists of a directory in the order of their names, or from a single file, and holds
their entries one behind the other.  What is at fault is told of the first file that is no
whitelist (`Catalog.loadingRule`).
-/

namespace HintFuzz.Catalog

/-! ### Entries -/

/-- The hints of a catalog are numbered by their positions. -/
structure Indexed (catalog : Catalog) : Prop where
  entry : ∀ position,
    catalog.entries[position]? = catalog.hints[position]?.map (Hint.mk position)
  get : ∀ id, catalog.get? id = catalog.entries[id]?
  select : ∀ stream, ∃ hint, catalog.get? hint.id = some hint ∧
    (catalog.select stream).1 = some hint.id

section Entries

variable {catalog other : Catalog} {id : HintId} {hint : Hint} {hints : List (List String)}

/-- The number of a hint is its position. -/
theorem ids_entries (catalog : Catalog) : catalog.entries.map Hint.id = List.range catalog.size :=
  catalog.numbered

/-- What stands at a position has its number and the lines of that hint. -/
theorem getElem?_entries (catalog : Catalog) (position : Nat) :
    catalog.entries[position]? = catalog.hints[position]?.map (Hint.mk position) := by
  have numbers := congrArg (·[position]?) catalog.numbered
  simp only [List.getElem?_map] at numbers
  rw [hints, List.getElem?_map]
  cases found : catalog.entries[position]? with
  | none => rfl
  | some hint =>
      have inside := (List.getElem?_eq_some_iff.mp found).1
      rw [found, List.getElem?_range inside] at numbers
      obtain rfl := Option.some.inj numbers
      rfl

/-- A catalog is told by the lines of its hints. -/
theorem eq_of_hints_eq (same : catalog.hints = other.hints) : catalog = other := by
  have entries : catalog.entries = other.entries := by
    refine List.ext_getElem? fun position => ?_
    rw [getElem?_entries, getElem?_entries, same]
  cases catalog
  cases other
  cases entries
  rfl

/-- Enumerating hints keeps their lines. -/
theorem hints_ofHints (hints : List (List String)) : (ofHints hints).hints = hints := by
  rw [Catalog.hints, ofHints, List.map_map]
  exact List.zipIdx_map_fst 0 hints

/-- A hint that is pushed stands behind the others. -/
theorem hints_push (catalog : Catalog) (lines : List String) :
    (catalog.push lines).hints = catalog.hints ++ [lines] :=
  List.map_append

/-- So do hints that are pushed one after another. -/
theorem hints_foldl_push (catalog : Catalog) (hints : List (List String)) :
    (hints.foldl push catalog).hints = catalog.hints ++ hints := by
  induction hints generalizing catalog with
  | nil => exact (List.append_nil _).symm
  | cons lines rest ih => rw [List.foldl_cons, ih, hints_push, List.append_assoc, List.singleton_append]

/-- Pushing hints one after another enumerates them. -/
theorem foldl_push_empty (hints : List (List String)) : hints.foldl push empty = ofHints hints :=
  eq_of_hints_eq ((hints_foldl_push empty hints).trans (hints_ofHints hints).symm)

/-- A catalog without entries has no hints. -/
theorem entries_eq_nil_iff : catalog.entries = [] ↔ catalog.hints = [] :=
  List.map_eq_nil_iff.symm

/-- A hint is found under its number, and under no other. -/
theorem get?_eq_some_iff : catalog.get? id = some hint ↔ hint ∈ catalog.entries ∧ hint.id = id := by
  constructor
  · intro found
    have numbered := getElem?_entries catalog id
    rw [get?] at found
    rw [found] at numbered
    obtain ⟨lines, -, same⟩ := Option.map_eq_some_iff.mp numbered.symm
    exact ⟨List.mem_of_getElem? found, congrArg Hint.id same.symm⟩
  · rintro ⟨listed, rfl⟩
    obtain ⟨position, found⟩ := List.mem_iff_getElem?.mp listed
    have numbered := getElem?_entries catalog position
    rw [found] at numbered
    obtain ⟨lines, -, same⟩ := Option.map_eq_some_iff.mp numbered.symm
    have here : hint.id = position := congrArg Hint.id same.symm
    rw [get?, here, found]

/-- Nothing is found under a number that no hint has. -/
theorem get?_eq_none_iff : catalog.get? id = none ↔ id ∉ catalog.entries.map Hint.id := by
  rw [ids_entries, List.mem_range, get?, List.getElem?_eq_none_iff, size, Nat.not_lt]

/-- A hint is found by its own number. -/
theorem id_of_get? (found : catalog.get? id = some hint) : hint.id = id :=
  (get?_eq_some_iff.mp found).2

/-- What is drawn from a catalog with entries is the number of a hint. -/
theorem exists_select (filled : catalog.entries ≠ []) (stream : Random.Stream) :
    ∃ hint, catalog.get? hint.id = some hint ∧ (catalog.select stream).1 = some hint.id := by
  have positive : catalog.size ≠ 0 := mt List.eq_nil_of_length_eq_zero filled
  have within : (Random.uniform 2 0 (catalog.size - 1) stream).1 ≤ catalog.size - 1 :=
    (Random.uniform_mem (Nat.zero_le _) (.inl rfl) stream).2
  rcases drawn : Random.uniform 2 0 (catalog.size - 1) stream with ⟨index, rest⟩
  rw [drawn] at within
  have inside : index < catalog.size := Nat.lt_of_le_pred (Nat.pos_of_ne_zero positive) within
  obtain ⟨hint, found⟩ := Option.ne_none_iff_exists'.mp
    (mt List.getElem?_eq_none_iff.mp (Nat.not_le.mpr inside))
  have foundHere : catalog.get? index = some hint := found
  refine ⟨hint, (id_of_get? foundHere).symm ▸ foundHere, ?_⟩
  rw [select, if_neg positive, drawn]
  exact congrArg (Option.map Hint.id) foundHere

/-- No hint is picked from an empty catalog only. -/
theorem select_eq_none_iff {stream : Random.Stream} :
    (catalog.select stream).1 = none ↔ catalog.entries = [] := by
  constructor
  · intro picked
    by_contra filled
    obtain ⟨hint, -, drawn⟩ := exists_select filled stream
    rw [picked] at drawn
    cases drawn
  · intro none
    have size : catalog.size = 0 := congrArg List.length none
    rw [select, if_pos size]

/-- The hint that is picked is one of the catalog. -/
theorem get?_of_select {stream : Random.Stream} (picked : (catalog.select stream).1 = some id) :
    catalog.get? id ≠ none := by
  have filled : catalog.entries ≠ [] := by
    intro none
    rw [select_eq_none_iff.mpr none] at picked
    cases picked
  obtain ⟨hint, found, drawn⟩ := exists_select filled stream
  cases picked.symm.trans drawn
  rw [found]
  exact Option.some_ne_none hint

/-- A catalog with entries gives each of them its place. -/
theorem indexed_of_ne_nil (filled : catalog.hints ≠ []) : catalog.Indexed where
  entry := getElem?_entries catalog
  get _ := rfl
  select := exists_select (mt entries_eq_nil_iff.mp filled)

end Entries

/-! ### Whitelists -/

/-- Some line of an entry is not blank. -/
def HasText (lines : List String) : Prop :=
  ∃ line ∈ lines, Text.isBlank line = false

instance (lines : List String) : Decidable (HasText lines) :=
  inferInstanceAs (Decidable (∃ line ∈ lines, Text.isBlank line = false))

/-- The file at a path is a whitelist: it can be read and understood, and there is text in all of
its entries. -/
structure IsWhitelist (files : Files) (path : String) (entries : List (List String)) : Prop where
  understood : ∃ text, files.readText path = .ok text ∧ whitelist? text = some entries
  texts : ∀ lines ∈ entries, HasText lines

/-- What is at fault with a file that is no whitelist. -/
inductive Offends (files : Files) (path : String) : LoadFault → Prop
  | io {cause : Files.Fault} (unreadable : files.readText path = .error cause) :
      Offends files path (.io path cause)
  | malformed {text : String} (read : files.readText path = .ok text)
      (senseless : whitelist? text = none) : Offends files path (.malformed path)
  /-- The first entry without text, behind those before it. -/
  | emptyEntry {text : String} {before after : List (List String)} {lines : List String}
      (read : files.readText path = .ok text)
      (understood : whitelist? text = some (before ++ lines :: after))
      (texts : ∀ earlier ∈ before, HasText earlier) (blank : ¬HasText lines) :
      Offends files path (.emptyEntry path before.length)

/-- A fault that names another path. -/
def LoadFault.naming (fault : LoadFault) (path : String) : LoadFault :=
  match fault with
  | missing _ => missing path
  | io _ cause => io path cause
  | malformed _ => malformed path
  | emptyEntry _ position => emptyEntry path position
  | empty _ => empty path

section Whitelists

variable {files other : Files} {path file : String} {entries : List (List String)}
  {fault : LoadFault}

private theorem all_isBlank_eq_false_iff {lines : List String} :
    lines.all Text.isBlank = false ↔ HasText lines := by
  rw [List.all_eq_false]
  simp only [HasText, Bool.not_eq_true]

private theorem all_isBlank_iff {lines : List String} :
    lines.all Text.isBlank = true ↔ ¬HasText lines := by
  rw [← all_isBlank_eq_false_iff, Bool.not_eq_false]

private theorem findIdx?_eq_some_iff_append {α : Type} {p : α → Bool} {xs : List α}
    {position : Nat} :
    xs.findIdx? p = some position ↔ ∃ before x after, xs = before ++ x :: after ∧
      position = before.length ∧ (∀ earlier ∈ before, p earlier = false) ∧ p x = true := by
  constructor
  · intro found
    obtain ⟨inside, hit, missed⟩ := List.findIdx?_eq_some_iff_getElem.mp found
    refine ⟨xs.take position, xs[position], xs.drop (position + 1), ?_, ?_, ?_, hit⟩
    · rw [List.getElem_cons_drop, List.take_append_drop]
    · rw [List.length_take_of_le (Nat.le_of_lt inside)]
    · intro earlier member
      obtain ⟨index, below, rfl⟩ := List.mem_take_iff_getElem.mp member
      exact Bool.eq_false_iff.mpr (missed index (Nat.lt_of_lt_of_le below (Nat.min_le_left _ _)))
  · rintro ⟨before, x, after, rfl, rfl, missed, hit⟩
    rw [List.findIdx?_append, List.findIdx?_eq_none_iff.mpr missed, List.findIdx?_cons, if_pos hit]
    simp

private theorem fileEntries_of_readText {text : String} (read : files.readText path = .ok text) :
    fileEntries files path =
      match whitelist? text with
      | none => .error (.malformed path)
      | some entries =>
        match entries.findIdx? fun lines => lines.all Text.isBlank with
        | some position => .error (.emptyEntry path position)
        | none => .ok entries := by
  rw [fileEntries, read]
  rfl

private theorem fileEntries_of_unreadable {cause : Files.Fault}
    (unreadable : files.readText path = .error cause) :
    fileEntries files path = .error (.io path cause) := by
  rw [fileEntries, unreadable]
  rfl

private theorem IsWhitelist.fileEntries_eq (whitelist : IsWhitelist files path entries) :
    fileEntries files path = .ok entries := by
  obtain ⟨⟨text, read, understood⟩, texts⟩ := whitelist
  have none : (entries.findIdx? fun lines => lines.all Text.isBlank) = none := by
    apply List.findIdx?_eq_none_iff.mpr
    intro lines member
    exact all_isBlank_eq_false_iff.mpr (texts lines member)
  simp only [fileEntries_of_readText read, understood, none]

private theorem Offends.fileEntries_eq (offends : Offends files path fault) :
    fileEntries files path = .error fault := by
  cases offends with
  | io unreadable => exact fileEntries_of_unreadable unreadable
  | malformed read senseless => simp only [fileEntries_of_readText read, senseless]
  | @emptyEntry text before after lines read understood texts blank =>
      have found : ((before ++ lines :: after).findIdx? fun lines => lines.all Text.isBlank) =
          some before.length := by
        refine findIdx?_eq_some_iff_append.mpr ⟨before, lines, after, rfl, rfl, ?_, ?_⟩
        · intro earlier member
          exact all_isBlank_eq_false_iff.mpr (texts earlier member)
        · exact all_isBlank_iff.mpr blank
      simp only [fileEntries_of_readText read, understood, found]

/-- A file is a whitelist, or something is at fault with it. -/
theorem isWhitelist_or_offends (files : Files) (path : String) :
    (∃ entries, IsWhitelist files path entries) ∨ ∃ fault, Offends files path fault := by
  cases read : files.readText path with
  | error cause => exact .inr ⟨_, .io read⟩
  | ok text =>
      cases understood : whitelist? text with
      | none => exact .inr ⟨_, .malformed read understood⟩
      | some entries =>
          cases found : entries.findIdx? fun lines => lines.all Text.isBlank with
          | none =>
              refine .inl ⟨entries, ⟨text, read, understood⟩, ?_⟩
              intro lines member
              exact all_isBlank_eq_false_iff.mp (List.findIdx?_eq_none_iff.mp found lines member)
          | some position =>
              obtain ⟨before, lines, after, rfl, rfl, texts, blank⟩ :=
                findIdx?_eq_some_iff_append.mp found
              refine .inr ⟨_, .emptyEntry read understood ?_ (all_isBlank_iff.mp blank)⟩
              intro earlier member
              exact all_isBlank_eq_false_iff.mp (texts earlier member)

private theorem fileEntries_eq_ok_iff :
    fileEntries files path = .ok entries ↔ IsWhitelist files path entries := by
  refine ⟨?_, IsWhitelist.fileEntries_eq⟩
  intro given
  rcases isWhitelist_or_offends files path with ⟨others, whitelist⟩ | ⟨fault, offends⟩
  · rw [whitelist.fileEntries_eq] at given
    cases given
    exact whitelist
  · rw [offends.fileEntries_eq] at given
    cases given

private theorem fileEntries_eq_error_iff :
    fileEntries files path = .error fault ↔ Offends files path fault := by
  refine ⟨?_, Offends.fileEntries_eq⟩
  intro given
  rcases isWhitelist_or_offends files path with ⟨entries, whitelist⟩ | ⟨others, offends⟩
  · rw [whitelist.fileEntries_eq] at given
    cases given
  · rw [offends.fileEntries_eq] at given
    cases given
    exact offends

private theorem exists_flatten_eq_nil_iff {paths : List String} :
    (∃ lists, List.Forall₂ (IsWhitelist files) paths lists ∧ lists.flatten = []) ↔
      ∀ file ∈ paths, IsWhitelist files file [] := by
  induction paths with
  | nil => exact iff_of_true ⟨[], .nil, rfl⟩ nofun
  | cons file rest ih =>
      rw [List.forall_mem_cons, ← ih]
      constructor
      · rintro ⟨lists, each, none⟩
        cases each with
        | cons first later =>
            obtain ⟨rfl, empty⟩ := List.append_eq_nil_iff.mp none
            exact ⟨first, _, later, empty⟩
      · rintro ⟨first, lists, later, empty⟩
        exact ⟨[] :: lists, .cons first later, empty⟩

/-- Where a file with the same text stands elsewhere, the same is made of it. -/
theorem fileEntries_naming (same : other.readText file = files.readText path) :
    fileEntries files path = (fileEntries other file).mapError (LoadFault.naming · path) := by
  cases read : files.readText path with
  | error cause =>
      rw [fileEntries_of_unreadable read, fileEntries_of_unreadable (same.trans read)]
      rfl
  | ok text =>
      rw [fileEntries_of_readText read, fileEntries_of_readText (same.trans read)]
      cases whitelist? text with
      | none => rfl
      | some entries =>
          simp only
          split
          · rfl
          · rfl

end Whitelists

/-! ### The files of a catalog -/

/-- A name in a directory is that of a whitelist. -/
def Names (files : Files) (directory : NodeId) (name : String) : Prop :=
  (∃ next, files.child? directory name = some next) ∧ ∃ stem, stem ≠ "" ∧ name = stem ++ ".json"

section Paths

variable {files : Files} {path name : String} {id : NodeId}

private theorem isWhitelistName_iff :
    isWhitelistName name = true ↔ ∃ stem, stem ≠ "" ∧ name = stem ++ ".json" := by
  rw [isWhitelistName, Bool.and_eq_true, decide_eq_true_iff, List.isSuffixOf_iff_suffix]
  constructor
  · rintro ⟨longer, front, split⟩
    refine ⟨String.ofList front, ?_, ?_⟩
    · intro none
      rw [String.ofList_eq_empty_iff.mp none] at split
      rw [← split] at longer
      exact Nat.lt_irrefl _ longer
    · rw [← String.toList_inj, String.toList_append, String.toList_ofList, split]
  · rintro ⟨stem, some, rfl⟩
    rw [String.toList_append, List.length_append]
    refine ⟨?_, List.suffix_append _ _⟩
    have longer := List.length_pos_of_ne_nil (mt String.toList_eq_nil_iff.mp some)
    omega

/-- The names in a directory are listed in order, and each of them leads somewhere. -/
theorem pairwise_names (files : Files) (id : NodeId) :
    ((files.entries id).map Prod.fst).Pairwise (· < ·) ∧
      ∀ name, name ∈ (files.entries id).map Prod.fst ↔ ∃ next, files.child? id name = some next := by
  unfold Files.entries Files.child?
  split
  · next parent entries content =>
      have found (name : String) (member : name ∈ entries.map Prod.fst) :
          ∃ entry, entries.find? (fun entry => entry.1 = name) = some entry ∧ entry.1 = name := by
        obtain ⟨listed, listedMember, rfl⟩ := List.mem_map.mp member
        have some : (entries.find? fun entry => entry.1 = listed.1).isSome = true :=
          List.find?_isSome.mpr ⟨listed, listedMember, decide_eq_true rfl⟩
        obtain ⟨entry, first⟩ := Option.isSome_iff_exists.mp some
        have named := List.find?_some first
        exact ⟨entry, first, of_decide_eq_true named⟩
      have names : ((ascending (entries.map Prod.fst)).filterMap fun name =>
          entries.find? fun entry => entry.1 = name).map Prod.fst =
            ascending (entries.map Prod.fst) := by
        rw [List.map_filterMap]
        refine (List.filterMap_congr fun name member => ?_).trans List.filterMap_some
        obtain ⟨entry, first, rfl⟩ := found name (mem_ascending.mp member)
        rw [first]
        rfl
      rw [names]
      refine ⟨pairwise_ascending _, ?_⟩
      intro name
      rw [mem_ascending]
      constructor
      · intro member
        obtain ⟨entry, first, -⟩ := found name member
        exact ⟨entry.2, by rw [first]; rfl⟩
      · rintro ⟨next, leads⟩
        obtain ⟨entry, first, -⟩ := Option.map_eq_some_iff.mp leads
        have named := List.find?_some first
        exact List.mem_map.mpr ⟨entry, List.mem_of_find?_eq_some first, of_decide_eq_true named⟩
  · exact ⟨.nil, fun name => iff_of_false nofun nofun⟩

private theorem exists_names (located : files.locate files.here path true = .ok id)
    (directory : files.isDirectory id = true) : ∃ names : List String,
      filePaths files path = names.map (inDirectory path) ∧ names.Pairwise (· < ·) ∧
        ∀ name, name ∈ names ↔ Names files id name := by
  obtain ⟨ordered, complete⟩ := pairwise_names files id
  refine ⟨((files.entries id).map Prod.fst).filter isWhitelistName, ?_, ordered.filter _, ?_⟩
  · rw [filePaths, located]
    simp only [directory, if_true]
  · intro name
    rw [List.mem_filter, complete, isWhitelistName_iff, Names]

private theorem filePaths_of_file (located : files.locate files.here path true = .ok id)
    (single : files.isDirectory id = false) : filePaths files path = [path] := by
  rw [filePaths, located]
  simp only [single, Bool.false_eq_true, if_false]

/-- A name that is nothing but the extension is not that of a whitelist. -/
example : filePaths (((Files.bare.withFile "/w/b.json" []).withFile "/w/a.json" []).withFile
    "/w/.json" []) "/w" = ["/w/a.json", "/w/b.json"] := by
  decide +kernel

end Paths

/-! ### Loading -/

/-- What is loaded from a path. -/
structure LoadingRule (files : Files) (path : String) : Prop where
  missing : files.has path = false → load files path = .error (.missing path)
  /-- The files of a directory are those that are named like whitelists, in the order of their
  names. -/
  directory : ∀ id, files.locate files.here path true = .ok id → files.isDirectory id = true →
    ∃ names : List String, filePaths files path = names.map (inDirectory path) ∧
      names.Pairwise (· < ·) ∧ ∀ name, name ∈ names ↔ Names files id name
  file : ∀ id, files.locate files.here path true = .ok id → files.isDirectory id = false →
    filePaths files path = [path]
  ok_iff : files.has path = true → ∀ catalog, load files path = .ok catalog ↔
    ∃ lists, List.Forall₂ (IsWhitelist files) (filePaths files path) lists ∧ lists.flatten ≠ [] ∧
      catalog.hints = lists.flatten
  error_iff : files.has path = true → ∀ fault, load files path = .error fault ↔
    (∃ before file after, filePaths files path = before ++ file :: after ∧
      (∀ earlier ∈ before, ∃ entries, IsWhitelist files earlier entries) ∧
        Offends files file fault) ∨
    (∀ file ∈ filePaths files path, IsWhitelist files file []) ∧ fault = .empty path
  indexed : ∀ catalog, load files path = .ok catalog → catalog.Indexed
  /-- A single file is loaded like the only whitelist of a directory, whatever its name is. -/
  single : ∀ id, files.locate files.here path true = .ok id → files.isDirectory id = false →
    ∀ (other : Files) (directory name : String) (place : NodeId),
      other.locate other.here directory true = .ok place → other.isDirectory place = true →
        (∀ listed, Names other place listed ↔ listed = name) →
          other.readText (inDirectory directory name) = files.readText path →
            load files path = (load other directory).mapError (LoadFault.naming · path)

section Loading

variable {files other : Files} {path directory name : String} {id place : NodeId}
  {fault : LoadFault} {catalog : Catalog}

private theorem load_of_missing (none : files.has path = false) :
    load files path = .error (.missing path) := by
  rw [load, none]
  rfl

/-- Files that are read one after another push the entries of all of them, in order. -/
theorem foldlM_withFile (files : Files) (catalog : Catalog) (paths : List String) :
    paths.foldlM (withFile files) catalog =
      paths.mapM (fileEntries files) >>= fun lists => .ok (lists.flatten.foldl push catalog) := by
  induction paths generalizing catalog with
  | nil => rfl
  | cons path rest ih =>
      rw [List.foldlM_cons, List.mapM_cons, withFile]
      cases fileEntries files path with
      | error fault => rfl
      | ok entries =>
          change rest.foldlM (withFile files) (entries.foldl push catalog) = _
          rw [ih]
          cases rest.mapM (fileEntries files) with
          | error fault => rfl
          | ok lists => exact congrArg Except.ok List.foldl_append.symm

/-- A catalog that is loaded holds the entries of its files, enumerated. -/
theorem load_of_has (found : files.has path = true) : load files path =
    (filePaths files path).mapM (fileEntries files) >>= fun lists =>
      if lists.flatten.isEmpty then .error (.empty path) else .ok (ofHints lists.flatten) := by
  rw [load, found]
  change (filePaths files path).foldlM (withFile files) .empty >>= _ = _
  rw [foldlM_withFile]
  cases (filePaths files path).mapM (fileEntries files) with
  | error fault => rfl
  | ok lists =>
      have none : (ofHints lists.flatten).entries.isEmpty = lists.flatten.isEmpty := by
        rw [Bool.eq_iff_iff, List.isEmpty_iff, List.isEmpty_iff, entries_eq_nil_iff, hints_ofHints]
      change (if (lists.flatten.foldl push empty).entries.isEmpty then _ else _) = ite _ _ _
      rw [foldl_push_empty, none]

private theorem load_eq_ok_iff (found : files.has path = true) : load files path = .ok catalog ↔
    ∃ lists, List.Forall₂ (IsWhitelist files) (filePaths files path) lists ∧ lists.flatten ≠ [] ∧
      catalog.hints = lists.flatten := by
  simp only [load_of_has found, bind_eq_ok_iff, mapM_eq_ok_iff, fileEntries_eq_ok_iff]
  refine exists_congr fun lists => and_congr_right fun _ => ?_
  split
  · next none => exact iff_of_false nofun fun some => some.1 (List.isEmpty_iff.mp none)
  · next some =>
      have entries : lists.flatten ≠ [] := fun none => some (List.isEmpty_iff.mpr none)
      rw [Except.ok.injEq, and_iff_right entries]
      constructor
      · rintro rfl
        exact hints_ofHints _
      · intro hints
        exact eq_of_hints_eq ((hints_ofHints _).trans hints.symm)

private theorem load_eq_error_iff (found : files.has path = true) : load files path = .error fault ↔
    (∃ before file after, filePaths files path = before ++ file :: after ∧
      (∀ earlier ∈ before, ∃ entries, IsWhitelist files earlier entries) ∧
        Offends files file fault) ∨
    (∀ file ∈ filePaths files path, IsWhitelist files file []) ∧ fault = .empty path := by
  rw [load_of_has found, bind_eq_error_iff, mapM_eq_error_iff]
  simp only [fileEntries_eq_ok_iff, fileEntries_eq_error_iff, mapM_eq_ok_iff]
  rw [← exists_flatten_eq_nil_iff]
  refine or_congr_right ⟨?_, ?_⟩
  · rintro ⟨lists, each, fails⟩
    split at fails
    · next none =>
        cases fails
        exact ⟨⟨lists, each, List.isEmpty_iff.mp none⟩, rfl⟩
    · cases fails
  · rintro ⟨⟨lists, each, none⟩, rfl⟩
    exact ⟨lists, each, if_pos (List.isEmpty_iff.mpr none)⟩

/-- A directory that holds one whitelist is loaded as that one is. -/
theorem load_single (located : files.locate files.here path true = .ok id)
    (single : files.isDirectory id = false)
    (placed : other.locate other.here directory true = .ok place)
    (isDirectory : other.isDirectory place = true)
    (only : ∀ listed, Names other place listed ↔ listed = name)
    (same : other.readText (inDirectory directory name) = files.readText path) :
    load files path = (load other directory).mapError (LoadFault.naming · path) := by
  obtain ⟨names, paths, ordered, complete⟩ := exists_names placed isDirectory
  have alone : names = [name] := by
    have distinct : names.Nodup := by
      refine ordered.imp ?_
      rintro left _ before rfl
      exact String.lt_irrefl left before
    rw [← List.perm_singleton, List.perm_ext_iff_of_nodup distinct (List.pairwise_singleton _ _)]
    intro listed
    rw [complete, only, List.mem_singleton]
  have found : files.has path = true := by rw [Files.has, located]; rfl
  have otherFound : other.has directory = true := by rw [Files.has, placed]; rfl
  rw [alone] at paths
  rw [load_of_has found, load_of_has otherFound, filePaths_of_file located single, paths,
    List.map_singleton, List.mapM_cons, List.mapM_cons, fileEntries_naming same]
  cases fileEntries other (inDirectory directory name) with
  | error fault => rfl
  | ok entries =>
      change ite _ _ _ = (ite _ _ _ : Except LoadFault Catalog).mapError _
      split
      · rfl
      · rfl

end Loading

/-- The text of a whitelist whose entries have one line each. -/
def whitelistText (entries : List String) : String :=
  "\x7b\"allowed_reference_expressions_for_hint\":[" ++
    String.intercalate "," (entries.map fun line => "\x7b\"hint_lines\":[\"" ++ line ++ "\"]\x7d") ++
      "]\x7d"

/-- A directory with two whitelists, which were made in the other order, and a third file. -/
def shelf : Files :=
  Files.bare
    |>.withFile "/lists/b.json" (Text.bytes (whitelistText ["ids.b"]))
    |>.withFile "/lists/a.json" (Text.bytes (whitelistText ["ids.a", "ids.c"]))
    |>.withFile "/lists/notes.txt" (Text.bytes "none")

/-- The same directory with a whitelist between the two whose second entry is blank. -/
def blankShelf : Files :=
  shelf.withFile "/lists/aa.json" (Text.bytes (whitelistText ["ids.d", " "]))

end HintFuzz.Catalog

import HintFuzz.Files.Basic
import Mathlib.Tactic.Set

/-!
# Appending to files

What is appended stands at the end of the file (`Files.Holds.appendAt`).  No path leads
anywhere else for it: where paths lead does not depend on the bytes of files
(`Files.SameTree.resolveFrom`), so a file that was written is found again.
-/

namespace HintFuzz.Files

/-- Two trees that differ in the bytes of files alone. -/
structure SameTree (files changed : Files) : Prop where
  here : changed.here = files.here
  content : ∀ id, changed.content? id = files.content? id ∨
    ∃ before after, files.content? id = some (.file before) ∧
      changed.content? id = some (.file after)

namespace SameTree

variable {files changed : Files} (same : SameTree files changed)
include same

/-- What is a directory stays one. -/
theorem isDirectory (id : NodeId) : changed.isDirectory id = files.isDirectory id := by
  rcases same.content id with equal | ⟨before, after, old, new⟩
  · simp only [Files.isDirectory, equal]
  · simp only [Files.isDirectory, old, new]

/-- Every node keeps its place. -/
theorem parent (id : NodeId) : changed.parent id = files.parent id := by
  rcases same.content id with equal | ⟨before, after, old, new⟩
  · simp only [Files.parent, equal]
  · simp only [Files.parent, old, new]

/-- Every directory keeps its entries. -/
theorem child? (id : NodeId) (name : String) : changed.child? id name = files.child? id name := by
  rcases same.content id with equal | ⟨before, after, old, new⟩
  · simp only [Files.child?, equal]
  · simp only [Files.child?, old, new]

/-- Names that are followed one by one lead where they led. -/
theorem follow (through : Bool) (onLink : NodeId → List String → Except Fault Target)
    (id : NodeId) (names : List String) :
    changed.follow through onLink id names = files.follow through onLink id names := by
  induction names generalizing id with
  | nil => rfl
  | cons name rest ih =>
      simp only [Files.follow, same.isDirectory, same.parent, same.child?, ih]
      cases files.child? id name with
      | none => rfl
      | some next =>
          rcases same.content next with equal | ⟨before, after, old, new⟩
          · simp only [equal]
          · simp only [old, new]

/-- So they do through links. -/
theorem walk (through : Bool) (links : Nat) (id : NodeId) (names : List String) :
    changed.walk through links id names = files.walk through links id names := by
  induction links generalizing id names with
  | zero => exact same.follow through _ id names
  | succ links ih =>
      have onLinks : changed.walk through links = files.walk through links :=
        funext fun id => funext (ih id)
      rw [Files.walk, Files.walk, onLinks]
      exact same.follow through _ id names

/-- Every path leads where it led. -/
theorem resolveFrom (start : NodeId) (path : String) (through : Bool) :
    changed.resolveFrom start path through = files.resolveFrom start path through := by
  simp only [Files.resolveFrom, same.walk]

end SameTree

private theorem content?_change (files : Files) (id other : NodeId) (f : Node → Node) :
    (files.change id f).content? other =
      if id = other then (files.node? id).map fun node => (f node).content
      else files.content? other := by
  simp only [content?, node?, change, Array.getElem?_modify]
  split
  · next same =>
    rw [same, Option.map_map]
    rfl
  · rfl

/-- A path leads to a file with some bytes. -/
structure Holds (files : Files) (path : String) (id : NodeId) (bytes : Bytes) : Prop where
  /-- The path does not end like that of a directory. -/
  named : endsInDirectory path = false
  found : files.resolveFrom files.here path true = .ok (.found id)
  content : ∃ octets, files.content? id = some (.file octets) ∧ octets.data.toList = bytes

namespace Holds

variable {files : Files} {path : String} {id : NodeId} {bytes : Bytes}
  (holds : files.Holds path id bytes)
include holds

/-- The path is located where the file stands. -/
theorem locate : files.locate files.here path true = .ok id := by
  rw [Files.locate, holds.found]
  rfl

/-- The file there has the bytes. -/
theorem bytesAt : files.bytesAt id = .ok bytes := by
  obtain ⟨octets, content, rfl⟩ := holds.content
  rw [Files.bytesAt, content]
  rfl

/-- Reading the path gives them. -/
theorem read : files.read path = .ok bytes := by
  rw [Files.read, holds.locate]
  exact holds.bytesAt

/-- A file that is there is opened as it is. -/
theorem openForWriting : files.openForWriting path = .ok (id, files) := by
  obtain ⟨octets, content, -⟩ := holds.content
  have noDirectory : files.isDirectory id = false := by simp only [isDirectory, content]
  simp only [Files.openForWriting, provideFile, holds.named, holds.found, Bool.false_eq_true,
    false_and, if_false]
  simp only [bind, Except.bind, noDirectory, Bool.false_eq_true, if_false]
  rfl

/-- What is appended to a file stands at its end, and its path leads there still. -/
theorem appendAt (more : Bytes) :
    ∃ changed, files.appendAt id more = .ok changed ∧ changed.Holds path id (bytes ++ more) := by
  obtain ⟨octets, content, rfl⟩ := holds.content
  obtain ⟨node, found, isFile⟩ := Option.map_eq_some_iff.mp content
  rw [Files.appendAt, writeAt, content]
  refine ⟨_, rfl, ?_⟩
  set changed := files.change id _ with isChanged
  have written : changed.content? id = some (.file (octets ++ ⟨more.toArray⟩)) := by
    rw [isChanged, content?_change, if_pos rfl, found]
    simp only [Option.map_some, isFile]
  have same : SameTree files changed := by
    refine ⟨rfl, fun other => ?_⟩
    by_cases here : id = other
    · exact .inr ⟨octets, _, here ▸ content, here ▸ written⟩
    · exact .inl (by rw [isChanged, content?_change, if_neg here])
  refine ⟨holds.named, ?_, _, written, ?_⟩
  · rw [same.resolveFrom, same.here, holds.found]
  · rw [ByteArray.toList_data_append]

end Holds

end HintFuzz.Files

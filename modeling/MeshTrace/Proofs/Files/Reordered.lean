import MeshTrace.Files.Saving
import MeshTrace.Files.Tree

namespace MeshTrace.FileTree

/-- The same files and directories, of which the directories may be enumerated in another order. -/
structure Reordered (t t' : FileTree) : Prop where
  files : t.files = t'.files
  directories : t.directories.Perm t'.directories

/-- Either both fail in the same way, or what comes of both is related. -/
def Both {β : Type} (R : β → β → Prop) : Except FileError β → Except FileError β → Prop
  | .ok b, .ok b' => R b b'
  | .error e, .error e' => e = e'
  | _, _ => False

namespace Reordered

variable {t t' : FileTree} (same : t.Reordered t')

include same

theorem hasDirectory (l : Location) : t.hasDirectory l = t'.hasDirectory l := by
  rw [FileTree.hasDirectory, FileTree.hasDirectory, Bool.eq_iff_iff]
  simp only [Bool.or_eq_true, List.contains_iff_mem, same.directories.mem_iff]

theorem file? (l : Location) : t.file? l = t'.file? l := by
  rw [FileTree.file?, FileTree.file?, same.files]

theorem addDirectory (l : Location) : (t.addDirectory l).Reordered (t'.addDirectory l) where
  files := same.files
  directories := by
    simp only [FileTree.addDirectory, same.hasDirectory]
    exact same.directories.append_right _

theorem addFile (l : Location) (content : ByteArray) : (t.addFile l content).Reordered (t'.addFile l content) where
  files := by
    have files := (same.addDirectory l.dropLast).files
    simp only [FileTree.addFile, files]
  directories := (same.addDirectory l.dropLast).directories

theorem walk? (l : Location) (steps : List String) : t.walk? l steps = t'.walk? l steps := by
  induction steps generalizing l with
  | nil => rfl
  | cons step steps ih => simp only [FileTree.walk?, same.hasDirectory, ih]

/-- A path leads to the same place, whatever the order in directories. -/
theorem locate? (path : String) : t.locate? path = t'.locate? path := by
  simp only [FileTree.locate?, same.walk?, same.hasDirectory]

/-- A file reads the same, whatever the order in directories. -/
theorem read (path : String) : t.read path = t'.read path := by
  simp only [FileTree.read, same.locate?, same.file?, same.hasDirectory]

/-- The subdirectories that are listed are the same, up to their order. -/
theorem subdirectories (path : String) : Both List.Perm (t.subdirectories path) (t'.subdirectories path) := by
  have place : (t.locate? path).filter t.hasDirectory = (t'.locate? path).filter t'.hasDirectory := by
    rw [same.locate?, funext same.hasDirectory]
  rw [FileTree.subdirectories, FileTree.subdirectories, place]
  split
  · exact rfl
  · exact (same.directories.filter _).map _

theorem makeSteps? (l : Location) (steps : List String) :
    Option.Rel Reordered (t.makeSteps? l steps) (t'.makeSteps? l steps) := by
  induction steps generalizing t t' l with
  | nil => exact .some same
  | cons step steps ih =>
    simp only [FileTree.makeSteps?, same.file?]
    split
    · exact ih same _
    · split
      · exact .none
      · exact ih (same.addDirectory _) _

theorem makeDirectory (path : String) : Both Reordered (t.makeDirectory path) (t'.makeDirectory path) := by
  unfold FileTree.makeDirectory
  split
  · exact rfl
  · have made := same.makeSteps? [] (steps path)
    generalize t.makeSteps? [] (steps path) = first, t'.makeSteps? [] (steps path) = second at made ⊢
    cases made with
    | some related => exact related
    | none => rfl

theorem write (path : String) (text : List Char) : Both Reordered (t.write path text) (t'.write path text) := by
  simp only [FileTree.write, same.locate?, same.hasDirectory]
  split
  · exact rfl
  · split
    · exact rfl
    · exact same.addFile _ _

end Reordered

end MeshTrace.FileTree

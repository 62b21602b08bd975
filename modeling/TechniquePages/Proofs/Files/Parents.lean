import TechniquePages.Proofs.Files.Locating
import Mathlib.Logic.Relation

/-!
# Directories above a path

The paths above a path are its parent, the parent's parent and so on.  Where a path
is found, they are directories, whatever their parts are.

Making the directories above a path makes nothing else: every directory that appears
is found by a path above.  Nothing is said here about what stands in the way, which
takes paths without parts that lead up.
-/

namespace TechniquePages

/-- A path that is reached from another one by going to the parent, once or more. -/
def FilePath.IsAbove (higher path : FilePath) : Prop :=
  Relation.TransGen (fun lower upper => FilePath.parent? lower = some upper) path higher

namespace FileTree

open FilePath (IsAbove)

/-! ## What stands above a path -/

theorem exists_locate_of_isDirectory
    {tree : FileTree}
    {path : FilePath}
    (directory : tree.isDirectory path = true) :
    ∃ place, tree.locate path = .ok place ∧ tree.hasDirectory place := by
  rw [isDirectory] at directory
  cases located : tree.locate path with
  | error fault => simp [located] at directory
  | ok place =>
    rw [located] at directory
    exact ⟨place, rfl, directory⟩

/-- All paths above one that is found are directories, but for the empty one. -/
theorem isDirectory_of_isAbove
    {tree : FileTree}
    {path higher : FilePath}
    {place : Place}
    (located : tree.locate path = .ok place)
    (above : IsAbove higher path)
    (nonempty : higher ≠ []) :
    tree.isDirectory higher = true := by
  induction above with
  | single step => exact isDirectory_of_parent? located step nonempty
  | @tail middle highest earlier step hypothesis =>
    have filled : middle ≠ [] := by
      rintro rfl
      cases step
    rcases exists_locate_of_isDirectory (hypothesis filled) with ⟨found, reached, -⟩
    exact isDirectory_of_parent? reached step nonempty

/-- The place is found by the path or by one above it. -/
def IsOnWay (tree : FileTree) (path : FilePath) (place : Place) : Prop :=
  ∃ higher, (higher = path ∨ IsAbove higher path) ∧ tree.locate higher = .ok place

/-- The place is found by a path above. -/
def IsPlaceAbove (tree : FileTree) (path : FilePath) (place : Place) : Prop :=
  ∃ higher, IsAbove higher path ∧ tree.locate higher = .ok place

theorem IsOnWay.isPlaceAbove
    {tree : FileTree}
    {path parent : FilePath}
    {place : Place}
    (onWay : tree.IsOnWay parent place)
    (step : path.parent? = some parent) :
    tree.IsPlaceAbove path place := by
  rcases onWay with ⟨higher, same | above, located⟩
  · exact ⟨higher, same ▸ .single step, located⟩
  · exact ⟨higher, .head step above, located⟩

theorem IsPlaceAbove.isOnWay
    {tree : FileTree}
    {path : FilePath}
    {place : Place}
    (above : tree.IsPlaceAbove path place) :
    tree.IsOnWay path place := by
  rcases above with ⟨higher, above, located⟩
  exact ⟨higher, Or.inr above, located⟩

section Grown

variable {made written : Place → Prop} {before after : FileTree} {path : FilePath} {place : Place}

theorem Grown.isOnWay
    (grown : Grown made written before after)
    (onWay : before.IsOnWay path place) :
    after.IsOnWay path place := by
  rcases onWay with ⟨higher, above, located⟩
  exact ⟨higher, above, grown.locate located⟩

theorem Grown.isPlaceAbove
    (grown : Grown made written before after)
    (above : before.IsPlaceAbove path place) :
    after.IsPlaceAbove path place := by
  rcases above with ⟨higher, above, located⟩
  exact ⟨higher, above, grown.locate located⟩

end Grown

/-! ## Making directories -/

theorem grown_makeDirectory
    {tree made : FileTree}
    {path : FilePath}
    (done : tree.makeDirectory path = .ok made) :
    Grown (made.IsOnWay path) (fun _ => False) tree made := by
  rw [makeDirectory] at done
  cases located : tree.locate path with
  | error fault => simp [located] at done
  | ok place =>
    cases found : tree.entry? place with
    | some entry => simp [located, found] at done
    | none =>
      simp only [located, found, Except.ok.injEq] at done
      subst done
      have grown := grown_set_directory found
      refine grown.mono ?_ fun _ inside => inside
      rintro _ rfl
      exact ⟨path, Or.inl rfl, grown.locate located⟩

/-- Directories are made on the way only, and no file is written, whatever comes of it. -/
theorem grown_makeDirectoriesWithin
    (tree : FileTree)
    (fuel : Nat)
    (path : FilePath) :
    Grown ((tree.makeDirectoriesWithin fuel path).2.IsOnWay path) (fun _ => False) tree
      (tree.makeDirectoriesWithin fuel path).2 := by
  induction fuel generalizing path with
  | zero => exact Grown.refl tree
  | succ fuel hypothesis =>
    rw [makeDirectoriesWithin]
    split
    · exact Grown.refl tree
    · split
      · rename_i made done
        exact grown_makeDirectory done
      · split
        · exact Grown.refl tree
        · rename_i parent above
          have parents := hypothesis parent
          split
          · rename_i fault left result
            rw [result] at parents
            exact parents.mono (fun _ onWay => (onWay.isPlaceAbove above).isOnWay) fun _ => id
          · rename_i left result
            rw [result] at parents
            have higher : Grown (left.IsOnWay path) (fun _ => False) tree left :=
              parents.mono (fun _ onWay => (onWay.isPlaceAbove above).isOnWay) fun _ => id
            split
            · rename_i made done
              have last := grown_makeDirectory done
              exact (higher.mono (fun _ => last.isOnWay) fun _ => id).trans last
            · split <;> exact higher
      · split <;> exact Grown.refl tree

/-- What comes of the directories above a path. -/
def parentsMade (tree : FileTree) (path : FilePath) : Except FileFault Unit × FileTree :=
  match path.parent? with
  | none => (.ok (), tree)
  | some parent => if parent.isEmpty then (.ok (), tree) else tree.makeDirectories parent

theorem grown_parentsMade
    (tree : FileTree)
    (path : FilePath) :
    Grown ((tree.parentsMade path).2.IsPlaceAbove path) (fun _ => False) tree
      (tree.parentsMade path).2 := by
  rw [parentsMade]
  split
  · exact Grown.refl tree
  · rename_i parent above
    split
    · exact Grown.refl tree
    · have grown := tree.grown_makeDirectoriesWithin (parent.length + 1) parent
      exact grown.mono (fun _ onWay => onWay.isPlaceAbove above) fun _ => id

end FileTree

end TechniquePages

import ClientGen.FileTree.Replacement
import Mathlib.Data.List.Infix

/-!
# Replacing files

A replacement is carried out or leaves no trace but new directories above its target. Whatever ends
it early, and at whatever stage, no file of the tree changes and the temporary file is gone. If it
is carried out, the target holds the new content, with the permissions that it had or those of a new
file, and nothing else changes but new directories above it.
-/

/-!
## Making directories

Making the directories on a path keeps all that stands in a tree. It adds nothing but directories,
and those only where nothing stood and where the path leads through. The same holds when it is
refused half way.
-/

namespace ClientGen.FileTree

/-! ## Places on a way -/

/-- A tree that differs from another one only by new directories in some places. -/
def Grown (places : List Place) (before after : FileTree) : Prop :=
  ∀ place, after.find? place = before.find? place ∨
    place ∈ places ∧ before.find? place = none ∧ after.find? place = some .directory

namespace Grown

variable {places more : List Place} {before middle after : FileTree}

theorem refl (places : List Place) (tree : FileTree) : Grown places tree tree :=
  fun _ => Or.inl rfl

theorem mono (grown : Grown places before after) (subset : places ⊆ more) :
    Grown more before after := by
  intro place
  rcases grown place with same | ⟨member, vacant, made⟩
  · exact Or.inl same
  · exact Or.inr ⟨subset member, vacant, made⟩

theorem trans (first : Grown places before middle) (second : Grown places middle after) :
    Grown places before after := by
  intro place
  rcases second place with same | ⟨member, vacant, made⟩
  · rw [same]
    exact first place
  · rcases first place with kept | ⟨_, _, already⟩
    · exact Or.inr ⟨member, kept ▸ vacant, made⟩
    · rw [vacant] at already
      cases already

/-- A directory that is put where nothing stands. -/
theorem put {place : Place} (member : place ∈ places) (vacant : before.find? place = none) :
    Grown places before (before.put place .directory) := by
  have below : place ≠ [] := by
    rintro rfl
    rw [find?_root] at vacant
    cases vacant
  intro other
  rw [find?_put before below]
  by_cases same : other = place
  · subst same
    exact Or.inr ⟨member, vacant, if_pos rfl⟩
  · exact Or.inl (if_neg same)

end Grown

/-- The places above a place. -/
def ancestors (place : Place) : List Place := place.dropLast.inits

variable {tree : FileTree} {conditions : Conditions} {temporary target place : Place} {mode : Nat}
  {octets : List UInt8} {obstacle : Obstacle}

/-- A tree that differs from another one at no place but one. -/
def SameBut (place : Place) (before after : FileTree) : Prop :=
  ∀ other, other ≠ place → after.find? other = before.find? other

theorem SameBut.put (tree : FileTree) (below : place ≠ []) (entry : Entry) :
    SameBut place tree (tree.put place entry) := by
  intro other different
  rw [find?_put tree below, if_neg different]

theorem SameBut.trans {before middle after : FileTree} (first : SameBut place before middle)
    (second : SameBut place middle after) : SameBut place before after :=
  fun other different => (second other different).trans (first other different)

/-- A tree in which a file has its new content, and nothing else is new but directories in some
places. -/
structure Placed (places : List Place) (place : Place) (mode : Nat) (octets : List UInt8)
    (before after : FileTree) : Prop where
  /-- No directory was there. -/
  free : before.find? place ≠ some .directory
  /-- The file is there. -/
  placed : after.find? place = some (.file mode octets)
  /-- Nothing else changes but for new directories. -/
  others : ∀ other, other ≠ place → after.find? other = before.find? other ∨
    other ∈ places ∧ before.find? other = none ∧ after.find? other = some .directory

theorem Placed.mono {places more : List Place} {before after : FileTree}
    (done : Placed places place mode octets before after) (subset : places ⊆ more) :
    Placed more place mode octets before after where
  free := done.free
  placed := done.placed
  others other different :=
    (done.others other different).imp_right fun added => ⟨subset added.1, added.2⟩

end ClientGen.FileTree

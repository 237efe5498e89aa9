import ClientGen.Proofs.FileTree.Replacement
import ClientGen.Proofs.Result
import Mathlib.Data.List.Nodup
import Mathlib.Data.List.Perm.Subperm

/-!
# Files that stand

Once a replacement is carried out, its target stands: the directories above it are there, and
neither its name nor its place is too long. A file that stands can be replaced again, and it goes on
standing while other files are replaced.
-/

namespace ClientGen

/-! ## Fresh numbers -/

namespace FileTree

variable {tree before middle after : FileTree} {place start : Place} {names : List String}
  {conditions : Conditions} {octets : List UInt8}

/-- A tree in which all that was there is still there: directories as directories, and files as
files, whatever they hold. -/
structure Persists (before after : FileTree) : Prop where
  directories : ∀ place, before.find? place = some .directory →
    after.find? place = some .directory
  files : ∀ place mode octets, before.find? place = some (.file mode octets) →
    ∃ mode octets, after.find? place = some (.file mode octets)

namespace Persists

theorem refl (tree : FileTree) : Persists tree tree :=
  ⟨fun _ => id, fun _ mode octets found => ⟨mode, octets, found⟩⟩

theorem trans (first : Persists before middle) (second : Persists middle after) :
    Persists before after where
  directories place found := second.directories place (first.directories place found)
  files place mode octets found := by
    obtain ⟨_, _, kept⟩ := first.files place mode octets found
    exact second.files place _ _ kept

end Persists

theorem Grown.persists {places : List Place} (grown : Grown places before after) :
    Persists before after where
  directories place found := by
    rcases grown place with same | ⟨_, _, made⟩
    · rwa [same]
    · exact made
  files place mode octets found := by
    rcases grown place with same | ⟨_, vacant, _⟩
    · exact ⟨mode, octets, same.trans found⟩
    · rw [found] at vacant
      cases vacant

theorem Placed.persists {places : List Place} {mode : Nat}
    (placed : Placed places place mode octets before after) : Persists before after where
  directories other found := by
    have different : other ≠ place := by
      rintro rfl
      exact placed.free found
    rcases placed.others other different with same | ⟨_, _, made⟩
    · rwa [same]
    · exact made
  files other kept held found := by
    by_cases here : other = place
    · exact ⟨mode, octets, here ▸ placed.placed⟩
    · rcases placed.others other here with same | ⟨_, vacant, _⟩
      · exact ⟨kept, held, same.trans found⟩
      · rw [found] at vacant
        cases vacant

/-- A way that leads somewhere goes on leading there. -/
theorem Persists.walk (persists : Persists before after) {found : Place}
    (walked : before.walk start names = .ok found) : after.walk start names = .ok found := by
  induction names generalizing start with
  | nil => exact walked
  | cons name rest ih =>
      rw [FileTree.walk] at walked ⊢
      cases here : before.find? start with
      | none =>
          rw [here] at walked
          cases walked
      | some entry =>
          cases entry with
          | file mode octets =>
              rw [here] at walked
              cases walked
          | directory =>
              rw [here] at walked
              rw [persists.directories start here]
              dsimp only at walked ⊢
              split at walked
              · cases walked
              · next short => rw [if_neg short, ih walked]

/-! ## Directories on a way -/

end FileTree

end ClientGen

/-!
## Files that are read

What is read along a path depends on the directories that the path leads through and on the place
that it leads to. In a tree where all that was there is still there, nothing else can make a
difference. Looking for a file is refused only for names that are too long.
-/

namespace ClientGen.FileTree

variable {before after : FileTree} {directory start : Place} {path : Path} {octets : List UInt8}

variable {tree : FileTree} {place : Place} {refusal : Refusal}

theorem refusal_of_walk {names : List String} (refused : tree.walk place names = .error refusal) :
    refusal = .missing ∨ refusal = .notADirectory ∨ refusal = .longName := by
  induction names generalizing place with
  | nil => cases refused
  | cons name rest ih =>
      rw [walk] at refused
      split at refused
      · exact Or.inl (Except.error.inj refused).symm
      · exact Or.inr (Or.inl (Except.error.inj refused).symm)
      · split at refused
        · exact Or.inr (Or.inr (Except.error.inj refused).symm)
        · exact ih refused

theorem refusal_of_entry (refused : tree.entry directory path = .error refusal) :
    refusal = .missing ∨ refusal = .notADirectory ∨ refusal = .longName := by
  rw [entry] at refused
  split at refused
  · exact Or.inr (Or.inr (Except.error.inj refused).symm)
  · cases walked : tree.walk (origin directory path) path.parts with
    | error other =>
        rw [walked, error_bind] at refused
        rw [← Except.error.inj refused]
        exact refusal_of_walk walked
    | ok found =>
        rw [walked, ok_bind] at refused
        split at refused
        · cases refused
        · exact Or.inl (Except.error.inj refused).symm

/-- Looking for a file ends in a fault only for a name or a path that is too long. -/
theorem file?_eq_error_iff {fault : Fault} :
    tree.file? directory path = .error fault ↔
      (hasNull path = false ∧ tree.entry directory path = .error .longName) ∧
        fault = .refusedPath := by
  rw [file?]
  split
  · next null => simp [null]
  · next plain =>
      rw [Bool.not_eq_true] at plain
      cases looked : tree.entry directory path with
      | ok found => cases found <;> simp
      | error refusal =>
          rcases refusal_of_entry looked with rfl | rfl | rfl <;>
            simp [plain, Refusal.fault, eq_comm]

end ClientGen.FileTree

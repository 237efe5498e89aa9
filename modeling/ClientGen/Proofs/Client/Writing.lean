import ClientGen.Client.Files
import ClientGen.Proofs.FileTree.Replacement
import ClientGen.Proofs.FileTree.Standing
import ClientGen.Proofs.Path
import ClientGen.Proofs.Result

/-!
# Written files

Files are written one after the other until one of them meets an obstacle. If none does, every
target holds what the last file with that target holds, and keeps its permissions if it had any. If
one does, the files before it are written and the tree is otherwise as it was but for directories
above the target of that file. No temporary file is left in either case, and nothing else changes
but new directories above targets. Files that were written once can be written again, and that
changes nothing.
-/

namespace ClientGen.Client

open FileTree

variable {directory : Path} {conditions : Conditions} {before : FileTree} {files : List File}

/-! ## One file -/

/-- The place that a file goes to. -/
def goal (directory : Path) (file : File) : Place := (target directory file.path).parts

/-- The outcome of writing more files once a file is written. -/
def Written.after (first : Path) (others : Written) : Written :=
  ⟨others.tree, first :: others.announced, others.result.map (first :: ·)⟩

/-- The last of some files that goes to a place. -/
def lastAt? (directory : Path) (files : List File) (place : Place) : Option File :=
  (files.filter fun file => goal directory file = place).getLast?

theorem lastAt?_cons_of_eq (file : File) (rest : List File) :
    lastAt? directory (file :: rest) (goal directory file) =
      some ((lastAt? directory rest (goal directory file)).getD file) := by
  simp only [lastAt?, List.filter_cons, decide_true, if_true, List.getLast?_cons]

theorem lastAt?_cons_of_ne {place : Place} {file : File} (different : place ≠ goal directory file)
    (rest : List File) : lastAt? directory (file :: rest) place = lastAt? directory rest place := by
  rw [lastAt?, List.filter_cons_of_neg (by simpa using Ne.symm different)]
  rfl

/-- The permissions of a file that is written where an entry may have stood: those of the file that
it replaces, or those of a new file. It never replaces a directory. -/
def ModeAfter (umask : Nat) : Option Entry → Nat → Prop
  | none, mode => mode = newMode umask
  | some (.file kept _), mode => mode = kept
  | some .directory, _ => False

theorem modeAfter_modeFor {place : Place} (umask : Nat)
    (free : before.find? place ≠ some .directory) :
    ModeAfter umask (before.find? place) (before.modeFor umask place) := by
  rw [modeFor]
  cases found : before.find? place with
  | none => rfl
  | some entry =>
      cases entry with
      | directory => exact absurd found free
      | file kept octets => rfl

/-- A tree in which files are written below a directory. -/
structure HoldsFiles (umask : Nat) (directory : Path) (files : List File)
    (before after : FileTree) : Prop where
  /-- A target holds what the last file that goes there holds. -/
  targets : ∀ place file, lastAt? directory files place = some file →
    ∃ mode, ModeAfter umask (before.find? place) mode ∧
      after.find? place = some (.file mode file.octets)
  /-- Nothing else changes but new directories above targets. -/
  others : ∀ place, lastAt? directory files place = none →
    after.find? place = before.find? place ∨
      (∃ file ∈ files, place ∈ ancestors (goal directory file)) ∧
        before.find? place = none ∧ after.find? place = some .directory

/-- Once a file is written, writing the others keeps its permissions and what it holds, unless one
of them goes to the same place. -/
theorem HoldsFiles.cons {umask : Nat} {file : File} {rest : List File} {changed after : FileTree}
    (placed : Placed (ancestors (goal directory file)) (goal directory file)
      (before.modeFor umask (goal directory file)) file.octets before changed)
    (later : HoldsFiles umask directory rest changed after) :
    HoldsFiles umask directory (file :: rest) before after where
  targets place found last := by
    by_cases here : place = goal directory file
    · subst here
      have mode := modeAfter_modeFor umask placed.free
      rw [lastAt?_cons_of_eq] at last
      cases again : lastAt? directory rest (goal directory file) with
      | none =>
          rw [again, Option.getD_none] at last
          obtain rfl := Option.some.inj last
          refine ⟨_, mode, ?_⟩
          rcases later.others _ again with kept | ⟨_, vacant, _⟩
          · rw [kept, placed.placed]
          · rw [placed.placed] at vacant
            cases vacant
      | some other =>
          rw [again, Option.getD_some] at last
          obtain rfl := Option.some.inj last
          obtain ⟨kept, keeps, held⟩ := later.targets _ _ again
          rw [placed.placed] at keeps
          have same : kept = _ := keeps
          exact ⟨_, mode, same ▸ held⟩
    · rw [lastAt?_cons_of_ne here] at last
      obtain ⟨mode, keeps, held⟩ := later.targets place found last
      rcases placed.others place here with same | ⟨_, _, made⟩
      · exact ⟨mode, same ▸ keeps, held⟩
      · rw [made] at keeps
        cases keeps
  others place untouched := by
    have here : place ≠ goal directory file := by
      rintro rfl
      rw [lastAt?_cons_of_eq] at untouched
      cases untouched
    rw [lastAt?_cons_of_ne here] at untouched
    have above : place ∈ ancestors (goal directory file) →
        ∃ other ∈ file :: rest, place ∈ ancestors (goal directory other) :=
      fun member => ⟨file, List.mem_cons_self, member⟩
    rcases later.others place untouched with kept | ⟨⟨other, inside, member⟩, vacant, made⟩
    · rw [kept]
      exact (placed.others place here).imp_right fun added => ⟨above added.1, added.2⟩
    · rcases placed.others place here with same | ⟨_, _, already⟩
      · exact Or.inr ⟨⟨other, List.mem_cons_of_mem _ inside, member⟩, same ▸ vacant, made⟩
      · rw [already] at vacant
        cases vacant

end ClientGen.Client

/-!
## Files that are written again

Files that were written once can be written again, and that changes nothing: each target keeps the
permissions that it got, and holds what the last file with that target holds, as it did before.
-/

namespace ClientGen.Client

open FileTree

variable {directory : Path} {conditions : Conditions} {before tree : FileTree} {file : File}
  {files rest : List File} {targets : List Path}

/-- Conditions without mishaps. -/
def Calm (conditions : Conditions) : Prop := ∀ number, conditions.mishaps number = none

theorem Calm.later (calm : Calm conditions) : Calm conditions.later :=
  fun number => calm (number + 1)

end ClientGen.Client

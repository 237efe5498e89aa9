import ClientGen.Proofs.Client.Writing
import ClientGen.Proofs.Result

/-!
# Obstacles to writing

Files that cannot be written are reported, as long as it is the file system that refuses them. What
is not reported is a path with a null character, which is noticed before anything is attempted, and
a mishap that is no refusal, such as content that has no octets. The tree alone never gives rise to
such a mishap.
-/

namespace ClientGen

namespace FileTree

variable {tree : FileTree} {conditions : Conditions} {place : Place} {octets : List UInt8}
  {obstacle : Obstacle}

/-! ## One replacement -/

/-- Where the obstacle to a replacement comes from: the file system refuses an access, or the mishap
of this replacement strikes. -/
def Conditions.Accounts (conditions : Conditions) (obstacle : Obstacle) : Prop :=
  (∃ refusal, obstacle = .refusal refusal) ∨
    ∃ mishap, conditions.mishaps 0 = some mishap ∧ mishap.obstacle = obstacle

theorem accounts_of_strike {stage : Stage} {mishap : Mishap}
    (struck : conditions.strike? stage = some mishap) : conditions.Accounts mishap.obstacle :=
  Or.inr ⟨mishap, (Option.filter_eq_some_iff.mp struck).1, rfl⟩

/-- A replacement that ends for a reason that can be accounted for, if it ends early. -/
def Accounted (conditions : Conditions) (replaced : Replaced) : Prop :=
  ∀ obstacle, replaced.obstacle = some obstacle → conditions.Accounts obstacle

theorem accounted_some {after : FileTree} (holds : conditions.Accounts obstacle) :
    Accounted conditions ⟨after, some obstacle⟩ := by
  rintro _ ⟨⟩
  exact holds

theorem accounted_ofChange (change : Change) : Accounted conditions (.ofChange change) := by
  intro obstacle ended
  obtain ⟨refusal, _, rfl⟩ := Option.map_eq_some_iff.mp ended
  exact Or.inl ⟨refusal, rfl⟩

theorem accounted_moveThrough (temporary target : Place) (mode : Nat) :
    Accounted conditions (tree.moveThrough conditions temporary target mode octets) := by
  rw [moveThrough]
  cases content : conditions.strike? .content with
  | some found => exact accounted_some (accounts_of_strike content)
  | none =>
      dsimp only
      cases permissions : conditions.strike? .permissions with
      | some found => exact accounted_some (accounts_of_strike permissions)
      | none =>
          dsimp only
          cases moving : conditions.strike? .renaming with
          | some found => exact accounted_some (accounts_of_strike moving)
          | none => exact accounted_ofChange _

theorem accounted_replaceThrough (temporary target : Place) (mode : Nat) :
    Accounted conditions (tree.replaceThrough conditions temporary target mode octets) := by
  have moved : Accounted conditions (tree.moveThrough conditions temporary target mode octets) :=
    accounted_moveThrough temporary target mode
  rw [replaceThrough]
  split
  · rintro _ ⟨⟩
  · next ended =>
      rw [ended] at moved
      exact accounted_some (moved _ rfl)

theorem accounted_replaceIn : Accounted conditions (tree.replaceIn conditions place octets) := by
  rw [replaceIn]
  split
  · next struck => exact accounted_some (accounts_of_strike struck)
  · split
    · exact accounted_some (Or.inl ⟨_, rfl⟩)
    · split
      · exact accounted_some (Or.inl ⟨_, rfl⟩)
      · split
        · next struck => exact accounted_some (accounts_of_strike struck)
        · exact accounted_replaceThrough _ _ _

theorem accounted_replace : Accounted conditions (tree.replace conditions place octets) := by
  rw [replace]
  split
  · next struck => exact accounted_some (accounts_of_strike struck)
  · split
    · exact accounted_some (Or.inl ⟨_, rfl⟩)
    · exact accounted_replaceIn

/-- What ends a replacement and is no refusal of the file system is the mishap of it. -/
theorem mishap_of_fault {fault : Fault}
    (ended : (tree.replace conditions place octets).obstacle = some (.fault fault)) :
    ∃ mishap, conditions.mishaps 0 = some mishap ∧ mishap.obstacle = .fault fault := by
  rcases accounted_replace _ ended with ⟨_, ⟨⟩⟩ | struck
  exact struck

/-- The conditions after some replacements. -/
def Conditions.after (conditions : Conditions) (count : Nat) : Conditions :=
  ⟨conditions.umask, fun number => conditions.mishaps (number + count)⟩

end FileTree

namespace Client

open FileTree

variable {directory : Path} {conditions : Conditions} {before : FileTree} {files : List File}
  {file : File}

/-! ## One file -/

/-- A file that ends the writing without being reported: its path has a null character, or a mishap
strikes that is no refusal of the file system. -/
def Escapes (directory : Path) (conditions : Conditions) (tree : FileTree) (file : File) : Prop :=
  hasNull (directory.append file.path) = true ∨
    ∃ mishap fault, conditions.mishaps 0 = some mishap ∧ mishap.obstacle = .fault fault ∧
      (tree.replace conditions (goal directory file) file.octets).obstacle = some (.fault fault)

/-- The first file escapes, or it is reported, or it is written and the others follow. -/
theorem writeFilesUnder_first_cases (directory : Path) (conditions : Conditions)
    (before : FileTree) (file : File) :
    (Escapes directory conditions before file ∧ ∃ fault : Fault, ∀ rest,
        (writeFilesUnder directory conditions before (file :: rest)).result =
          .error (.fault fault)) ∨
      ¬ Escapes directory conditions before file ∧
        ((∃ detail, ∀ rest, (writeFilesUnder directory conditions before (file :: rest)).result =
            .error (Failure.unwritable (target directory file.path).toText detail)) ∨
          ∃ changed, ∀ rest, writeFilesUnder directory conditions before (file :: rest) =
            (writeFilesUnder directory conditions.later changed rest).after
              (target directory file.path)) := by
  simp only [writeFilesUnder]
  by_cases null : hasNull (directory.append file.path) = true
  · exact Or.inl ⟨Or.inl null, .badValue, fun _ => by rw [if_pos null]⟩
  · simp only [if_neg null]
    cases replaced : before.replace conditions (goal directory file) file.octets with
    | mk changed obstacle =>
        have ended : (before.replace conditions (goal directory file) file.octets).obstacle =
            obstacle := congrArg Replaced.obstacle replaced
        rw [goal] at replaced
        rw [replaced]
        have held : (∀ fault, obstacle ≠ some (.fault fault)) →
            ¬ Escapes directory conditions before file := by
          rintro other (shown | ⟨_, fault, _, _, struck⟩)
          · exact null shown
          · exact other fault (ended.symm.trans struck)
        rcases obstacle with _ | ⟨refusal | fault⟩
        · exact Or.inr ⟨held (by rintro _ ⟨⟩), Or.inr ⟨changed, fun _ => rfl⟩⟩
        · exact Or.inr ⟨held (by rintro _ ⟨⟩), Or.inl ⟨refusal.message, fun _ => rfl⟩⟩
        · obtain ⟨mishap, next, same⟩ := mishap_of_fault ended
          exact Or.inl ⟨Or.inr ⟨mishap, fault, next, same, ended⟩, fault, fun _ => rfl⟩

/-! ## All files -/

/-- Files of which one escapes, after those before it are written. -/
def OneEscapes (directory : Path) (conditions : Conditions) (before : FileTree)
    (files : List File) : Prop :=
  ∃ done file rest, files = done ++ file :: rest ∧
    Succeeds (writeFilesUnder directory conditions before done).result ∧
    Escapes directory (conditions.after done.length)
      (writeFilesUnder directory conditions before done).tree file

/-- Once the first file is written, one of the files escapes if one of the others does. -/
theorem oneEscapes_cons {changed : FileTree} {rest : List File}
    (kept : ¬ Escapes directory conditions before file)
    (written : ∀ rest, writeFilesUnder directory conditions before (file :: rest) =
      (writeFilesUnder directory conditions.later changed rest).after
        (target directory file.path)) :
    OneEscapes directory conditions before (file :: rest) ↔
      OneEscapes directory conditions.later changed rest := by
  constructor
  · rintro ⟨_ | ⟨first, done⟩, last, others, same, returned, escapes⟩
    · obtain ⟨rfl, rfl⟩ := List.cons.inj same
      exact absurd escapes kept
    · obtain ⟨rfl, rfl⟩ := List.cons.inj same
      rw [written done] at returned escapes
      exact ⟨done, last, others, rfl, succeeds_map.mp returned, escapes⟩
  · rintro ⟨done, last, others, rfl, returned, escapes⟩
    refine ⟨file :: done, last, others, rfl, ?_, ?_⟩
    · rw [written done]
      exact succeeds_map.mpr returned
    · rw [written done]
      exact escapes

/-- Files are written, or one of them is reported, exactly if none of them escapes. -/
theorem written_or_reported_iff (directory : Path) (conditions : Conditions) (before : FileTree)
    (files : List File) :
    Succeeds (writeFilesUnder directory conditions before files).result ∨
        Refused .output (writeFilesUnder directory conditions before files).result ↔
      ¬ OneEscapes directory conditions before files := by
  induction files generalizing conditions before with
  | nil =>
      refine iff_of_true (Or.inl (succeeds_ok _)) ?_
      rintro ⟨_ | ⟨_, _⟩, _, _, ⟨⟩, _⟩
  | cons file rest ih =>
      rcases writeFilesUnder_first_cases directory conditions before file with
        ⟨escapes, fault, ended⟩ | ⟨kept, ⟨detail, ended⟩ | ⟨changed, written⟩⟩
      · have one : OneEscapes directory conditions before (file :: rest) :=
          ⟨[], file, rest, rfl, succeeds_ok _, escapes⟩
        rw [ended rest]
        refine iff_of_false ?_ (not_not.mpr one)
        rintro (⟨_, ⟨⟩⟩ | ⟨_, ⟨⟩, _⟩)
      · rw [ended rest]
        refine iff_of_true (Or.inr ⟨_, rfl, rfl⟩) ?_
        rintro ⟨_ | ⟨first, done⟩, last, others, same, ⟨_, returned⟩, escapes⟩
        · obtain ⟨rfl, rfl⟩ := List.cons.inj same
          exact kept escapes
        · obtain ⟨rfl, rfl⟩ := List.cons.inj same
          rw [ended done] at returned
          cases returned
      · rw [oneEscapes_cons kept written, ← ih, written rest, Written.after, succeeds_map]
        refine or_congr_right ?_
        cases (writeFilesUnder directory conditions.later changed rest).result with
        | ok targets => constructor <;> rintro ⟨_, ⟨⟩, _⟩
        | error problem => exact Iff.rfl

/-- A file whose name has a null character is neither written nor reported. -/
theorem nullName_escapes :
    ¬ (Succeeds (writeFiles ⟨"/", ["work"]⟩ ⟨[(["work"], .directory)]⟩
          [⟨⟨"", ["Pet\x00.ts"]⟩, "a"⟩]).result ∨
      Refused .output (writeFiles ⟨"/", ["work"]⟩ ⟨[(["work"], .directory)]⟩
          [⟨⟨"", ["Pet\x00.ts"]⟩, "a"⟩]).result) := by
  have ended : (writeFiles ⟨"/", ["work"]⟩ ⟨[(["work"], .directory)]⟩
      [⟨⟨"", ["Pet\x00.ts"]⟩, "a"⟩]).result = .error (.fault .badValue) := by
    decide +kernel
  rw [ended]
  rintro (⟨_, ⟨⟩⟩ | ⟨_, ⟨⟩, _⟩)

end Client

end ClientGen

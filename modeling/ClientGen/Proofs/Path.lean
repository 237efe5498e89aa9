import ClientGen.Path
import ClientGen.Proofs.Text

/-!
# Paths below a directory

A name without slashes adds one step to the path of a directory, so that both the directory and the
name can be read off the path. Slashes between names separate steps, so that a path can be read back
from its text. Where a path leads to does not depend on whether the double points in front of it
were followed before.
-/

namespace ClientGen

namespace Path

variable {name : String}

/-- A name that is one step is a relative path of its own. -/
theorem ofText_of_isStep (slashless : '/' ∉ name.toList) (step : isStep name.toList = true) :
    ofText name = ⟨"", [name]⟩ := by
  have leading : name.toList.takeWhile (· = '/') = [] := by
    cases chars : name.toList with
    | nil => rfl
    | cons c rest =>
        rw [chars, List.mem_cons, not_or] at slashless
        rw [List.takeWhile_cons, if_neg]
        simpa using Ne.symm slashless.1
  rw [ofText, leading, Text.splitOn_of_notMem slashless, List.filter_cons_of_pos step,
    List.filter_nil, List.map_singleton, String.ofList_toList]
  rfl

theorem eq_of_relative {path : Path} (relative : path.isAbsolute = false) :
    path = ⟨"", path.parts⟩ := by
  have empty : path.root = "" := by simpa [isAbsolute] using relative
  rw [← empty]

/-- Names below a path that is below a directory. -/
theorem append_append (directory path : Path) (names : List String) :
    directory.append (path.append ⟨"", names⟩) = (directory.append path).append ⟨"", names⟩ := by
  by_cases absolute : path.isAbsolute = true
  · have below : (path.append ⟨"", names⟩).isAbsolute = true := absolute
    rw [append_of_isAbsolute absolute, append_of_isAbsolute below]
  · exact (append_assoc_of_relative (by simpa using absolute)).symm

/-! ## Steps of a text -/

/-- A slash between two texts separates their steps. -/
theorem parts_ofText_append (first second : String) :
    (ofText (first ++ "/" ++ second)).parts = (ofText first).parts ++ (ofText second).parts := by
  have chars : (first ++ "/" ++ second).toList = first.toList ++ '/' :: second.toList := by
    rw [String.toList_append, String.toList_append, List.append_assoc]
    rfl
  simp only [ofText, chars, Text.splitOn_append, List.filter_append, List.map_append]

/-- A text that starts with a point spells a relative path. -/
theorem ofText_of_point {first : String} (point : first.toList.head? = some '.')
    (second : String) :
    ofText (first ++ "/" ++ second) = ⟨"", (ofText first).parts ++ (ofText second).parts⟩ := by
  have leading : (first ++ "/" ++ second).toList.takeWhile (· = '/') = [] := by
    obtain ⟨rest, chars⟩ := List.head?_eq_some_iff.mp point
    rw [String.toList_append, String.toList_append, chars]
    rfl
  rw [← parts_ofText_append, ofText, leading]
  rfl

/-! ## Texts of paths -/

/-- A path that a text can spell. -/
structure WellSpelled (path : Path) : Prop where
  root : path.root = "" ∨ path.root = "/" ∨ path.root = "//"
  slashless : ∀ name ∈ path.parts, '/' ∉ name.toList
  steps : ∀ name ∈ path.parts, isStep name.toList = true

theorem wellSpelled_ofText (text : String) : (ofText text).WellSpelled where
  root := by
    show rootOf _ = "" ∨ rootOf _ = "/" ∨ rootOf _ = "//"
    rw [rootOf.eq_def]
    split
    · exact Or.inl rfl
    · exact Or.inr (Or.inr rfl)
    · exact Or.inr (Or.inl rfl)
  slashless name listed := by
    obtain ⟨piece, kept, rfl⟩ := List.mem_map.mp listed
    rw [String.toList_ofList]
    exact Text.separator_notMem_of_mem_splitOn (List.mem_filter.mp kept).1
  steps name listed := by
    obtain ⟨piece, kept, rfl⟩ := List.mem_map.mp listed
    rw [String.toList_ofList]
    exact (List.mem_filter.mp kept).2

theorem WellSpelled.append {directory path : Path} (above : directory.WellSpelled)
    (below : path.WellSpelled) : (directory.append path).WellSpelled := by
  rw [Path.append]
  split
  · exact below
  · exact ⟨above.root, List.forall_mem_append.mpr ⟨above.slashless, below.slashless⟩,
      List.forall_mem_append.mpr ⟨above.steps, below.steps⟩⟩

theorem WellSpelled.child {directory : Path} (above : directory.WellSpelled) (name : String) :
    (directory.child name).WellSpelled := above.append (wellSpelled_ofText name)

/-- A path from the root without double points. -/
structure IsNormal (path : Path) : Prop where
  root : path.root = "/"
  upless : ".." ∉ path.parts

theorem notMem_foldl_stepFrom {names done : List String} (upless : ".." ∉ done) :
    ".." ∉ names.foldl stepFrom done := by
  induction names generalizing done with
  | nil => exact upless
  | cons name rest ih =>
      refine ih ?_
      rw [stepFrom]
      split
      · exact fun member => upless (List.dropLast_subset _ member)
      · next down =>
          rw [List.mem_append, List.mem_singleton, not_or]
          exact ⟨upless, Ne.symm down⟩

theorem foldl_stepFrom_of_notMem {names done : List String} (upless : ".." ∉ names) :
    names.foldl stepFrom done = done ++ names := by
  induction names generalizing done with
  | nil => exact (List.append_nil done).symm
  | cons name rest ih =>
      rw [List.mem_cons, not_or] at upless
      rw [List.foldl_cons, ih upless.2, stepFrom, if_neg (Ne.symm upless.1), List.append_assoc,
        List.singleton_append]

theorem isNormal_normal (path : Path) : path.normal.IsNormal :=
  ⟨rfl, notMem_foldl_stepFrom List.not_mem_nil⟩

theorem IsNormal.parent {path : Path} (isNormal : path.IsNormal) : path.parent.IsNormal :=
  ⟨isNormal.root, fun member => isNormal.upless (List.dropLast_subset _ member)⟩

theorem IsNormal.normal_eq {path : Path} (isNormal : path.IsNormal) : path.normal = path := by
  rw [normal, collapsed, foldl_stepFrom_of_notMem isNormal.upless, List.nil_append,
    ← isNormal.root]

/-- Where a relative path leads to depends on where its directory leads to. -/
theorem normal_append (directory : Path) (names : List String) :
    (directory.append ⟨"", names⟩).normal = ⟨"/", names.foldl stepFrom directory.normal.parts⟩ := by
  rw [normal, collapsed]
  exact congrArg (Path.mk "/") List.foldl_append

theorem normal_append_normal (directory : Path) (names : List String) :
    (directory.normal.append ⟨"", names⟩).normal = (directory.append ⟨"", names⟩).normal := by
  rw [normal_append, normal_append, (isNormal_normal directory).normal_eq]

/-- Double points in front lead to the parent. -/
theorem normal_append_up (directory : Path) (names : List String) :
    (directory.append ⟨"", ".." :: names⟩).normal =
      (directory.normal.parent.append ⟨"", names⟩).normal := by
  rw [normal_append, normal_append, (isNormal_normal directory).parent.normal_eq, List.foldl_cons,
    stepFrom, if_pos rfl]
  rfl

/-- A name that is no double point leads below the directory. -/
theorem normal_append_singleton (directory : Path) (down : name ≠ "..") :
    (directory.append ⟨"", [name]⟩).normal = ⟨"/", directory.normal.parts ++ [name]⟩ := by
  rw [normal_append, List.foldl_cons, stepFrom, if_neg down]
  rfl

end Path

end ClientGen

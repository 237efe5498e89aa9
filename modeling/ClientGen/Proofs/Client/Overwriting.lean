import ClientGen.Proofs.Client.Rendering

/-!
# Files that take the place of others

A rendering compares each operation with the operations before it. An operation that takes the place
of an earlier operation is announced; a file that takes the place of any other file is not.
-/

namespace ClientGen.Client

open TypeScript

/-! ## Announced operations -/

/-- Records with a warning among them. -/
def Warns (records : List LogRecord) : Prop := ∃ record ∈ records, record.level = .warning

theorem not_warns_nil : ¬ Warns [] := nofun

theorem warns_noteOverwrite {earlier : List String} {operation : Api.Operation} :
    Warns (noteOverwrite earlier operation).logs ↔ fileName operation.name ∈ earlier := by
  rw [noteOverwrite]
  split
  · next known =>
      exact ⟨fun _ => List.contains_iff_mem.mp known, fun _ => ⟨_, List.mem_singleton.mpr rfl, rfl⟩⟩
  · next unknown =>
      refine ⟨fun warns => absurd warns not_warns_nil, fun member => ?_⟩
      exact absurd (List.contains_iff_mem.mpr member) unknown

/-- The operations with the records that each of them leaves. -/
def announced (earlier : List String) (operations : List Api.Operation) :
    List (Api.Operation × List LogRecord) :=
  operations.zip (operationNotes earlier operations)

theorem announced_cons (earlier : List String) (operation : Api.Operation)
    (rest : List Api.Operation) :
    announced earlier (operation :: rest) =
      (operation, (noteOverwrite earlier operation).logs) ::
        announced (fileName operation.name :: earlier) rest := rfl

/-- An operation that takes an earlier file name is announced. -/
theorem warns_of_mem_announced {operations : List Api.Operation} :
    ∀ {earlier : List String}, ∀ entry ∈ announced earlier operations,
      fileName entry.1.name ∈ earlier → Warns entry.2 := by
  induction operations with
  | nil => intro earlier entry member; cases member
  | cons operation rest ih =>
      intro earlier entry member taken
      rw [announced_cons] at member
      rcases List.mem_cons.mp member with rfl | later
      · exact warns_noteOverwrite.mpr taken
      · exact ih entry later (List.mem_cons_of_mem _ taken)

/-- Of two operations with one file name the later one is announced. -/
theorem pairwise_announced {operations : List Api.Operation} :
    ∀ {earlier : List String}, (announced earlier operations).Pairwise fun first second =>
      fileName first.1.name = fileName second.1.name → Warns second.2 := by
  induction operations with
  | nil => exact List.Pairwise.nil
  | cons operation rest ih =>
      intro earlier
      rw [announced_cons, List.pairwise_cons]
      refine ⟨fun entry member same => ?_, ih⟩
      refine warns_of_mem_announced entry member ?_
      rw [← same]
      exact List.mem_cons_self

/-- The first operation with a new file name is not announced. -/
theorem exists_silent {operations : List Api.Operation} {name : String} :
    ∀ {earlier : List String}, name ∉ earlier →
      (∃ operation ∈ operations, fileName operation.name = name) →
        ∃ entry ∈ announced earlier operations, fileName entry.1.name = name ∧ ¬ Warns entry.2 := by
  induction operations with
  | nil => rintro earlier _ ⟨operation, member, _⟩; cases member
  | cons operation rest ih =>
      rintro earlier new ⟨other, member, named⟩
      rw [announced_cons]
      by_cases same : fileName operation.name = name
      · refine ⟨_, List.mem_cons_self, same, fun warns => new ?_⟩
        rw [← same]
        exact warns_noteOverwrite.mp warns
      · have later : other ∈ rest := by
          rcases List.mem_cons.mp member with rfl | later
          · exact absurd named same
          · exact later
        have fresh : name ∉ fileName operation.name :: earlier :=
          List.not_mem_cons_of_ne_of_not_mem (Ne.symm same) new
        obtain ⟨entry, inside, found⟩ := ih fresh ⟨other, later, named⟩
        exact ⟨entry, List.mem_cons_of_mem _ inside, found⟩

theorem length_operationNotes {operations : List Api.Operation} :
    ∀ {earlier : List String}, (operationNotes earlier operations).length = operations.length := by
  induction operations with
  | nil => intro earlier; rfl
  | cons operation rest ih => intro earlier; rw [operationNotes, List.length_cons, ih]; rfl

/-! ## All files -/

/-- Of two files with one place the later one is announced. -/
def AnnouncesAll (list : List File) (notes : List (List LogRecord)) : Prop :=
  (list.zip notes).Pairwise fun earlier later => earlier.1.path = later.1.path → Warns later.2

/-- Files of different kinds have different places, and so have the files of definitions. -/
structure PlacesApart (settings : Settings) (root : Path) (spec : Api.Spec) : Prop where
  definitions : (spec.definitions.map fun definition => identifier definition.name).Nodup
  request_definition : root.child settings.definitionDir = root →
    ∀ definition ∈ spec.definitions, identifier definition.name ≠ requestOwner
  request_operation : root.child settings.operationDir = root →
    ∀ operation ∈ spec.operations, identifier operation.name ≠ requestOwner
  definition_operation : root.child settings.definitionDir = root.child settings.operationDir →
    ∀ definition ∈ spec.definitions, ∀ operation ∈ spec.operations,
      identifier definition.name ≠ identifier operation.name

variable {settings : Settings} {root : Path} {spec : Api.Spec} {list : List File}

theorem length_fileNotes (rendered : (files settings root spec).result = .ok list) :
    (fileNotes spec).length = list.length := by
  have places := congrArg List.length (paths_files rendered)
  simp only [List.length_map, List.length_append, List.length_cons] at places
  simp only [fileNotes, List.length_map, List.length_append, List.length_cons,
    length_operationNotes, places]

/-- The places of files with their records. -/
theorem zip_fileNotes (rendered : (files settings root spec).result = .ok list) :
    (list.map (·.path)).zip (fileNotes spec) =
      (root.child requestFileName, []) ::
        spec.definitions.map (fun definition => (definitionPlace settings root definition, [])) ++
        (announced [] spec.operations).map (Prod.map (operationPlace settings root) id) := by
  rw [paths_files rendered, fileNotes, List.zip_append (by simp), List.zip_cons_cons, announced,
    ← List.zip_map_left, List.zip_map']

/-- All operations that take a place are announced exactly if no operation takes it. -/
theorem announced_place_iff {directory : Path} {name : String} :
    (∀ entry ∈ announced [] spec.operations,
      directory.child (fileName name) = operationPlace settings root entry.1 → Warns entry.2) ↔
      (directory = root.child settings.operationDir →
        ∀ operation ∈ spec.operations, identifier name ≠ identifier operation.name) := by
  simp only [operationPlace, child_fileName_inj]
  constructor
  · intro all same operation member equal
    obtain ⟨entry, inside, named, silent⟩ := exists_silent List.not_mem_nil
      ⟨operation, member, fileName_inj.mpr equal.symm⟩
    exact silent (all entry inside ⟨same, (fileName_inj.mp named).symm⟩)
  · rintro apart entry inside ⟨same, equal⟩
    exact absurd equal (apart same entry.1 (List.of_mem_zip inside).1)

/-- The records of a rendering announce every file that takes the place of an earlier one exactly if
only operations do so, and only those of earlier operations. -/
theorem announcesAll_iff (rendered : (files settings root spec).result = .ok list) :
    (files settings root spec).logs = (fileNotes spec).flatten ∧
      (fileNotes spec).length = list.length ∧
      (AnnouncesAll list (fileNotes spec) ↔ PlacesApart settings root spec) := by
  refine ⟨logs_files rendered, length_fileNotes rendered, ?_⟩
  have owner : identifier requestOwner = requestOwner := by decide
  have definitionApart : ∀ definition : Api.Definition,
      (root.child requestFileName = definitionPlace settings root definition → Warns []) ↔
        (root.child settings.definitionDir = root → identifier definition.name ≠ requestOwner) := by
    intro definition
    rw [definitionPlace, requestFileName_eq, child_fileName_inj, owner]
    simp only [not_warns_nil, imp_false, not_and, ne_eq, @eq_comm _ root, @eq_comm _ requestOwner]
  have definitionsApart : (spec.definitions.Pairwise fun first second =>
      definitionPlace settings root first = definitionPlace settings root second → Warns []) ↔
        (spec.definitions.map fun definition => identifier definition.name).Nodup := by
    rw [List.nodup_iff_pairwise_ne, List.pairwise_map]
    simp only [definitionPlace, child_fileName_inj, true_and, not_warns_nil, imp_false, ne_eq]
  have operationsAnnounced : (announced [] spec.operations).Pairwise fun first second =>
      operationPlace settings root first.1 = operationPlace settings root second.1 →
        Warns second.2 := by
    refine pairwise_announced.imp fun announces same => announces ?_
    exact fileName_inj.mpr (child_fileName_inj.mp same).2
  have pairwise : AnnouncesAll list (fileNotes spec) ↔
      ((list.map (·.path)).zip (fileNotes spec)).Pairwise fun earlier later =>
        earlier.1 = later.1 → Warns later.2 := by
    rw [List.zip_map_left, List.pairwise_map, AnnouncesAll]
    rfl
  rw [pairwise, zip_fileNotes rendered, List.pairwise_append, List.pairwise_cons,
    List.pairwise_map, List.pairwise_map]
  simp only [List.forall_mem_map, List.forall_mem_cons, Prod.map_fst, Prod.map_snd, id_eq,
    definitionApart, definitionsApart, operationsAnnounced, true_and]
  simp only [requestFileName_eq, definitionPlace, announced_place_iff, owner]
  constructor
  · rintro ⟨⟨requests, definitions⟩, others, both⟩
    refine ⟨definitions, fun same definition member => requests definition member same, ?_,
      fun same definition member => both definition member same⟩
    exact fun same operation member => (others same.symm operation member).symm
  · intro apart
    refine ⟨⟨fun definition member same => apart.request_definition same definition member,
      apart.definitions⟩, ?_, fun definition member same =>
        apart.definition_operation same definition member⟩
    exact fun same operation member => (apart.request_operation same.symm operation member).symm

/-- An interface with two definitions whose files have one place. -/
def mergedSpec : Api.Spec where
  formatVersion := "2.0"
  info := ⟨"t", "1", none⟩
  definitions := [⟨"A.B", .scalar false .string none⟩, ⟨"A_B", .scalar false .number none⟩]
  operations := []

private theorem files_mergedSpec : ∃ list,
    (files .standard ⟨"", []⟩ mergedSpec).result = .ok list := by
  have definitions : List.Forall₂ (DefinitionFile .standard ⟨"", []⟩ mergedSpec)
      mergedSpec.definitions _ :=
    .cons ⟨_, rfl, rfl, by decide⟩ (.cons ⟨_, rfl, rfl, by decide⟩ .nil)
  exact ⟨_, (files_bundled_eq_ok ⟨rfl, rfl⟩).mpr ⟨_, _, definitions, .nil, rfl⟩⟩

theorem mergedSpec_announcesAll_iff : ∃ list,
    (files .standard ⟨"", []⟩ mergedSpec).result = .ok list ∧
      (files .standard ⟨"", []⟩ mergedSpec).logs = (fileNotes mergedSpec).flatten ∧
      (fileNotes mergedSpec).length = list.length ∧
      (AnnouncesAll list (fileNotes mergedSpec) ↔
        PlacesApart .standard ⟨"", []⟩ mergedSpec) := by
  obtain ⟨list, rendered⟩ := files_mergedSpec
  exact ⟨list, rendered, announcesAll_iff rendered⟩

/-- Its second definition takes the place of the first one, and no record is left. -/
theorem mergedSpec_overwrites_silently :
    (files .standard ⟨"", []⟩ mergedSpec).logs = [] ∧
      ∃ list first second, (files .standard ⟨"", []⟩ mergedSpec).result = .ok list ∧
        list[1]? = some first ∧ list[2]? = some second ∧ first.path = second.path := by
  obtain ⟨list, rendered⟩ := files_mergedSpec
  refine ⟨logs_files rendered, ?_⟩
  have places := paths_files rendered
  have length : list.length = 3 := by
    rw [← List.length_map (·.path), places]
    rfl
  refine ⟨list, list[1], list[2], rendered, List.getElem?_eq_getElem _, List.getElem?_eq_getElem _, ?_⟩
  have first : (list.map (·.path))[1]? = (list.map (·.path))[2]? := by
    rw [places]
    decide
  simpa [length] using first

end ClientGen.Client

import ClientGen.Client.Files
import ClientGen.Proofs.Path
import ClientGen.Proofs.Result
import ClientGen.Proofs.TypeScript.Identifier

/-!
# The list of generated files

A rendering that succeeds gives the file that all requests refer to, one file for each definition
and one for each operation, in this order. The records that it leaves are those about operations
whose file name an earlier operation has.
-/

namespace ClientGen.Client

open TypeScript

/-! ## Files of operations -/

/-- The file of an operation. -/
def operationFile (settings : Settings) (directory : Path) (template : Template.Template)
    (known : List String) (operation : Api.Operation) : Except Problem File := do
  let text ← operationText settings template known operation
  .ok ⟨directory.child (fileName operation.name), text⟩

/-- The records that each operation leaves, where the file names of earlier ones are known. -/
def operationNotes (earlier : List String) : List Api.Operation → List (List LogRecord)
  | [] => []
  | operation :: rest =>
      (noteOverwrite earlier operation).logs ::
        operationNotes (fileName operation.name :: earlier) rest

section

variable {settings : Settings} {directory : Path} {template : Template.Template}
  {known : List String}

theorem result_noteOverwrite (earlier : List String) (operation : Api.Operation) :
    (noteOverwrite earlier operation).result = .ok () := by
  rw [noteOverwrite]
  split <;> rfl

/-- Each operation has its file, whatever the names of earlier ones are. -/
theorem operationFiles_eq_ok {operations : List Api.Operation} :
    ∀ {earlier : List String} {files : List File},
      (operationFiles settings directory template known earlier operations).result = .ok files ↔
        List.Forall₂
          (fun operation file => operationFile settings directory template known operation = .ok file)
          operations files := by
  induction operations with
  | nil =>
      intro earlier files
      rw [List.forall₂_nil_left_iff]
      constructor
      · intro done
        cases done
        rfl
      · rintro rfl
        rfl
  | cons operation rest ih =>
      intro earlier files
      rw [operationFiles, List.forall₂_cons_left_iff]
      constructor
      · intro done
        obtain ⟨_, _, done⟩ := Logged.result_bind_eq_ok.mp done
        obtain ⟨text, written, done⟩ := Logged.result_bind_eq_ok.mp done
        obtain ⟨others, later, made⟩ := Logged.result_bind_eq_ok.mp done
        have list := Logged.result_return_eq_ok.mp made
        exact ⟨_, others, bind_eq_ok.mpr ⟨text, written, rfl⟩, ih.mp later, list.symm⟩
      · rintro ⟨file, others, made, later, rfl⟩
        obtain ⟨text, written, made⟩ := bind_eq_ok.mp made
        have file_eq := Except.ok.inj made
        subst file_eq
        refine Logged.result_bind_eq_ok.mpr ⟨(), result_noteOverwrite earlier operation, ?_⟩
        refine Logged.result_bind_eq_ok.mpr ⟨text, written, ?_⟩
        refine Logged.result_bind_eq_ok.mpr ⟨others, ih.mpr later, ?_⟩
        exact Logged.result_return_eq_ok.mpr rfl

/-- The records of a rendering that succeeds. -/
theorem logs_operationFiles {operations : List Api.Operation} :
    ∀ {earlier : List String} {files : List File},
      (operationFiles settings directory template known earlier operations).result = .ok files →
        (operationFiles settings directory template known earlier operations).logs =
          (operationNotes earlier operations).flatten := by
  induction operations with
  | nil => intro earlier files _; rfl
  | cons operation rest ih =>
      intro earlier files done
      rw [operationFiles] at done ⊢
      obtain ⟨_, noted, done⟩ := Logged.result_bind_eq_ok.mp done
      obtain ⟨text, written, done⟩ := Logged.result_bind_eq_ok.mp done
      obtain ⟨others, later, _⟩ := Logged.result_bind_eq_ok.mp done
      rw [Logged.logs_bind_of_ok noted, Logged.logs_bind_of_ok written,
        Logged.logs_bind_of_ok later, ih later, Logged.logs_return, Logged.logs_ofResult,
        List.append_nil, List.nil_append, operationNotes, List.flatten_cons]

end

/-! ## All files -/

section

variable {α β γ δ ε ζ : Type}

/-- The steps of a rendering: two templates, the first file, and then the others. -/
def steps (first : Except Problem α) (second : Except Problem β)
    (third : Except Problem γ) (fourth : α → Except Problem δ) (fifth : β → Logged ε)
    (result : γ → δ → ε → ζ) : Logged ζ := do
  let a ← Logged.ofResult first
  let b ← Logged.ofResult second
  let c ← Logged.ofResult third
  let d ← Logged.ofResult (fourth a)
  let e ← fifth b
  pure (result c d e)

variable {first : Except Problem α} {second : Except Problem β} {third : Except Problem γ}
  {fourth : α → Except Problem δ} {fifth : β → Logged ε} {result : γ → δ → ε → ζ}

private theorem steps_eq_ok {value : ζ} :
    (steps first second third fourth fifth result).result = .ok value ↔
      ∃ a, first = .ok a ∧ ∃ b, second = .ok b ∧ ∃ c, third = .ok c ∧ ∃ d, fourth a = .ok d ∧
        ∃ e, (fifth b).result = .ok e ∧ result c d e = value := by
  simp only [steps, Logged.result_bind_eq_ok, Logged.result_ofResult_eq_ok,
    Logged.result_return_eq_ok]

private theorem logs_steps {value : ζ}
    (done : (steps first second third fourth fifth result).result = .ok value) :
    ∃ b, second = .ok b ∧ (∃ e, (fifth b).result = .ok e) ∧
      (steps first second third fourth fifth result).logs = (fifth b).logs := by
  obtain ⟨a, loadedFirst, b, loadedSecond, c, made, d, others, e, last, _⟩ := steps_eq_ok.mp done
  refine ⟨b, loadedSecond, ⟨e, last⟩, ?_⟩
  rw [steps, Logged.logs_bind_of_ok loadedFirst, Logged.logs_bind_of_ok loadedSecond,
    Logged.logs_bind_of_ok made, Logged.logs_bind_of_ok others, Logged.logs_bind_of_ok last]
  simp only [Logged.logs_return, Logged.logs_ofResult, List.append_nil, List.nil_append]

private theorem endsWithin_steps {allowed : Problem → Prop} (firstEnds : EndsWithin allowed first)
    (secondEnds : EndsWithin allowed second) (thirdEnds : EndsWithin allowed third)
    (fourthEnds : ∀ a, first = .ok a → EndsWithin allowed (fourth a))
    (fifthEnds : ∀ b, second = .ok b → EndsWithin allowed (fifth b).result) :
    EndsWithin allowed (steps first second third fourth fifth result).result := by
  refine EndsWithin.logged_bind firstEnds fun a found => ?_
  refine EndsWithin.logged_bind secondEnds fun b given => ?_
  refine EndsWithin.logged_bind thirdEnds fun _ _ => ?_
  refine EndsWithin.logged_bind (fourthEnds a found) fun _ _ => ?_
  exact EndsWithin.logged_bind (fifthEnds b given) fun _ _ => EndsWithin.logged_return _

end

/-! ## Problems -/

section

variable {allowed : Problem → Prop} {settings : Settings} {root : Path} {spec : Api.Spec}

theorem endsWithin_operationFiles {directory : Path} {template : Template.Template}
    {known : List String} {operations : List Api.Operation}
    (each : ∀ operation ∈ operations,
      EndsWithin allowed (operationText settings template known operation)) :
    ∀ earlier : List String, EndsWithin allowed
      (operationFiles settings directory template known earlier operations).result := by
  induction operations with
  | nil => intro earlier; exact endsWithin_ok allowed []
  | cons operation rest ih =>
      intro earlier
      rw [operationFiles]
      refine EndsWithin.logged_bind ?_ fun _ _ => ?_
      · rw [result_noteOverwrite]
        exact endsWithin_ok allowed ()
      refine EndsWithin.logged_bind (each operation List.mem_cons_self) fun text _ => ?_
      refine EndsWithin.logged_bind ?_ fun files _ => EndsWithin.logged_return _
      exact ih (fun other member => each other (List.mem_cons_of_mem _ member)) _

/-- A rendering ends in no problem but those in which its templates, the first file, and the texts
of definitions and operations end. -/
theorem endsWithin_files
    (firstLoaded : EndsWithin allowed
      (loadTemplate definitionTemplateName definitionSource settings.definitionTemplate))
    (secondLoaded : EndsWithin allowed
      (loadTemplate operationTemplateName operationSource settings.operationTemplate))
    (requested : EndsWithin allowed (requestFile settings root))
    (defined : ∀ template,
      loadTemplate definitionTemplateName definitionSource settings.definitionTemplate =
          .ok template →
        ∀ definition ∈ spec.definitions, EndsWithin allowed
          (definitionText settings template (spec.definitions.map (·.name)) definition))
    (operated : ∀ template,
      loadTemplate operationTemplateName operationSource settings.operationTemplate =
          .ok template →
        ∀ operation ∈ spec.operations, EndsWithin allowed
          (operationText settings template (spec.definitions.map (·.name)) operation)) :
    EndsWithin allowed (files settings root spec).result := by
  refine endsWithin_steps firstLoaded secondLoaded requested (fun template found => ?_)
    fun template found => endsWithin_operationFiles (operated template found) _
  refine EndsWithin.mapM fun definition member => ?_
  rw [definitionFile]
  exact (defined template found definition member).bind fun _ _ => endsWithin_ok allowed _

end

/-- The templates that settings ask for. -/
structure Loads (settings : Settings) (definition operation : Template.Template) : Prop where
  definition : loadTemplate definitionTemplateName definitionSource settings.definitionTemplate =
    .ok definition
  operation : loadTemplate operationTemplateName operationSource settings.operationTemplate =
    .ok operation

/-- The parts of a list of files. -/
structure Parts (settings : Settings) (root : Path) (spec : Api.Spec)
    (definition operation : Template.Template) (request : File)
    (definitions operations : List File) : Prop where
  request : requestFile settings root = .ok request
  definitions : List.Forall₂
    (fun item file => definitionFile settings (root.child settings.definitionDir) definition
      (spec.definitions.map (·.name)) item = .ok file) spec.definitions definitions
  operations : List.Forall₂
    (fun item file => operationFile settings (root.child settings.operationDir) operation
      (spec.definitions.map (·.name)) item = .ok file) spec.operations operations

variable {settings : Settings} {root : Path} {spec : Api.Spec} {list : List File}

/-- A rendering succeeds if all of its parts do. -/
theorem files_eq_ok :
    (files settings root spec).result = .ok list ↔
      ∃ definition operation, Loads settings definition operation ∧
        ∃ request definitions operations,
          Parts settings root spec definition operation request definitions operations ∧
            list = request :: definitions ++ operations := by
  constructor
  · intro done
    obtain ⟨definition, loadedDefinition, operation, loadedOperation, request, requested,
      definitions, defined, operations, operated, made⟩ := steps_eq_ok.mp done
    exact ⟨definition, operation, ⟨loadedDefinition, loadedOperation⟩, request, definitions,
      operations, ⟨requested, mapM_eq_ok.mp defined, operationFiles_eq_ok.mp operated⟩,
      made.symm⟩
  · rintro ⟨definition, operation, loaded, request, definitions, operations, parts, made⟩
    exact steps_eq_ok.mpr ⟨definition, loaded.definition, operation, loaded.operation, request,
      parts.request, definitions, mapM_eq_ok.mpr parts.definitions, operations,
      operationFiles_eq_ok.mpr parts.operations, made.symm⟩

/-- The records that go with each file: only operations leave some. -/
def fileNotes (spec : Api.Spec) : List (List LogRecord) :=
  [] :: spec.definitions.map (fun _ => []) ++ operationNotes [] spec.operations

/-- The records of a rendering that succeeds. -/
theorem logs_files (done : (files settings root spec).result = .ok list) :
    (files settings root spec).logs = (fileNotes spec).flatten := by
  obtain ⟨operation, _, ⟨operations, operated⟩, logs⟩ := logs_steps done
  have silent : (spec.definitions.map fun _ => ([] : List LogRecord)).flatten = [] :=
    List.flatten_eq_nil_iff.mpr fun notes member => by
      obtain ⟨_, _, rfl⟩ := List.mem_map.mp member
      rfl
  rw [fileNotes, List.flatten_append, List.flatten_cons, silent]
  exact logs.trans (logs_operationFiles operated)

/-! ## Places of files -/

theorem toList_fileName (name : String) :
    (fileName name).toList = identifierChars name.toList ++ ".ts".toList := by
  rw [fileName, String.toList_append, toList_identifier]

/-- The name of a file is one step on a path. -/
theorem ofText_fileName (name : String) : Path.ofText (fileName name) = ⟨"", [fileName name]⟩ := by
  refine Path.ofText_of_isStep ?_ ?_
  · rw [toList_fileName, List.mem_append, not_or]
    exact ⟨slash_notMem_identifierChars name.toList, by decide⟩
  · rw [toList_fileName]
    cases chars : identifierChars name.toList with
    | nil => exact absurd chars (identifierChars_ne_nil name.toList)
    | cons first rest => simp [Path.isStep]

theorem child_fileName (directory : Path) (name : String) :
    directory.child (fileName name) = ⟨directory.root, directory.parts ++ [fileName name]⟩ := by
  rw [Path.child, ofText_fileName]
  rfl

theorem fileName_inj {first second : String} :
    fileName first = fileName second ↔ identifier first = identifier second := by
  rw [fileName, fileName, ← String.toList_inj, String.toList_append, String.toList_append,
    List.append_left_inj, String.toList_inj]

/-- Files have one place if their directories and their identifiers agree. -/
theorem child_fileName_inj {directory other : Path} {first second : String} :
    directory.child (fileName first) = other.child (fileName second) ↔
      directory = other ∧ identifier first = identifier second := by
  rw [child_fileName, child_fileName, Path.mk.injEq, List.append_singleton_inj,
    fileName_inj, ← and_assoc, ← Path.mk.injEq]

/-- The file of requests is named like a definition of that name. -/
theorem requestFileName_eq : requestFileName = fileName requestOwner := by decide

/-- Where the file of a definition goes. -/
def definitionPlace (settings : Settings) (root : Path) (definition : Api.Definition) : Path :=
  (root.child settings.definitionDir).child (fileName definition.name)

/-- Where the file of an operation goes. -/
def operationPlace (settings : Settings) (root : Path) (operation : Api.Operation) : Path :=
  (root.child settings.operationDir).child (fileName operation.name)

/-- Files go where the names of definitions and operations say, whatever the templates are. -/
theorem paths_files (done : (files settings root spec).result = .ok list) :
    list.map (·.path) = root.child requestFileName ::
      spec.definitions.map (definitionPlace settings root) ++
        spec.operations.map (operationPlace settings root) := by
  obtain ⟨_, _, _, request, definitions, operations, parts, rfl⟩ := files_eq_ok.mp done
  have requested : request.path = root.child requestFileName := by
    have made := parts.request
    rw [requestFile] at made
    obtain ⟨template, _, made⟩ := bind_eq_ok.mp made
    obtain ⟨text, _, made⟩ := bind_eq_ok.mp made
    rw [← Except.ok.inj made]
  have defined : definitions.map (·.path) =
      spec.definitions.map (definitionPlace settings root) := by
    refine map_eq_of_forall₂ parts.definitions fun definition file made => ?_
    rw [definitionFile] at made
    obtain ⟨text, _, made⟩ := bind_eq_ok.mp made
    rw [← Except.ok.inj made, definitionPlace]
  have operated : operations.map (·.path) =
      spec.operations.map (operationPlace settings root) := by
    refine map_eq_of_forall₂ parts.operations fun operation file made => ?_
    rw [operationFile] at made
    obtain ⟨text, _, made⟩ := bind_eq_ok.mp made
    rw [← Except.ok.inj made, operationPlace]
  rw [List.map_append, List.map_cons, requested, defined, operated]

end ClientGen.Client

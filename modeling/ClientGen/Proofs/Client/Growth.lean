import ClientGen.Proofs.Api.Acceptance
import ClientGen.Proofs.Client.Rendering
import Mathlib.Data.List.Flatten

/-!
# Files of growing documents

A document that gets further definitions and paths keeps the files that it had: each of them has its
place and its text from one definition or one operation. Names that are known beside it decide
whether its references are accepted, and not what is written.
-/

namespace ClientGen

open Api

/-! ## Further entries -/

/-- The entries of a document that are path items. -/
def Api.pathItems (document : Value) : List (Value × Value) := (pathsOf? document).getD []

/-- A document that has the definitions and the path items of another one, in the same order, and
may have further ones anywhere between them. -/
structure Enlarged (document larger : Value) : Prop where
  definitions : (definitionEntries document).Sublist (definitionEntries larger)
  paths : (pathItems document).Sublist (pathItems larger)

/-- A field of a document that gets further entries if it holds definitions or path items. -/
inductive EnlargedField : Value × Value → Value × Value → Prop
  /-- The field stays as it is. -/
  | same (field : Value × Value) : EnlargedField field field
  /-- The field gets further entries. -/
  | entries {name : String} (named : name = "definitions" ∨ name = "paths")
      {fewer more : List (Value × Value)} (inserted : fewer.Sublist more) :
      EnlargedField (.text name, .map fewer) (.text name, .map more)

theorem EnlargedField.sublist_entries {name : Value} {value other : Value}
    (enlarged : EnlargedField (name, value) (name, other)) :
    (value.opened.entries?.getD []).Sublist (other.opened.entries?.getD []) := by
  cases enlarged with
  | same => exact List.Sublist.refl _
  | entries _ inserted => exact inserted.map _

theorem sublist_entriesAt (name : String) {fields grown : List (Value × Value)}
    (each : List.Forall₂ EnlargedField fields grown) :
    ((((Value.map fields).field? name).bind Value.entries?).getD []).Sublist
      ((((Value.map grown).field? name).bind Value.entries?).getD []) := by
  rw [Value.field?, Value.field?]
  induction each with
  | nil => exact List.Sublist.refl _
  | @cons field other _ _ first _ ih =>
      obtain ⟨key, value⟩ := field
      obtain ⟨same, changed⟩ := other
      have equal : same = key := by cases first <;> rfl
      subst equal
      cases same with
      | text word =>
          rw [Value.fieldOf, Value.fieldOf]
          split
          · exact first.sublist_entries
          · exact ih
      | _ => exact ih

theorem enlarged_of_fields {fields grown : List (Value × Value)}
    (each : List.Forall₂ EnlargedField fields grown) : Enlarged (.map fields) (.map grown) :=
  ⟨sublist_entriesAt "definitions" each, sublist_entriesAt "paths" each⟩

/-! ## Interfaces -/

namespace Api

theorem sublist_definitions {document larger : Value} {list others : List Definition}
    (further : (definitionEntries document).Sublist (definitionEntries larger))
    (extracted : definitions document = .ok list) (other : definitions larger = .ok others) :
    list.Sublist others :=
  sublist_of_forall₂ (rightUnique_eq_ok definition) further (definitions_eq_ok.mp extracted)
    (definitions_eq_ok.mp other)

theorem sublist_operations {paths more : List (Value × Value)} {list others : List Operation}
    (further : paths.Sublist more) (extracted : (operations paths).result = .ok list)
    (other : (operations more).result = .ok others) : list.Sublist others := by
  obtain ⟨results, done, made⟩ := Logged.result_bind_eq_ok.mp extracted
  obtain ⟨further_results, other_done, other_made⟩ := Logged.result_bind_eq_ok.mp other
  rw [← Logged.result_return_eq_ok.mp made, ← Logged.result_return_eq_ok.mp other_made]
  have entries : (pathEntries paths).Sublist (pathEntries more) := further.flatMap entriesOf
  have unique : Relator.RightUnique fun (item : Value × Value × Value) result =>
      (operationAt item.1 item.2).result = .ok result := rightUnique_eq_ok _
  have sublist := sublist_of_forall₂ unique entries (Logged.forEach_eq_ok.mp done)
    (Logged.forEach_eq_ok.mp other_done)
  exact sublist.filterMap id

theorem pathItems_of_paths {document : Value} {entries : List (Value × Value)}
    (found : paths document = .ok entries) : pathItems document = entries := by
  rcases paths_cases document with ⟨same, given, made⟩ | ⟨_, _, failed, _⟩
  · rw [pathItems, given, Option.getD_some]
    exact Except.ok.inj (made.symm.trans found)
  · cases failed.symm.trans found

/-- The interface of a document that grows grows with it. -/
theorem sublist_extract {document larger : Value} {spec other : Spec} (enlarged : Enlarged document larger)
    (extracted : (extract document).result = .ok spec)
    (further : (extract larger).result = .ok other) :
    spec.definitions.Sublist other.definitions ∧ spec.operations.Sublist other.operations := by
  obtain ⟨defined, entries, found, operated⟩ := extract_eq_ok extracted
  obtain ⟨further_defined, more, further_found, further_operated⟩ := extract_eq_ok further
  have paths := enlarged.paths
  rw [pathItems_of_paths found, pathItems_of_paths further_found] at paths
  exact ⟨sublist_definitions enlarged.definitions defined further_defined,
    sublist_operations paths operated further_operated⟩

end Api

/-! ## Files -/

namespace Client

variable {settings : Settings} {directory : Path} {template : Template.Template}

/-- Known names decide whether references are accepted, not which they are. -/
theorem checkedReferences_unique {owner : String} {known others : List String}
    {nodes : List TypeNode} {references further : List String}
    (checked : checkedReferences owner known nodes = .ok references)
    (other : checkedReferences owner others nodes = .ok further) : references = further :=
  (checkedReferences_eq_ok.mp checked).1.trans (checkedReferences_eq_ok.mp other).1.symm

/-- What is printed for checked references is one and the same beside all names that are known. -/
private theorem printed_unique {owner : String} {known others : List String} {nodes : List TypeNode}
    {print : List String → Except Problem String} {place : Path} {file other : File}
    (made : ((checkedReferences owner known nodes >>= print) >>= fun text => .ok ⟨place, text⟩) =
      (.ok file : Except Problem File))
    (again : ((checkedReferences owner others nodes >>= print) >>= fun text => .ok ⟨place, text⟩) =
      (.ok other : Except Problem File)) : file = other := by
  obtain ⟨text, written, made⟩ := bind_eq_ok.mp made
  obtain ⟨same, rewritten, again⟩ := bind_eq_ok.mp again
  obtain ⟨references, checked, printed⟩ := bind_eq_ok.mp written
  obtain ⟨further, rechecked, reprinted⟩ := bind_eq_ok.mp rewritten
  obtain rfl := checkedReferences_unique checked rechecked
  obtain rfl := Except.ok.inj (printed.symm.trans reprinted)
  exact Except.ok.inj (made.symm.trans again)

theorem rightUnique_definitionFile : Relator.RightUnique fun definition file =>
    ∃ known, definitionFile settings directory template known definition = .ok file := by
  rintro definition file other ⟨known, made⟩ ⟨others, again⟩
  rw [definitionFile, definitionText] at made again
  exact printed_unique made again

theorem rightUnique_operationFile : Relator.RightUnique fun operation file =>
    ∃ known, operationFile settings directory template known operation = .ok file := by
  rintro operation file other ⟨known, made⟩ ⟨others, again⟩
  rw [operationFile, operationText] at made again
  exact printed_unique made again

/-- An interface with fewer definitions and operations has fewer files, which are the same. -/
theorem sublist_files {root : Path} {spec other : Api.Spec} {list others : List File}
    (definitions : spec.definitions.Sublist other.definitions)
    (operations : spec.operations.Sublist other.operations)
    (rendered : (files settings root spec).result = .ok list)
    (further : (files settings root other).result = .ok others) : list.Sublist others := by
  obtain ⟨_, _, loads, _, _, _, parts, rfl⟩ := files_eq_ok.mp rendered
  obtain ⟨_, _, reloads, _, _, _, more, rfl⟩ := files_eq_ok.mp further
  obtain rfl := Except.ok.inj (loads.definition.symm.trans reloads.definition)
  obtain rfl := Except.ok.inj (loads.operation.symm.trans reloads.operation)
  obtain rfl := Except.ok.inj (parts.request.symm.trans more.request)
  refine List.Sublist.append (List.Sublist.cons_cons _ ?_) ?_
  · exact sublist_of_forall₂ rightUnique_definitionFile definitions
      (parts.definitions.imp fun _ _ made => ⟨_, made⟩)
      (more.definitions.imp fun _ _ made => ⟨_, made⟩)
  · exact sublist_of_forall₂ rightUnique_operationFile operations
      (parts.operations.imp fun _ _ made => ⟨_, made⟩)
      (more.operations.imp fun _ _ made => ⟨_, made⟩)

/-- A document that grows keeps its files, each with its place, its text and its turn. -/
theorem files_sublist_of_enlarged {document larger : Value} {spec other : Api.Spec} {root : Path}
    {list others : List File} (enlarged : Enlarged document larger)
    (extracted : (Api.extract document).result = .ok spec)
    (further : (Api.extract larger).result = .ok other)
    (rendered : (files settings root spec).result = .ok list)
    (rendered_further : (files settings root other).result = .ok others) :
    list.Sublist others := by
  obtain ⟨definitions, operations⟩ := Api.sublist_extract enlarged extracted further
  exact sublist_files definitions operations rendered rendered_further

/-- A definition of a document. -/
def cowEntry : Value × Value :=
  (.text "Cow", .map [(.text "type", .text "object"),
    (.text "properties", .map [(.text "name", .map [(.text "type", .text "string")])])])

/-- A path item that points to it. -/
def cowsEntry : Value × Value :=
  (.text "/cows", .map [(.text "get", .map [(.text "operationId", .text "listCows"),
    (.text "responses", .map [(.text "200", .map [(.text "schema",
      .map [(.text "$ref", .text "#/definitions/Cow")])])])])])

/-- A document with nothing else. -/
def barnDocument : Value :=
  .map [(.text "swagger", .text "2.0"), (.text "definitions", .map [cowEntry]),
    (.text "paths", .map [cowsEntry])]

/-- A document with a definition behind it and an operation of its name in front of it. -/
def farmDocument : Value :=
  .map [(.text "swagger", .text "2.0"),
    (.text "definitions", .map [cowEntry, (.text "Herd", .map [(.text "type", .text "array"),
      (.text "items", .map [(.text "$ref", .text "#/definitions/Cow")])])]),
    (.text "paths", .map [(.text "/herds", .map [(.text "get",
      .map [(.text "operationId", .text "listCows")])]), cowsEntry])]

/-- The interface of the first document. -/
def barnSpec : Api.Spec where
  formatVersion := "2.0"
  info := ⟨"Untitled API", "0.0.0", none⟩
  definitions := [⟨"Cow", .object false [("name", .scalar false .string none)] []⟩]
  operations := [⟨"listCows", "/cows", .get, none, .reference false "Cow", [], [], none⟩]

/-- The interface of the second document. -/
def farmSpec : Api.Spec where
  formatVersion := "2.0"
  info := ⟨"Untitled API", "0.0.0", none⟩
  definitions := [⟨"Cow", .object false [("name", .scalar false .string none)] []⟩,
    ⟨"Herd", .array false (.reference false "Cow")⟩]
  operations := [⟨"listCows", "/herds", .get, none, .empty false, [], [], none⟩,
    ⟨"listCows", "/cows", .get, none, .reference false "Cow", [], [], none⟩]

theorem barnDocument_enlarged : Enlarged barnDocument farmDocument := by
  refine enlarged_of_fields (.cons (.same _) (.cons (.entries (Or.inl rfl) ?_)
    (.cons (.entries (Or.inr rfl) ?_) .nil)))
  · exact (List.nil_sublist _).cons_cons cowEntry
  · exact (List.Sublist.refl _).cons _

/-- The files stay although the new operation takes the place of one of them. -/
theorem barnDocument_kept : Enlarged barnDocument farmDocument ∧
    (Api.extract barnDocument).result = .ok barnSpec ∧
    (Api.extract farmDocument).result = .ok farmSpec ∧
    ∃ list others, (files .standard ⟨"", []⟩ barnSpec).result = .ok list ∧
      (files .standard ⟨"", []⟩ farmSpec).result = .ok others ∧
      list.map (·.path.toText) = ["APIRequest.ts", "models/Cow.ts", "requests/listCows.ts"] ∧
      others.map (·.path.toText) = ["APIRequest.ts", "models/Cow.ts", "models/Herd.ts",
        "requests/listCows.ts", "requests/listCows.ts"] ∧
      list.Sublist others := by
  have bundled : Bundled .standard := ⟨rfl, rfl⟩
  have extracted : (Api.extract barnDocument).result = .ok barnSpec := by decide +kernel
  have further : (Api.extract farmDocument).result = .ok farmSpec := by decide +kernel
  have definitions : List.Forall₂ (DefinitionFile .standard ⟨"", []⟩ barnSpec)
      barnSpec.definitions _ := .cons ⟨_, rfl, rfl, by decide⟩ .nil
  have operations : List.Forall₂ (OperationFile .standard ⟨"", []⟩ barnSpec)
      barnSpec.operations _ := .cons ⟨_, rfl, rfl, by decide⟩ .nil
  have moreDefinitions : List.Forall₂ (DefinitionFile .standard ⟨"", []⟩ farmSpec)
      farmSpec.definitions _ :=
    .cons ⟨_, rfl, rfl, by decide⟩ (.cons ⟨_, rfl, rfl, by decide⟩ .nil)
  have moreOperations : List.Forall₂ (OperationFile .standard ⟨"", []⟩ farmSpec)
      farmSpec.operations _ :=
    .cons ⟨_, rfl, rfl, by decide⟩ (.cons ⟨_, rfl, rfl, by decide⟩ .nil)
  have rendered := (files_bundled_eq_ok bundled).mpr ⟨_, _, definitions, operations, rfl⟩
  have rerendered :=
    (files_bundled_eq_ok bundled).mpr ⟨_, _, moreDefinitions, moreOperations, rfl⟩
  exact ⟨barnDocument_enlarged, extracted, further, _, _, rendered, rerendered, by decide +kernel,
    by decide +kernel, files_sublist_of_enlarged barnDocument_enlarged extracted further rendered
      rerendered⟩

end Client

end ClientGen

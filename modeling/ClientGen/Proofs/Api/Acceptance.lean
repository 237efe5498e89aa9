import ClientGen.Proofs.Api.Extraction
import ClientGen.Proofs.Schema.Mappable

/-!
# Documents that are accepted

The extraction refuses a document for its version or for its paths, and for nothing else. A document
with the right version and with paths is accepted exactly if it is regular; any other one ends the
extraction with a fault.
-/

namespace ClientGen

/-! ## Written values -/

namespace Value

/-- A value that can be written, where there is one. -/
def WritableIfGiven (value : Option Value) : Prop :=
  ∀ given, value = some given → given.isWritable = true

theorem writableIfGiven_none : WritableIfGiven none := nofun

theorem writableIfGiven_some {value : Value} :
    WritableIfGiven (some value) ↔ value.isWritable = true :=
  ⟨fun all => all value rfl, fun writable _ same => Option.some.inj same ▸ writable⟩

theorem succeeds_written {value : Value} : Succeeds value.written ↔ value.isWritable = true := by
  rw [written]
  split
  · next writable => exact iff_of_true (succeeds_ok _) writable
  · next unwritable => exact iff_of_false (not_succeeds_error _) unwritable

theorem succeeds_writtenOr {default : String} {value : Option Value} :
    Succeeds (writtenOr default value) ↔ WritableIfGiven value := by
  cases value with
  | none => exact iff_of_true (succeeds_ok _) writableIfGiven_none
  | some value => exact succeeds_written.trans writableIfGiven_some.symm

theorem succeeds_writtenGiven {value : Option Value} :
    Succeeds (writtenGiven value) ↔ WritableIfGiven value := by
  cases value with
  | none => exact iff_of_true (succeeds_ok _) writableIfGiven_none
  | some value =>
      rw [writableIfGiven_some]
      by_cases null : value = .null
      · subst null
        exact iff_of_true (succeeds_ok _) rfl
      · have given : writtenGiven (some value) = value.written.map some := by
          cases value with
          | null => exact absurd rfl null
          | _ => rfl
        rw [given, succeeds_map, succeeds_written]

end Value

namespace Api

open Schema

/-! ## Versions -/

/-- A document that declares the supported version. -/
def Supported (document : Value) : Prop :=
  ∃ version, document.givenField? "swagger" = some version ∧
    version.written = .ok Failure.supportedVersion

/-- What a document says about its version, or else about the version of the successor format. -/
def statedVersion? (document : Value) : Option Value :=
  if (document.field? "openapi").isSome && !(document.field? "swagger").isSome then
    document.field? "openapi"
  else document.givenField? "swagger"

/-- The version of a mapping is looked up at its key, unless only the successor's key is there. -/
theorem formatVersion_map (entries : List (Value × Value)) :
    formatVersion (.map entries) =
      if ((Value.map entries).field? "openapi").isSome &&
          !((Value.map entries).field? "swagger").isSome then
        (Value.writtenOr "" ((Value.map entries).field? "openapi")).mapError Problem.fault >>=
          fun version => .error (.failure (.openApi version))
      else
        match (Value.map entries).givenField? "swagger" with
        | none => .error (.failure .missingVersion)
        | some version => version.written.mapError Problem.fault >>= fun version =>
            if version = Failure.supportedVersion then .ok version
            else .error (.failure (.wrongVersion version)) := by
  have asked : ∀ name, mentions name (.map entries) =
      .ok ((Value.map entries).field? name).isSome := by
    intro name
    rw [mentions, Value.field?, Option.isSome_map]
  rw [formatVersion, asked, asked]
  cases ((Value.map entries).field? "openapi").isSome <;>
    cases ((Value.map entries).field? "swagger").isSome <;> rfl

/-- The version of a document is read if it can be written. -/
theorem formatVersion_cases (entries : List (Value × Value)) :
    (¬ Value.WritableIfGiven (statedVersion? (.map entries)) ∧ ¬ Supported (.map entries) ∧
        formatVersion (.map entries) = .error (.fault .badValue)) ∨
      Value.WritableIfGiven (statedVersion? (.map entries)) ∧
        (Supported (.map entries) ∧
            formatVersion (.map entries) = .ok Failure.supportedVersion ∨
          ¬ Supported (.map entries) ∧
            Refused .unsupportedVersion (formatVersion (.map entries))) := by
  rw [formatVersion_map, statedVersion?]
  split
  · next successor =>
      simp only [Bool.and_eq_true, Bool.not_eq_true', Option.isSome_eq_false_iff,
        Option.isNone_iff_eq_none] at successor
      obtain ⟨version, found⟩ := Option.isSome_iff_exists.mp successor.1
      have unsupported : ¬ Supported (.map entries) := by
        rintro ⟨own, given, _⟩
        rw [Value.givenField?, successor.2] at given
        cases given
      rw [found, Value.writableIfGiven_some, Value.writtenOr, Value.written]
      by_cases writable : version.isWritable = true
      · rw [if_pos writable]
        exact Or.inr ⟨writable, Or.inr ⟨unsupported, _, rfl, rfl⟩⟩
      · rw [if_neg writable]
        exact Or.inl ⟨writable, unsupported, rfl⟩
  · cases found : (Value.map entries).givenField? "swagger" with
    | none =>
        have unsupported : ¬ Supported (.map entries) := by
          rintro ⟨own, given, _⟩
          rw [found] at given
          cases given
        exact Or.inr ⟨Value.writableIfGiven_none, Or.inr ⟨unsupported, _, rfl, rfl⟩⟩
    | some version =>
        have supported : Supported (.map entries) ↔
            version.written = .ok Failure.supportedVersion := by
          constructor
          · rintro ⟨own, given, written⟩
            rw [found] at given
            rwa [Option.some.inj given]
          · exact fun written => ⟨version, found, written⟩
        rw [Value.writableIfGiven_some, supported]
        dsimp only
        rw [Value.written]
        by_cases writable : version.isWritable = true
        · rw [if_pos writable]
          refine Or.inr ⟨writable, ?_⟩
          by_cases same : version.toText = Failure.supportedVersion
          · rw [same]
            exact Or.inl ⟨rfl, rfl⟩
          · refine Or.inr ⟨fun equal => same (Except.ok.inj equal), ?_⟩
            refine ⟨.wrongVersion version.toText, ?_, rfl⟩
            exact if_neg same
        · rw [if_neg writable]
          exact Or.inl ⟨writable, nofun, rfl⟩

/-! ## Parts of a document -/

/-- The paths of a document, when they are a mapping. -/
def pathsOf? (document : Value) : Option (List (Value × Value)) :=
  (document.field? "paths").bind Value.entries?

/-- A document without paths is refused. -/
theorem paths_cases (document : Value) :
    (∃ entries, pathsOf? document = some entries ∧ paths document = .ok entries) ∨
      pathsOf? document = none ∧
        ∃ failure, paths document = .error failure ∧ failure.kind = .malformedDocument := by
  rw [pathsOf?, paths, Value.givenField?]
  cases document.field? "paths" with
  | none => exact Or.inr ⟨rfl, _, rfl, rfl⟩
  | some found =>
      cases found with
      | map entries => exact Or.inl ⟨_, rfl, rfl⟩
      | _ => exact Or.inr ⟨rfl, _, rfl, rfl⟩

/-- General statements that can all be written. -/
structure RegularInfo (given : Value) : Prop where
  title : Value.WritableIfGiven (given.field? "title")
  version : Value.WritableIfGiven (given.field? "version")
  description : Value.WritableIfGiven (given.field? "description")

theorem succeeds_info {document : Value} :
    Succeeds (info document) ↔ RegularInfo ((document.field? "info").getD .null) := by
  rw [info]
  refine (succeeds_bind_iff fun _ _ => succeeds_bind_iff fun _ _ => succeeds_bind_ok).trans ?_
  rw [Value.succeeds_writtenOr, Value.succeeds_writtenOr, Value.succeeds_writtenGiven]
  exact ⟨fun holds => ⟨holds.1, holds.2.1, holds.2.2⟩,
    fun regular => ⟨regular.title, regular.version, regular.description⟩⟩

theorem succeeds_definitions {document : Value} :
    Succeeds (definitions document) ↔ ∀ entry ∈ definitionEntries document,
      entry.1.isWritable = true ∧ Mappable entry.2 := by
  refine succeeds_mapM.trans (forall₂_congr fun entry _ => ?_)
  rw [definition]
  refine (succeeds_bind_iff fun _ _ => succeeds_bind_ok).trans ?_
  rw [Value.succeeds_written, succeeds_map_iff]

/-! ## Operations -/

/-- The schema of the response that decides what an operation answers. -/
def answerSchema? : Value → Option Value
  | .map entries =>
      ((Value.given? (responseFor 200 entries)).or (Value.given? (responseFor 201 entries))).bind
        (Value.givenField? "schema")
  | _ => none

theorem response_eq (responses : Value) :
    response responses =
      ((answerSchema? responses).map (map false)).getD (.ok (.empty false)) := by
  cases responses with
  | map entries =>
      rw [response, answerSchema?]
      cases Value.given? (responseFor 200 entries) with
      | some given =>
          rw [Option.some_or, Option.bind_some]
          simp only [responseNode]
          cases given.givenField? "schema" <;> rfl
      | none =>
          rw [Option.none_or]
          cases Value.given? (responseFor 201 entries) with
          | some given =>
              rw [Option.bind_some]
              simp only [responseNode]
              cases given.givenField? "schema" <;> rfl
          | none => rfl
  | _ => rfl

theorem succeeds_response {responses : Value} :
    Succeeds (response responses) ↔
      ∀ schema, answerSchema? responses = some schema → Mappable schema := by
  rw [response_eq]
  cases answerSchema? responses with
  | none => exact iff_of_true (succeeds_ok _) nofun
  | some schema =>
      rw [Option.map_some, Option.getD_some, succeeds_map_iff]
      exact ⟨fun mappable _ same => Option.some.inj same ▸ mappable, fun all => all schema rfl⟩

/-- Parameters with a name that can be written and a schema that can be mapped. -/
def RegularParameters (parameters : List Value) : Prop :=
  ∀ parameter ∈ parameters,
    Mappable parameter ∧ Value.WritableIfGiven (parameter.field? "name")

theorem succeeds_parameterProperties {parameters : List Value} :
    Succeeds (parameterProperties parameters) ↔ RegularParameters parameters := by
  rw [parameterProperties, succeeds_bind_ok, succeeds_mapM]
  refine forall₂_congr fun parameter _ => ?_
  rw [parameterProperty]
  refine (succeeds_bind_iff fun _ _ => succeeds_bind_ok).trans ?_
  rw [succeeds_map_iff, parameterName, Value.succeeds_writtenOr]

theorem succeeds_bodyNode {parameters : List Value} :
    Succeeds (bodyNode parameters) ↔ ∀ first, parameters.head? = some first →
      Mappable ((first.field? "schema").getD .null) := by
  cases parameters with
  | nil => exact iff_of_true (succeeds_ok _) nofun
  | cons first rest =>
      rw [bodyNode, succeeds_bind_ok, succeeds_map_iff, List.head?_cons]
      exact ⟨fun mappable _ same => Option.some.inj same ▸ mappable, fun all => all first rfl⟩

namespace Candidate

/-- An operation of which everything can be written and mapped. -/
structure Buildable (candidate : Candidate) : Prop where
  summary : Value.WritableIfGiven (candidate.operation.field? "summary")
  response : ∀ schema,
    answerSchema? ((candidate.operation.field? "responses").getD .null) = some schema →
      Mappable schema
  path_parameters : RegularParameters (parametersIn .path candidate.parameters)
  query_parameters : RegularParameters (parametersIn .query candidate.parameters)
  body : ∀ first, (parametersIn .body candidate.parameters).head? = some first →
    Mappable ((first.field? "schema").getD .null)
  path : (propertyName? candidate.path).isSome = true

/-- A path that is text becomes a part of the operation. -/
private theorem succeeds_placed {path : Option String} {operation : String → Operation} :
    Succeeds (match path with
      | none => Logged.fault .invalidField
      | some path => (pure (operation path) : Logged Operation)).result ↔ path.isSome = true := by
  cases path with
  | none => exact iff_of_false (not_succeeds_error _) nofun
  | some path => exact iff_of_true (succeeds_ok _) rfl

theorem succeeds_build {candidate : Candidate} {name : String} :
    Succeeds (candidate.build name).result ↔ candidate.Buildable := by
  have placed : ∀ operation : String → Operation, _ :=
    fun operation => @succeeds_placed (propertyName? candidate.path) operation
  refine (Logged.succeeds_bind_iff fun _ _ => Logged.succeeds_bind_iff fun _ _ =>
    Logged.succeeds_bind_iff fun _ _ => Logged.succeeds_bind_iff fun _ _ =>
    Logged.succeeds_bind_iff fun _ _ => Logged.succeeds_bind_iff fun _ _ =>
    Logged.succeeds_bind_iff fun _ _ => placed _).trans ?_
  simp only [Logged.succeeds_ofFaulty, Value.succeeds_writtenGiven, succeeds_response,
    succeeds_parameterProperties, succeeds_bodyNode, succeeds_ok, true_and]
  constructor
  · rintro ⟨summary, response, path_parameters, query_parameters, body, path⟩
    exact ⟨summary, response, path_parameters, query_parameters, body, path⟩
  · intro regular
    exact ⟨regular.summary, regular.response, regular.path_parameters, regular.query_parameters,
      regular.body, regular.path⟩

/-- An operation that has no name of its own. -/
def Unnamed (candidate : Candidate) : Prop :=
  ∀ given, Value.given? (candidate.operation.field? "operationId") = some given →
    given.toText = ""

/-- An operation that is left out or built. -/
structure Regular (candidate : Candidate) : Prop where
  identifier : Value.WritableIfGiven (candidate.operation.field? "operationId")
  named : candidate.Unnamed → ∃ text, candidate.path = .text text
  buildable : candidate.isDeprecated = false → candidate.Buildable

/-- A name is given unless the operation is unnamed. -/
theorem givenName_eq_none_iff {candidate : Candidate} {name : Option String}
    (given : candidate.givenName = .ok name) : name = none ↔ candidate.Unnamed := by
  obtain ⟨written, found, made⟩ := bind_eq_ok.mp given
  rw [Unnamed]
  rw [Value.writtenGiven] at found
  cases stated : Value.given? (candidate.operation.field? "operationId") with
  | none =>
      rw [stated] at found
      cases found
      cases made
      exact iff_of_true rfl nofun
  | some value =>
      rw [stated] at found
      obtain ⟨text, spelled, rfl⟩ := map_eq_ok.mp found
      have text_eq : text = value.toText := by
        rw [Value.written] at spelled
        split at spelled
        · exact (Except.ok.inj spelled).symm
        · cases spelled
      have unnamed : (∀ other, some value = some other → other.toText = "") ↔ text = "" := by
        rw [text_eq]
        exact ⟨fun all => all value rfl, fun empty _ same => Option.some.inj same ▸ empty⟩
      rw [unnamed]
      split at made
      · next absent => cases absent
      · next empty =>
          cases made
          exact iff_of_true rfl (Option.some.inj empty)
      · next other nonempty same =>
          cases made
          cases same
          exact iff_of_false nofun nonempty

theorem succeeds_name {candidate : Candidate} :
    Succeeds candidate.name ↔
      Value.WritableIfGiven (candidate.operation.field? "operationId") ∧
        (candidate.Unnamed → ∃ text, candidate.path = .text text) := by
  have pathName : Succeeds candidate.pathName ↔ ∃ text, candidate.path = .text text := by
    rw [Candidate.pathName]
    cases candidate.path with
    | text path => exact iff_of_true (succeeds_ok _) ⟨path, rfl⟩
    | _ => exact iff_of_false (not_succeeds_error _) nofun
  have givenName : Succeeds candidate.givenName ↔
      Value.WritableIfGiven (candidate.operation.field? "operationId") := by
    rw [Candidate.givenName, ← Value.succeeds_writtenGiven]
    refine (succeeds_bind_iff fun given _ => ?_).trans (and_iff_left trivial)
    split <;> exact iff_of_true (succeeds_ok _) trivial
  rw [Candidate.name]
  refine (succeeds_bind_iff fun name given => ?_).trans (and_congr_left' givenName)
  rw [← pathName, ← givenName_eq_none_iff given]
  cases name with
  | some name => exact iff_of_true (succeeds_ok _) nofun
  | none => exact (imp_iff_right rfl).symm

theorem succeeds_extract {candidate : Candidate} :
    Succeeds candidate.extract.result ↔ candidate.Regular := by
  have later : ∀ name, Succeeds
      (if candidate.isDeprecated then Logged.mk [candidate.skipped name] (.ok none)
        else do
          let operation ← candidate.build name
          pure (some operation)).result ↔
        (candidate.isDeprecated = false → candidate.Buildable) := by
    intro name
    cases candidate.isDeprecated with
    | true => exact iff_of_true (succeeds_ok _) nofun
    | false =>
        refine Logged.succeeds_bind_return.trans ?_
        rw [succeeds_build]
        exact (imp_iff_right rfl).symm
  refine (Logged.succeeds_bind_iff fun name _ => later name).trans ?_
  rw [Logged.succeeds_ofFaulty, succeeds_name, and_assoc]
  exact ⟨fun holds => ⟨holds.1, holds.2.1, holds.2.2⟩,
    fun regular => ⟨regular.identifier, regular.named, regular.buildable⟩⟩

end Candidate

/-- The operation that an entry of a path item is, if it is one. -/
def candidate? (path : Value) (entry : Value × Value) : Option Candidate :=
  match Method.ofName? (Text.lowerString entry.1.toText), entry.2 with
  | some method, .map fields => some ⟨path, method, .map fields⟩
  | _, _ => none

/-- An entry of a path item whose key can be written; if it is an operation, a regular one. -/
def RegularEntry (path : Value) (entry : Value × Value) : Prop :=
  entry.1.isWritable = true ∧ ∀ found, candidate? path entry = some found → found.Regular

theorem candidate_eq (path : Value) (entry : Value × Value) :
    candidate path entry =
      if entry.1.isWritable then .ok (candidate? path entry) else .error .badValue := by
  rw [candidate, methodOf, Value.written]
  split
  · simp only [ok_bind, candidate?]
    cases Method.ofName? (Text.lowerString entry.1.toText) with
    | none => rfl
    | some method => cases entry.2 <;> rfl
  · rfl

theorem succeeds_operationAt {path : Value} {entry : Value × Value} :
    Succeeds (operationAt path entry).result ↔ RegularEntry path entry := by
  rw [operationAt, candidate_eq, RegularEntry]
  split
  · next writable =>
      rw [and_iff_right writable]
      cases candidate? path entry with
      | none => exact iff_of_true (succeeds_ok _) nofun
      | some found =>
          refine (Logged.succeeds_bind_iff fun value same => ?_).trans
            (and_iff_right (succeeds_ok _))
          rw [← Except.ok.inj same]
          refine Candidate.succeeds_extract.trans ?_
          exact ⟨fun regular _ equal => Option.some.inj equal ▸ regular, fun all => all found rfl⟩
  · next unwritable =>
      exact iff_of_false (not_succeeds_error _) fun holds => unwritable holds.1

theorem succeeds_operations {paths : List (Value × Value)} :
    Succeeds (operations paths).result ↔
      ∀ item ∈ pathEntries paths, RegularEntry item.1 item.2 := by
  rw [operations, Logged.succeeds_bind_return, Logged.succeeds_forEach]
  exact forall₂_congr fun item _ => succeeds_operationAt

/-! ## Documents -/

/-- A document of which everything can be written and mapped. -/
structure Regular (document : Value) (paths : List (Value × Value)) : Prop where
  info : RegularInfo ((document.field? "info").getD .null)
  definitions : ∀ entry ∈ definitionEntries document,
    entry.1.isWritable = true ∧ Mappable entry.2
  operations : ∀ item ∈ pathEntries paths, RegularEntry item.1 item.2

theorem succeeds_documentBuild {version : String} {paths : List (Value × Value)}
    {document : Value} :
    Succeeds (build version paths document).result ↔ Regular document paths := by
  rw [build]
  refine (Logged.succeeds_bind_iff fun _ _ => Logged.succeeds_bind_iff fun _ _ =>
    Logged.succeeds_bind_return).trans ?_
  rw [Logged.succeeds_ofFaulty, Logged.succeeds_ofFaulty, succeeds_info, succeeds_definitions,
    succeeds_operations]
  exact ⟨fun holds => ⟨holds.1, holds.2.1, holds.2.2⟩,
    fun regular => ⟨regular.info, regular.definitions, regular.operations⟩⟩

/-! ## Faults -/

theorem faults_ofFaulty {α : Type} (result : Except Fault α) :
    EndsWithin IsFault (Logged.ofFaulty result).result :=
  EndsWithin.ofFaulty result fun fault _ => ⟨fault, rfl⟩

namespace Candidate

theorem faults_build (candidate : Candidate) (name : String) :
    EndsWithin IsFault (candidate.build name).result := by
  refine EndsWithin.logged_bind (endsWithin_ok _ _) fun _ _ => ?_
  refine EndsWithin.logged_bind (faults_ofFaulty _) fun _ _ => ?_
  refine EndsWithin.logged_bind (faults_ofFaulty _) fun _ _ => ?_
  refine EndsWithin.logged_bind (faults_ofFaulty _) fun _ _ => ?_
  refine EndsWithin.logged_bind (faults_ofFaulty _) fun _ _ => ?_
  refine EndsWithin.logged_bind (endsWithin_ok _ _) fun _ _ => ?_
  refine EndsWithin.logged_bind (faults_ofFaulty _) fun _ _ => ?_
  split
  · rintro _ ⟨⟩
    exact ⟨_, rfl⟩
  · exact EndsWithin.logged_return _

theorem faults_extract (candidate : Candidate) : EndsWithin IsFault candidate.extract.result := by
  refine EndsWithin.logged_bind (faults_ofFaulty _) fun name _ => ?_
  split
  · exact endsWithin_ok _ _
  · exact EndsWithin.logged_bind (faults_build candidate name) fun _ _ => EndsWithin.logged_return _

end Candidate

theorem faults_operationAt (path : Value) (entry : Value × Value) :
    EndsWithin IsFault (operationAt path entry).result := by
  refine EndsWithin.logged_bind (faults_ofFaulty _) fun found _ => ?_
  split
  · exact Candidate.faults_extract _
  · exact EndsWithin.logged_return _

theorem faults_operations (paths : List (Value × Value)) :
    EndsWithin IsFault (operations paths).result := by
  rw [operations]
  refine EndsWithin.logged_bind ?_ fun _ _ => EndsWithin.logged_return _
  refine EndsWithin.forEach (fun item => ?_) _
  exact faults_operationAt item.1 item.2

/-- Nothing in an accepted document is refused; what is out of place is skipped or is a fault. -/
theorem faults_documentBuild (version : String) (paths : List (Value × Value))
    (document : Value) : EndsWithin IsFault (build version paths document).result := by
  rw [build]
  refine EndsWithin.logged_bind (faults_ofFaulty _) fun _ _ => ?_
  refine EndsWithin.logged_bind (faults_ofFaulty _) fun _ _ => ?_
  exact EndsWithin.logged_bind (faults_operations paths) fun _ _ => EndsWithin.logged_return _

/-- The extraction ends at the version, at the paths, or where the build of the interface ends. -/
theorem extract_cases (entries : List (Value × Value)) :
    (¬ Value.WritableIfGiven (statedVersion? (.map entries)) ∧ ¬ Supported (.map entries) ∧
        (extract (.map entries)).result = .error (.fault .badValue)) ∨
      (Value.WritableIfGiven (statedVersion? (.map entries)) ∧ ¬ Supported (.map entries) ∧
        ∃ failure, (extract (.map entries)).result = .error (.failure failure) ∧
          failure.kind = .unsupportedVersion) ∨
      (Supported (.map entries) ∧ pathsOf? (.map entries) = none ∧
        ∃ failure, (extract (.map entries)).result = .error (.failure failure) ∧
          failure.kind = .malformedDocument) ∨
      Supported (.map entries) ∧ ∃ paths, pathsOf? (.map entries) = some paths ∧
        (extract (.map entries)).result =
          (build Failure.supportedVersion paths (.map entries)).result := by
  rcases formatVersion_cases entries with ⟨unwritable, unsupported, failed⟩ |
    ⟨writable, ⟨supported, read⟩ | ⟨unsupported, failure, failed, family⟩⟩
  · refine Or.inl ⟨unwritable, unsupported, ?_⟩
    rw [extract, failed]
    rfl
  · rcases paths_cases (.map entries) with ⟨paths, found, known⟩ |
      ⟨missing, failure, failed, family⟩
    · refine Or.inr (Or.inr (Or.inr ⟨supported, paths, found, ?_⟩))
      rw [extract, read]
      simp only [known]
    · refine Or.inr (Or.inr (Or.inl ⟨supported, missing, failure, ?_, family⟩))
      rw [extract, read]
      simp only [failed]
      rfl
  · refine Or.inr (Or.inl ⟨writable, unsupported, failure, ?_, family⟩)
    rw [extract, failed]
    rfl

/-- What becomes of a document. It is refused for a version that is not the supported one, or else
for its paths, and for no other reason; it is accepted exactly if it is regular. -/
structure Judged (document : Value) (result : Except Problem Spec) : Prop where
  version : Refused .unsupportedVersion result ↔
    ¬ Supported document ∧ Value.WritableIfGiven (statedVersion? document)
  paths : Refused .malformedDocument result ↔ Supported document ∧ pathsOf? document = none
  accepted : Succeeds result ↔ Supported document ∧
    ∃ paths, pathsOf? document = some paths ∧ Regular document paths
  only : ∀ kind, Refused kind result → kind = .unsupportedVersion ∨ kind = .malformedDocument

/-- Every mapping is judged by its version, its paths and its regularity. -/
theorem judged_extract (entries : List (Value × Value)) :
    Judged (.map entries) (extract (.map entries)).result := by
  rcases extract_cases entries with ⟨unwritable, unsupported, ended⟩ |
    ⟨writable, unsupported, failure, ended, family⟩ |
    ⟨supported, missing, failure, ended, family⟩ | ⟨supported, paths, found, ended⟩ <;> rw [ended]
  · have unrefused : ∀ kind, ¬ Refused kind (.error (.fault .badValue) : Except Problem Spec) := by
      rintro kind ⟨_, ⟨⟩, _⟩
    exact ⟨iff_of_false (unrefused _) fun holds => unwritable holds.2,
      iff_of_false (unrefused _) fun holds => unsupported holds.1,
      iff_of_false (not_succeeds_error _) fun holds => unsupported holds.1,
      fun kind refused => absurd refused (unrefused kind)⟩
  · refine ⟨iff_of_true (refused_failure_iff.mpr family) ⟨unsupported, writable⟩,
      iff_of_false ?_ fun holds => unsupported holds.1,
      iff_of_false (not_succeeds_error _) fun holds => unsupported holds.1,
      fun kind refused => Or.inl ((refused_failure_iff.mp refused).symm.trans family)⟩
    rw [refused_failure_iff, family]
    decide
  · refine ⟨iff_of_false ?_ fun holds => holds.1 supported,
      iff_of_true (refused_failure_iff.mpr family) ⟨supported, missing⟩,
      iff_of_false (not_succeeds_error _) fun ⟨_, _, found, _⟩ => ?_,
      fun kind refused => Or.inr ((refused_failure_iff.mp refused).symm.trans family)⟩
    · rw [refused_failure_iff, family]
      decide
    · rw [missing] at found
      cases found
  · have unrefused := not_refused_of_isFault
      (faults_documentBuild Failure.supportedVersion paths (.map entries))
    refine ⟨iff_of_false (unrefused _) fun holds => holds.1 supported,
      iff_of_false (unrefused _) fun holds => (nomatch found.symm.trans holds.2), ?_,
      fun kind refused => absurd refused (unrefused kind)⟩
    rw [succeeds_documentBuild, found, and_iff_right supported]
    exact ⟨fun regular => ⟨paths, rfl, regular⟩,
      fun ⟨_, same, regular⟩ => Option.some.inj same ▸ regular⟩

/-- A document with a property whose name is a number. -/
def numberedDocument : Value :=
  .map [(.text "swagger", .text "2.0"),
    (.text "definitions", .map [(.text "Codes", .map [(.text "type", .text "object"),
      (.text "properties", .map [(.int 200, .map [(.text "type", .text "string")])])])]),
    (.text "paths", .map [])]

/-- Its version and its paths are in order, and yet it is not accepted. -/
theorem numberedDocument_faults : Supported numberedDocument ∧
    pathsOf? numberedDocument = some [] ∧
    (extract numberedDocument).result = .error (.fault .invalidField) :=
  ⟨⟨.text "2.0", rfl, rfl⟩, rfl, rfl⟩

end Api

end ClientGen

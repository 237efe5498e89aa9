import ClientGen.Proofs.Api.Acceptance
import ClientGen.Proofs.Api.Extraction

/-!
# Operations of a document

An entry of a path item is an operation if its key names a method and its value is a mapping. The
interface of a document has one operation for each of these entries that is not deprecated, in the
order of the document, and the log has one warning for each of the others. What an entry gives
depends on nothing but the entry: it gives the same where it stands alone.
-/

namespace ClientGen

/-! ## Written values -/

/-- A written text is the plain form of a value. -/
theorem Value.toText_of_written {value : Value} {text : String}
    (written : value.written = .ok text) : value.toText = text := by
  rw [Value.written] at written
  split at written
  · exact Except.ok.inj written
  · cases written

theorem Value.map_toText_of_writtenGiven {value : Option Value} {text : Option String}
    (written : writtenGiven value = .ok text) : (given? value).map toText = text := by
  rw [writtenGiven] at written
  cases found : given? value with
  | none =>
      rw [found] at written
      exact Except.ok.inj written
  | some given =>
      rw [found] at written
      obtain ⟨spelled, spells, rfl⟩ := map_eq_ok.mp written
      rw [Option.map_some, toText_of_written spells]

namespace Api

/-! ## What a document states -/

/-- The entries of path items that are operations, in the order of the document. -/
def candidates (paths : List (Value × Value)) : List Candidate :=
  (pathEntries paths).filterMap fun item => candidate? item.1 item.2

/-- What identifies an operation: its path, its method and its name. -/
def Operation.signature (operation : Operation) : String × Method × String :=
  (operation.path, operation.method, operation.name)

namespace Candidate

/-- The path of an operation as text. -/
def pathText (candidate : Candidate) : String := (Schema.propertyName? candidate.path).getD ""

/-- The text of the identifier that an operation has, unless that is null or empty. -/
def identifier? (candidate : Candidate) : Option String :=
  ((Value.given? (candidate.operation.field? "operationId")).map Value.toText).filter (· ≠ "")

/-- The name of an operation: its identifier, or else what its method and its path make. -/
def title (candidate : Candidate) : String :=
  candidate.identifier?.getD (Name.ofMethod candidate.method candidate.pathText)

/-- What a document states that identifies an operation. -/
def signature (candidate : Candidate) : String × Method × String :=
  (candidate.pathText, candidate.method, candidate.title)

/-- Paths with one entry, which is the operation. -/
def alone (candidate : Candidate) : List (Value × Value) :=
  [(candidate.path, .map [(.text candidate.method.name, candidate.operation)])]

end Candidate

/-- Whether a record is a warning that an operation is left out. -/
def tellsOfSkip (record : LogRecord) : Bool :=
  record.level = .warning ∧ "Skip deprecated operation ".toList <+: record.message.toList

/-! ## Names -/

namespace Candidate

variable {candidate : Candidate} {operation : Operation} {name : String}

theorem identifier?_of_givenName {given : Option String} (found : candidate.givenName = .ok given) :
    candidate.identifier? = given := by
  obtain ⟨text, written, made⟩ := bind_eq_ok.mp found
  rw [identifier?, Value.map_toText_of_writtenGiven written]
  split at made
  · exact Except.ok.inj made
  · exact Except.ok.inj made
  · next nonempty =>
      rw [← Except.ok.inj made, Option.filter_some, if_pos]
      exact decide_eq_true nonempty

/-- An operation that is named has the name that its document states. -/
theorem title_of_name (named : candidate.name = .ok name) : candidate.title = name := by
  obtain ⟨given, found, named⟩ := bind_eq_ok.mp named
  rw [title, identifier?_of_givenName found]
  cases given with
  | some own => exact Except.ok.inj named
  | none =>
      have given : candidate.pathName = .ok name := named
      rw [Option.getD_none, pathText]
      cases at_path : candidate.path with
      | text path =>
          rw [pathName, at_path] at given
          exact Except.ok.inj given
      | _ =>
          rw [pathName, at_path] at given
          cases given

/-! ## Records -/

theorem tellsOfSkip_skipped (candidate : Candidate) (name : String) :
    tellsOfSkip (candidate.skipped name) = true := by
  refine decide_eq_true ⟨rfl, ?_⟩
  simp only [skipped, String.toList_append, List.append_assoc]
  exact List.prefix_append _ _

theorem not_tellsOfSkip_of_mem_ignoredParameters {parameters : List Value} {record : LogRecord}
    (member : record ∈ ignoredParameters name parameters) : tellsOfSkip record = false := by
  obtain ⟨parameter, _, rfl⟩ := List.mem_map.mp member
  refine decide_eq_false fun tells => ?_
  cases tells.1

theorem not_tellsOfSkip_of_mem_extraBodies {parameters : List Value} {record : LogRecord}
    (member : record ∈ extraBodies name parameters) : tellsOfSkip record = false := by
  match parameters, member with
  | _ :: _ :: _, member =>
      rw [List.mem_singleton.mp member]
      refine decide_eq_false fun tells => ?_
      obtain ⟨_, same⟩ := tells.2
      simp only [String.toList_append, List.append_assoc] at same
      cases (List.cons.inj same).1

/-- Building an operation leaves records about its parameters only. -/
theorem quiet_build (candidate : Candidate) (name : String) :
    LeavesOnly (tellsOfSkip · = false) (candidate.build name) := by
  refine LeavesOnly.bind (fun _ => not_tellsOfSkip_of_mem_ignoredParameters) fun _ => ?_
  refine (LeavesOnly.ofFaulty _ _).bind fun _ => ?_
  refine (LeavesOnly.ofFaulty _ _).bind fun _ => ?_
  refine (LeavesOnly.ofFaulty _ _).bind fun _ => ?_
  refine (LeavesOnly.ofFaulty _ _).bind fun _ => ?_
  refine LeavesOnly.bind (fun _ => not_tellsOfSkip_of_mem_extraBodies) fun _ => ?_
  refine (LeavesOnly.ofFaulty _ _).bind fun _ => ?_
  split <;> exact List.forall_mem_nil _

end Candidate

/-! ## One entry -/

/-- An operation that an entry gives: it is identified as the document states, and it is what the
entry gives where it stands alone. -/
structure Candidate.Gives (candidate : Candidate) (operation : Operation) : Prop where
  signature : operation.signature = candidate.signature
  alone : (operations candidate.alone).result = .ok [operation]

/-- What becomes of an entry of a path item. -/
inductive Treated : Option Candidate → Option Operation → List LogRecord → Prop
  /-- It is no operation. -/
  | ignored : Treated none none []
  /-- It is a deprecated operation and leaves a warning. -/
  | skipped {candidate : Candidate} (deprecated : candidate.isDeprecated = true) :
      Treated (some candidate) none [candidate.skipped candidate.title]
  /-- It gives an operation and leaves no such warning. -/
  | extracted {candidate : Candidate} {operation : Operation} {records : List LogRecord}
      (current : candidate.isDeprecated = false) (gives : candidate.Gives operation)
      (quiet : ∀ record ∈ records, tellsOfSkip record = false) :
      Treated (some candidate) (some operation) records

/-- A method is named by its name in small letters. -/
theorem candidate?_name (path : Value) (method : Method) (fields : List (Value × Value)) :
    candidate? path (.text method.name, .map fields) = some ⟨path, method, .map fields⟩ := by
  have lowered : Text.lowerString method.name = method.name := by
    cases method <;> decide
  rw [candidate?, Value.toText, lowered, Method.ofName?_name]

theorem mapping_of_candidate? {path : Value} {entry : Value × Value} {found : Candidate}
    (made : candidate? path entry = some found) : ∃ fields, found.operation = .map fields := by
  rw [candidate?] at made
  split at made
  · next fields _ _ =>
      rw [← Option.some.inj made]
      exact ⟨fields, rfl⟩
  · cases made

/-- What an entry gives it also gives where it is the only entry of the paths. -/
theorem operations_alone {candidate : Candidate} {operation : Operation}
    (mapping : ∃ fields, candidate.operation = .map fields)
    (extracted : candidate.extract.result = .ok (some operation)) :
    (operations candidate.alone).result = .ok [operation] := by
  obtain ⟨path, method, _⟩ := candidate
  obtain ⟨fields, rfl⟩ := mapping
  have found : (operationAt path (.text method.name, .map fields)).result =
      .ok (some operation) := by
    rw [operationAt, candidate_eq, candidate?_name]
    exact extracted
  have each : List.Forall₂
      (fun item result => (operationAt item.1 item.2).result = .ok result)
      [(path, .text method.name, .map fields)] [some operation] := .cons found .nil
  rw [operations, Logged.result_bind]
  exact bind_eq_ok.mpr ⟨_, Logged.forEach_eq_ok.mpr each, rfl⟩

/-- An entry is left out with a warning if it is deprecated, and is built under its title if not. -/
theorem Candidate.extract_eq_ok {candidate : Candidate} {found : Option Operation}
    (extracted : candidate.extract.result = .ok found) :
    (candidate.isDeprecated = true ∧ found = none ∧
        candidate.extract.logs = [candidate.skipped candidate.title]) ∨
      candidate.isDeprecated = false ∧ ∃ operation, found = some operation ∧
        (candidate.build candidate.title).result = .ok operation ∧
        candidate.extract.logs = (candidate.build candidate.title).logs := by
  obtain ⟨name, named, done⟩ := Logged.result_bind_eq_ok.mp extracted
  rw [Candidate.title_of_name (Logged.result_ofFaulty_eq_ok.mp named), Candidate.extract,
    Logged.logs_bind_of_ok named, Logged.logs_ofFaulty, List.nil_append]
  cases deprecated : candidate.isDeprecated with
  | true =>
      rw [if_pos deprecated] at done
      exact Or.inl ⟨rfl, (Except.ok.inj done).symm, rfl⟩
  | false =>
      have current := Bool.eq_false_iff.mp deprecated
      rw [if_neg current] at done
      obtain ⟨operation, built, done⟩ := Logged.result_bind_eq_ok.mp done
      obtain rfl := Logged.result_return_eq_ok.mp done
      refine Or.inr ⟨rfl, operation, rfl, built, ?_⟩
      rw [if_neg Bool.false_ne_true, Logged.logs_bind_of_ok built, Logged.logs_return,
        List.append_nil]

/-- What becomes of an entry that is an operation. -/
theorem treated_extract {candidate : Candidate} {found : Option Operation}
    (mapping : ∃ fields, candidate.operation = .map fields)
    (done : candidate.extract.result = .ok found) :
    Treated (some candidate) found candidate.extract.logs := by
  obtain ⟨deprecated, rfl, records⟩ | ⟨current, operation, rfl, built, records⟩ :=
    Candidate.extract_eq_ok done
  · rw [records]
    exact .skipped deprecated
  · have made := (Candidate.made_of_build built).1
    rw [records]
    refine .extracted current ⟨?_, operations_alone mapping done⟩
      (Candidate.quiet_build candidate candidate.title)
    rw [Operation.signature, Candidate.signature, Candidate.pathText, made.path, made.name,
      made.method]
    rfl

/-- An entry is either no operation or the operation that it states. -/
theorem operationAt_eq_ok {path : Value} {entry : Value × Value} {found : Option Operation}
    (done : (operationAt path entry).result = .ok found) :
    (candidate? path entry = none ∧ found = none ∧ (operationAt path entry).logs = []) ∨
      ∃ candidate, candidate? path entry = some candidate ∧
        candidate.extract.result = .ok found ∧
        (operationAt path entry).logs = candidate.extract.logs := by
  rw [operationAt, candidate_eq] at done ⊢
  split at done
  · next writable =>
      rw [if_pos writable]
      cases stated : candidate? path entry with
      | none =>
          rw [stated] at done
          exact Or.inl ⟨rfl, (Except.ok.inj done).symm, rfl⟩
      | some candidate =>
          rw [stated] at done
          exact Or.inr ⟨candidate, rfl, done, rfl⟩
  · cases done

/-- The step of the loop over entries. -/
theorem treated_operationAt {path : Value} {entry : Value × Value} {found : Option Operation}
    (done : (operationAt path entry).result = .ok found) :
    Treated (candidate? path entry) found (operationAt path entry).logs := by
  rcases operationAt_eq_ok done with ⟨none, rfl, quiet⟩ | ⟨candidate, stated, extracted, logs⟩
  · rw [none, quiet]
    exact .ignored
  · rw [stated, logs]
    exact treated_extract (mapping_of_candidate? stated) extracted

/-! ## All entries -/

/-- What becomes of the operations of some paths: those that are not deprecated are in the
interface, in the same order, and the others are warned of. -/
structure Accounted (paths : List (Value × Value)) (operations : List Operation)
    (records : List LogRecord) : Prop where
  signatures : operations.map Operation.signature =
    ((candidates paths).filter fun candidate => !candidate.isDeprecated).map Candidate.signature
  warnings : records.filter tellsOfSkip =
    ((candidates paths).filter Candidate.isDeprecated).map
      fun candidate => candidate.skipped candidate.title
  alone : List.Forall₂
    (fun candidate operation => (Api.operations candidate.alone).result = .ok [operation])
    ((candidates paths).filter fun candidate => !candidate.isDeprecated) operations

/-- The run of the loop over entries. -/
theorem gives_of_treated {items : List (Value × Value × Value)} {found : List (Option Operation)}
    (each : List.Forall₂ (fun item result => Treated (candidate? item.1 item.2) result
      (operationAt item.1 item.2).logs) items found) :
    let stated := items.filterMap fun item => candidate? item.1 item.2
    List.Forall₂ Candidate.Gives (stated.filter fun candidate => !candidate.isDeprecated)
        (found.filterMap id) ∧
      (items.flatMap fun item => (operationAt item.1 item.2).logs).filter tellsOfSkip =
        (stated.filter Candidate.isDeprecated).map
          fun candidate => candidate.skipped candidate.title := by
  induction each with
  | nil => exact ⟨.nil, rfl⟩
  | @cons item result items found first _ ih =>
      obtain ⟨gives, warned⟩ := ih
      rw [List.flatMap_cons, List.filter_append, warned, List.filterMap_cons, List.filterMap_cons]
      generalize candidate? item.1 item.2 = stated at first ⊢
      generalize (operationAt item.1 item.2).logs = records at first ⊢
      cases first with
      | ignored => exact ⟨gives, rfl⟩
      | @skipped candidate deprecated =>
          dsimp only [id]
          refine ⟨?_, ?_⟩
          · rw [List.filter_cons_of_neg (by rw [deprecated]; nofun)]
            exact gives
          · rw [List.filter_cons_of_pos deprecated, List.filter_cons_of_pos
              (Candidate.tellsOfSkip_skipped _ _)]
            rfl
      | @extracted candidate operation _ current given quiet =>
          have silent : records.filter tellsOfSkip = [] :=
            List.filter_eq_nil_iff.mpr fun record member =>
              Bool.eq_false_iff.mp (quiet record member)
          dsimp only [id]
          refine ⟨?_, ?_⟩
          · rw [List.filter_cons_of_pos (by rw [current]; rfl)]
            exact .cons given gives
          · rw [List.filter_cons_of_neg (Bool.eq_false_iff.mp current), silent, List.nil_append]

theorem accounted_operations {paths : List (Value × Value)} {list : List Operation}
    (extracted : (operations paths).result = .ok list) :
    Accounted paths list (operations paths).logs := by
  obtain ⟨found, done, made⟩ := Logged.result_bind_eq_ok.mp extracted
  obtain rfl := Logged.result_return_eq_ok.mp made
  obtain ⟨gives, warned⟩ := gives_of_treated
    ((Logged.forEach_eq_ok.mp done).imp fun _ _ => treated_operationAt)
  have records : (operations paths).logs =
      (pathEntries paths).flatMap fun item => (operationAt item.1 item.2).logs := by
    rw [operations, Logged.logs_bind_of_ok done, Logged.logs_forEach done, Logged.logs_return,
      List.append_nil]
  exact {
    signatures := map_eq_of_forall₂ gives fun _ _ given => given.signature
    warnings := records ▸ warned
    alone := gives.imp fun _ _ given => given.alone }

/-- Only the loop over entries leaves records. -/
theorem extract_eq_ok_logs {document : Value} {spec : Spec}
    (extracted : (extract document).result = .ok spec) :
    ∃ paths, pathsOf? document = some paths ∧
      (operations paths).result = .ok spec.operations ∧
      (extract document).logs = (operations paths).logs := by
  rw [extract] at extracted ⊢
  cases accepted : formatVersion document with
  | error problem =>
      rw [accepted] at extracted
      cases extracted
  | ok version =>
      rw [accepted] at extracted
      rcases paths_cases document with ⟨paths, given, found⟩ | ⟨_, failure, found, _⟩
      · rw [found] at extracted
        obtain ⟨general, stated, built⟩ := Logged.result_bind_eq_ok.mp extracted
        obtain ⟨definitions, defined, built⟩ := Logged.result_bind_eq_ok.mp built
        obtain ⟨list, done, made⟩ := Logged.result_bind_eq_ok.mp built
        rw [← Logged.result_return_eq_ok.mp made]
        refine ⟨paths, given, done, ?_⟩
        dsimp only
        rw [found]
        dsimp only
        rw [build, Logged.logs_bind_of_ok stated, Logged.logs_bind_of_ok defined,
          Logged.logs_bind_of_ok done, Logged.logs_ofFaulty, Logged.logs_ofFaulty,
          Logged.logs_return, List.nil_append, List.nil_append, List.append_nil]
      · rw [found] at extracted
        cases extracted

/-- No operation of a document is lost, invented or moved, and each that is left out is told. -/
theorem accounted_extract {document : Value} {spec : Spec}
    (extracted : (extract document).result = .ok spec) :
    ∃ paths, pathsOf? document = some paths ∧
      Accounted paths spec.operations (extract document).logs := by
  obtain ⟨paths, given, done, records⟩ := extract_eq_ok_logs extracted
  exact ⟨paths, given, records ▸ accounted_operations done⟩

/-- A document with entries of all kinds: no path item, no operation, a method in capitals, an empty
name, a name that is a number, a deprecated operation with a name and one without. -/
def shopDocument : Value :=
  .map [(.text "swagger", .text "2.0"),
    (.text "paths", .map [(.text "/closed", .null),
      (.text "/carts", .map
        [(.text "parameters", .list [.map [(.text "in", .text "query"), (.text "name", .text "x")]]),
        (.text "GET", .map [(.text "operationId", .text "")]),
        (.text "put", .null),
        (.text "post", .map [(.text "operationId", .text "fill"), (.text "deprecated", .int 1)])]),
      (.text "/carts/\x7bid\x7d", .map
        [(.text "Delete", .map [(.text "deprecated", .bool true)]),
        (.text "get", .map [(.text "operationId", .int 7), (.text "deprecated", .text "")])])])]

theorem shopDocument_accounted : ∃ spec, (extract shopDocument).result = .ok spec ∧
    spec.operations.map Operation.signature =
      [("/carts", .get, "getCarts"), ("/carts/\x7bid\x7d", .get, "7")] ∧
    (extract shopDocument).logs.map (·.message) =
      ["Skip deprecated operation fill (POST /carts)",
        "Skip deprecated operation deleteCartsById (DELETE /carts/\x7bid\x7d)"] ∧
    ∃ paths, pathsOf? shopDocument = some paths ∧
      Accounted paths spec.operations (extract shopDocument).logs := by
  have extracted : (extract shopDocument).result = .ok _ := rfl
  exact ⟨_, extracted, by decide +kernel, by decide +kernel, accounted_extract extracted⟩

end Api

end ClientGen

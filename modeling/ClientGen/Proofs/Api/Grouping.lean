import ClientGen.Proofs.Api.Accounting
import ClientGen.Proofs.Schema.Properties

/-!
# Parameters by place

A parameter is passed in the place that its entry names. The entries of one place make the
properties of one object, the first entry for the body decides about the body, and every entry that
names none of these places is told of in the log.
-/

namespace ClientGen

namespace Api

open Schema

/-! ## Places -/

/-- The word that names a place. -/
def Place.word : Place → String
  | .path => "path"
  | .query => "query"
  | .body => "body"

/-- Whether an entry of a parameter list is a mapping that names a place. -/
def isPlacedIn (place : Place) (parameter : Value) : Bool :=
  parameter.field? "in" = some (.text place.word)

theorem place?_eq_some_iff {place : Place} {parameter : Value} :
    place? parameter = some place ↔ isPlacedIn place parameter = true := by
  rw [place?, isPlacedIn, decide_eq_true_eq]
  split
  · next found => cases place <;> simp [found, Place.word]
  · next found => cases place <;> simp [found, Place.word]
  · next found => cases place <;> simp [found, Place.word]
  · next path query body =>
      refine iff_of_false nofun fun found => ?_
      cases place with
      | path => exact path found
      | query => exact query found
      | body => exact body found

theorem isPlacedIn_eq (place : Place) (parameter : Value) :
    isPlacedIn place parameter = decide (place? parameter = some place) := by
  rw [Bool.eq_iff_iff, decide_eq_true_eq, place?_eq_some_iff]

theorem isNone_place? (parameter : Value) :
    (place? parameter).isNone = !(isPlacedIn .path parameter || isPlacedIn .query parameter ||
      isPlacedIn .body parameter) := by
  rw [isPlacedIn_eq, isPlacedIn_eq, isPlacedIn_eq]
  cases place? parameter with
  | none => rfl
  | some place => cases place <;> rfl

namespace Candidate

/-- The parameters that are passed in a place, in the order of the list. -/
def passedIn (candidate : Candidate) (place : Place) : List Value :=
  candidate.parameters.filter (isPlacedIn place)

/-- The entries of the parameter list that name no place. -/
def unplaced (candidate : Candidate) : List Value :=
  candidate.parameters.filter fun parameter =>
    !(isPlacedIn .path parameter || isPlacedIn .query parameter || isPlacedIn .body parameter)

theorem parametersIn_eq (candidate : Candidate) (place : Place) :
    parametersIn place candidate.parameters = candidate.passedIn place :=
  List.filter_congr fun parameter _ => (isPlacedIn_eq place parameter).symm

theorem ignoredParameters_eq (candidate : Candidate) (name : String) :
    ignoredParameters name candidate.parameters =
      candidate.unplaced.map (ignoredParameter name) := by
  rw [ignoredParameters, unplaced, List.filter_congr fun parameter _ => isNone_place? parameter]

end Candidate

/-! ## Properties -/

/-- The name under which a parameter is passed, empty where it has none. -/
def parameterTitle (parameter : Value) : String :=
  ((parameter.field? "name").map Value.toText).getD ""

/-- The properties of the object that parameters make. The names stand where an entry has them
first, each with the schema of the last entry that has the name, required as that entry says. -/
structure PropertiesOf (entries : List Value) (properties : List (String × TypeNode)) : Prop where
  order : properties.map Prod.fst = (entries.map parameterTitle).eraseDups
  last : ∀ name node, (name, node) ∈ properties ↔
    ∃ entry, (entries.filter fun entry => parameterTitle entry = name).getLast? = some entry ∧
      map (entry.flag "required") entry = .ok node

theorem parameterTitle_of_parameterName {parameter : Value} {name : String}
    (named : parameterName parameter = .ok name) : parameterTitle parameter = name := by
  rw [parameterName] at named
  rw [parameterTitle]
  cases found : parameter.field? "name" with
  | none =>
      rw [found] at named
      exact Except.ok.inj named
  | some value =>
      rw [found] at named
      exact Value.toText_of_written named

/-- The property of a parameter has its title, and the node of its entry. -/
theorem titled_of_parameterProperty {parameter : Value} {property : String × TypeNode}
    (made : parameterProperty parameter = .ok property) :
    parameterTitle parameter = property.1 ∧
      map (parameter.flag "required") parameter = .ok property.2 := by
  have title := parameterTitle_of_parameterName (parameterProperty_eq_ok made)
  obtain ⟨node, mapped, made⟩ := bind_eq_ok.mp made
  obtain ⟨name, _, made⟩ := bind_eq_ok.mp made
  rw [← Except.ok.inj made] at title ⊢
  exact ⟨title, mapped⟩

theorem propertiesOf_parameterProperties {entries : List Value}
    {properties : List (String × TypeNode)} (made : parameterProperties entries = .ok properties) :
    PropertiesOf entries properties := by
  obtain ⟨list, mapped, made⟩ := bind_eq_ok.mp made
  obtain rfl := Except.ok.inj made
  have each := (mapM_eq_ok.mp mapped).imp fun _ _ => titled_of_parameterProperty
  constructor
  · have titles : list.map Prod.fst = entries.map parameterTitle :=
      map_eq_of_forall₂ each fun _ _ holds => holds.1.symm
    rw [TypeNode.map_fst_putProperties, List.map_nil, TypeNode.addNames_nil, titles]
  · intro name node
    rw [TypeNode.mem_putProperties_nil]
    have agree : ∀ entry (property : String × TypeNode),
        (parameterTitle entry = property.1 ∧
          map (entry.flag "required") entry = .ok property.2) →
        (decide (parameterTitle entry = name) = true ↔ decide (property.1 = name) = true) := by
      rintro entry property ⟨same, _⟩
      rw [same]
    have named := List.rel_filter agree each
    constructor
    · intro found
      obtain ⟨entry, at_end, _, mapped⟩ := getLast?_of_forall₂ named.flip found
      exact ⟨entry, at_end, mapped⟩
    · rintro ⟨entry, at_end, mapped⟩
      obtain ⟨property, found, titled, made⟩ := getLast?_of_forall₂ named at_end
      have title : parameterTitle entry = name :=
        of_decide_eq_true (List.mem_filter.mp (List.mem_of_getLast? at_end)).2
      have same : property = (name, node) :=
        Prod.ext (titled.symm.trans title) (Except.ok.inj (made.symm.trans mapped))
      rw [found, same]

/-! ## Bodies -/

/-- The body that parameters make: the schema of the first of them, required as that one says. -/
structure BodyOf (entries : List Value) (body : Option TypeNode) : Prop where
  absent : body = none ↔ entries = []
  first : ∀ entry, entries.head? = some entry → ∃ node, body = some node ∧
    map (entry.flag "required") ((entry.field? "schema").getD .null) = .ok node

theorem bodyOf_bodyNode {entries : List Value} {body : Option TypeNode}
    (made : bodyNode entries = .ok body) : BodyOf entries body := by
  cases entries with
  | nil =>
      obtain rfl := Except.ok.inj made
      refine ⟨iff_of_true rfl rfl, ?_⟩
      intro entry found
      cases found
  | cons entry rest =>
      obtain ⟨node, mapped, made⟩ := bind_eq_ok.mp made
      obtain rfl := Except.ok.inj made
      refine ⟨iff_of_false (Option.some_ne_none node) (List.cons_ne_nil entry rest), ?_⟩
      rintro _ ⟨⟩
      exact ⟨node, rfl, mapped⟩

/-- The record about several parameters for the body. -/
def surplusRecord (operation : String) (entries : List Value) : LogRecord :=
  ⟨.warning, "Operation " ++ operation ++ " declares " ++ toString entries.length ++
    " body parameters; using " ++
      ((entries.head?.bind (Value.field? "name")).getD .null).quoted⟩

theorem extraBodies_eq (operation : String) (entries : List Value) :
    extraBodies operation entries =
      if 2 ≤ entries.length then [surplusRecord operation entries] else [] := by
  match entries with
  | [] => rfl
  | [_] => rfl
  | _ :: _ :: _ => simp [extraBodies, surplusRecord]

/-! ## Operations -/

/-- What an operation and the records about it have of the parameter list of its entry. Every entry
of the list is either passed in one place or told of, those that are told of in their order; more
than one parameter for the body is warned of once. -/
structure Candidate.Grouped (candidate : Candidate) (operation : Operation)
    (records : List LogRecord) : Prop where
  entries : (candidate.passedIn .path ++ candidate.passedIn .query ++ candidate.passedIn .body ++
    candidate.unplaced).Perm candidate.parameters
  path : PropertiesOf (candidate.passedIn .path) operation.pathParameters
  query : PropertiesOf (candidate.passedIn .query) operation.queryParameters
  body : BodyOf (candidate.passedIn .body) operation.body
  records : records = candidate.unplaced.map (ignoredParameter operation.name) ++
    if 2 ≤ (candidate.passedIn .body).length then
      [surplusRecord operation.name (candidate.passedIn .body)]
    else []

/-- Every entry of the parameter list names one place or none. -/
theorem Candidate.perm_parameters (candidate : Candidate) :
    (candidate.passedIn .path ++ candidate.passedIn .query ++ candidate.passedIn .body ++
      candidate.unplaced).Perm candidate.parameters := by
  rw [List.perm_iff_count]
  intro entry
  have counted : ∀ choice : Value → Bool, (candidate.parameters.filter choice).count entry =
      if choice entry = true then candidate.parameters.count entry else 0 := by
    intro choice
    split
    · next chosen => exact List.count_filter chosen
    · next left_out =>
        exact List.count_eq_zero.mpr fun member => left_out (List.mem_filter.mp member).2
  rw [List.count_append, List.count_append, List.count_append, passedIn, passedIn, passedIn,
    unplaced, counted, counted, counted, counted, isPlacedIn_eq, isPlacedIn_eq, isPlacedIn_eq]
  cases place? entry with
  | none => simp
  | some place => cases place <;> simp

theorem Candidate.grouped_of_extract {candidate : Candidate} {operation : Operation}
    (extracted : candidate.extract.result = .ok (some operation)) :
    candidate.Grouped operation candidate.extract.logs := by
  obtain ⟨_, none, _⟩ | ⟨_, found, same, built, records⟩ := extract_eq_ok extracted
  · cases none
  obtain rfl := Option.some.inj same
  obtain ⟨made, logs⟩ := made_of_build built
  have path := made.pathParameters
  have query := made.queryParameters
  have body := made.body
  rw [parametersIn_eq] at path query body
  exact {
    entries := candidate.perm_parameters
    path := propertiesOf_parameterProperties path
    query := propertiesOf_parameterProperties query
    body := bodyOf_bodyNode body
    records := by
      rw [records, logs, ignoredParameters_eq, parametersIn_eq, extraBodies_eq, made.name] }

/-! ## Documents -/

/-- The run of the loop over entries: the operations that are not left out are extracted in order,
and the records are those of all of them. -/
theorem extracts_items {items : List (Value × Value × Value)} {found : List (Option Operation)}
    (each : List.Forall₂ (fun item result => (operationAt item.1 item.2).result = .ok result)
      items found) :
    let stated := items.filterMap fun item => candidate? item.1 item.2
    List.Forall₂ (fun candidate operation => candidate.extract.result = .ok (some operation))
        (stated.filter fun candidate => !candidate.isDeprecated) (found.filterMap id) ∧
      (items.flatMap fun item => (operationAt item.1 item.2).logs) =
        stated.flatMap fun candidate => candidate.extract.logs := by
  induction each with
  | nil => exact ⟨.nil, rfl⟩
  | @cons item result items found first _ ih =>
      obtain ⟨extracted, records⟩ := ih
      rw [List.flatMap_cons, List.filterMap_cons, List.filterMap_cons, records]
      rcases operationAt_eq_ok first with ⟨none, rfl, quiet⟩ | ⟨candidate, stated, done, logs⟩
      · rw [none, quiet]
        exact ⟨extracted, rfl⟩
      · rw [stated, logs]
        dsimp only [id]
        rw [List.flatMap_cons]
        refine ⟨?_, rfl⟩
        rcases Candidate.extract_eq_ok done with ⟨deprecated, rfl, _⟩ | ⟨current, _, rfl, _⟩
        · rw [List.filter_cons_of_neg (by simp [deprecated])]
          exact extracted
        · rw [List.filter_cons_of_pos (by simp [current])]
          exact .cons done extracted

/-- Every operation of an interface, and what the extraction of its entry logs, is accounted for by
the parameter list of the entry. The log is what the entries leave, one after the other. -/
theorem grouped_extract {document : Value} {spec : Spec}
    (extracted : (extract document).result = .ok spec) :
    ∃ paths, pathsOf? document = some paths ∧
      List.Forall₂ (fun candidate operation => candidate.Grouped operation candidate.extract.logs)
        ((candidates paths).filter fun candidate => !candidate.isDeprecated) spec.operations ∧
      (extract document).logs =
        (candidates paths).flatMap fun candidate => candidate.extract.logs := by
  obtain ⟨paths, given, done, records⟩ := extract_eq_ok_logs extracted
  obtain ⟨found, looped, made⟩ := Logged.result_bind_eq_ok.mp done
  obtain ⟨current, told⟩ := extracts_items (Logged.forEach_eq_ok.mp looped)
  rw [← Logged.result_return_eq_ok.mp made, records, operations, Logged.logs_bind_of_ok looped,
    Logged.logs_forEach looped, Logged.logs_return, List.append_nil]
  exact ⟨paths, given, current.imp fun _ _ => Candidate.grouped_of_extract, told⟩

/-- A document with a parameter list of all kinds: an entry that is no mapping, a header, an entry
without a place, one without a name, a name that comes twice, and two bodies. -/
def shelfDocument : Value :=
  .map [(.text "swagger", .text "2.0"),
    (.text "paths", .map [(.text "/shelves", .map [(.text "post", .map
      [(.text "operationId", .text "sort"),
        (.text "parameters", .list
          [.map [(.text "in", .text "query"), (.text "name", .text "by"),
              (.text "type", .text "string")],
            .text "oops",
            .map [(.text "in", .text "query"), (.text "type", .text "boolean")],
            .map [(.text "in", .text "body"), (.text "name", .int 1),
              (.text "required", .bool true),
              (.text "schema", .map [(.text "type", .text "string")])],
            .map [(.text "in", .text "header"), (.text "name", .text "X")],
            .map [(.text "in", .text "query"), (.text "name", .text "by"),
              (.text "required", .int 1), (.text "type", .text "number")],
            .map [(.text "name", .text "y")],
            .map [(.text "in", .text "body"), (.text "name", .text "second")]])])])])]

theorem shelfDocument_grouped : ∃ spec, (extract shelfDocument).result = .ok spec ∧
    spec.operations.map (·.queryParameters) =
      [[("by", .scalar true .number none), ("", .scalar false .boolean none)]] ∧
    spec.operations.map (·.body) = [some (.scalar true .string none)] ∧
    (extract shelfDocument).logs.map (·.message) =
      ["Ignore parameter 'oops' in sort: unsupported location None",
        "Ignore parameter 'X' in sort: unsupported location 'header'",
        "Ignore parameter 'y' in sort: unsupported location None",
        "Operation sort declares 2 body parameters; using 1"] ∧
    ∃ paths, pathsOf? shelfDocument = some paths ∧
      List.Forall₂ (fun candidate operation => candidate.Grouped operation candidate.extract.logs)
        ((candidates paths).filter fun candidate => !candidate.isDeprecated) spec.operations ∧
      (extract shelfDocument).logs =
        (candidates paths).flatMap fun candidate => candidate.extract.logs := by
  have extracted : (extract shelfDocument).result = .ok _ := rfl
  exact ⟨_, extracted, by decide +kernel, by decide +kernel, by decide +kernel,
    grouped_extract extracted⟩

end Api

end ClientGen

import ClientGen.Proofs.Api.Acceptance
import ClientGen.Proofs.Value.Entries

/-!
# Responses

The response that an operation is said to give is the one of the first status code that is
declared. It depends on nothing that the document says about the second one, unless the entry of
the first code is null.
-/

namespace ClientGen

namespace Api

open Schema

/-! ## Status codes -/

/-- The keys of a status code: its text, and its number however that is written. -/
def IsCode (code : Nat) (key : Value) : Prop :=
  key = .text (toString code) ∨ Value.sameKey key (.int code) = true

/-- Mappings that hold the same at every key but those of a status code. -/
def AgreeBeside (code : Nat) (entries others : List (Value × Value)) : Prop :=
  ∀ key, ¬ IsCode code key → Value.lookup key others = Value.lookup key entries

/-- What is said about 201 is not looked at for 200. -/
theorem responseFor_of_agree {entries others : List (Value × Value)}
    (agree : AgreeBeside 201 entries others) :
    responseFor 200 others = responseFor 200 entries := by
  have text : ¬ IsCode 201 (.text (toString 200)) := by
    rintro (same | same)
    · exact absurd same (by decide)
    · cases same
  have number : ¬ IsCode 201 (.int 200) := by
    rintro (same | same) <;> cases same
  rw [responseFor, responseFor, Value.fieldOf_eq_lookup, Value.fieldOf_eq_lookup, agree _ text]
  exact congrArg _ (congrArg _ (agree _ number))

/-! ## Declared responses -/

/-- The answer that the entry of a status code stands for: its schema, if it is a mapping that has
one, and nothing in any other case. -/
structure AnswerOf (held : Value) (answer : Except Fault TypeNode) : Prop where
  schema : ∀ schema, held.field? "schema" = some schema → schema ≠ .null →
    answer = map false schema
  otherwise : (∀ schema, held.field? "schema" = some schema → schema = .null) →
    answer = .ok (.empty false)

theorem answerOf_responseNode (held : Value) : AnswerOf held (responseNode held) := by
  constructor
  · intro schema found present
    have given : held.givenField? "schema" = some schema := by
      rw [Value.givenField?, found]
      cases schema with
      | null => exact absurd rfl present
      | _ => rfl
    rw [responseNode, given]
  · intro absent
    have missing : held.givenField? "schema" = none := by
      rw [Value.givenField?]
      cases found : held.field? "schema" with
      | none => rfl
      | some schema =>
          rw [absent schema found]
          rfl
    rw [responseNode, missing]

/-- The response of 200 decides, unless its entry is null. -/
theorem response_of_declared {entries : List (Value × Value)} {held : Value}
    (declared : responseFor 200 entries = some held) (present : held ≠ .null) :
    response (.map entries) = responseNode held := by
  have given : Value.given? (responseFor 200 entries) = some held := by
    rw [declared]
    cases held with
    | null => exact absurd rfl present
    | _ => rfl
  rw [response, given]

/-- A mapping that says the same, and for 201 that the answer is text. -/
def withText (entries : List (Value × Value)) : List (Value × Value) :=
  Value.put (.text "201")
    (.map [(.text "schema", .map [(.text "type", .text "string")])]) entries

theorem agreeBeside_withText (entries : List (Value × Value)) :
    AgreeBeside 201 entries (withText entries) :=
  fun _ other => Value.lookup_put_of_ne (fun same => other (Or.inl same)) _ entries

/-- Under a null entry for 200 the answer is what 201 says. -/
theorem response_withText {entries : List (Value × Value)}
    (null : responseFor 200 entries = some .null) :
    response (.map (withText entries)) = .ok (.scalar false .string none) := by
  have second : responseFor 201 (withText entries) =
      some (.map [(.text "schema", .map [(.text "type", .text "string")])]) := by
    have found := Value.lookup_put_self "201"
      (.map [(.text "schema", .map [(.text "type", .text "string")])]) entries
    rw [responseFor, Value.fieldOf_eq_lookup]
    have code : toString 201 = "201" := rfl
    rw [code, withText, found]
    rfl
  rw [response, responseFor_of_agree (agreeBeside_withText entries), null, second]
  rfl

/-- A declared response of 200 is the answer whatever is said about 201, exactly if it is not
null. -/
theorem answers_alone_iff {entries : List (Value × Value)} {held : Value}
    (declared : responseFor 200 entries = some held) :
    (∀ others, AgreeBeside 201 entries others → AnswerOf held (response (.map others))) ↔
      held ≠ .null := by
  constructor
  · -- A null entry is looked through, so that a schema for 201 shows.
    rintro alone rfl
    have answer := (alone _ (agreeBeside_withText entries)).otherwise nofun
    rw [response_withText declared] at answer
    cases answer
  · intro present others agree
    rw [response_of_declared ((responseFor_of_agree agree).trans declared) present]
    exact answerOf_responseNode held

/-- Responses of which the first one is a mapping without a schema, with a number for a code. -/
def closedResponses : List (Value × Value) :=
  [(.text "default", .null), (.int 200, .map [(.text "description", .text "done")]),
    (.text "201", .map [(.text "schema", .map [(.text "type", .text "string")])])]

theorem closedResponses_alone_iff :
    responseFor 200 closedResponses = some (.map [(.text "description", .text "done")]) ∧
      ((∀ others, AgreeBeside 201 closedResponses others →
          AnswerOf (.map [(.text "description", .text "done")]) (response (.map others))) ↔
        Value.map [(.text "description", .text "done")] ≠ .null) :=
  ⟨rfl, answers_alone_iff rfl⟩

/-- Responses of which the first one is null. -/
def nullResponses : List (Value × Value) :=
  [(.text "200", .null),
    (.text "201", .map [(.text "schema", .map [(.text "type", .text "string")])])]

/-- The second one is the answer, although the first one is declared. -/
theorem nullResponses_fall_back : responseFor 200 nullResponses = some .null ∧
    response (.map nullResponses) = .ok (.scalar false .string none) ∧
    ¬ AnswerOf .null (response (.map nullResponses)) := by
  refine ⟨rfl, rfl, fun answer => ?_⟩
  have empty := answer.otherwise nofun
  cases empty

end Api

end ClientGen

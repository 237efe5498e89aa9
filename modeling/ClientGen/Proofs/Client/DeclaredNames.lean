import ClientGen.Proofs.Client.Rendering
import ClientGen.Proofs.TypeScript.DistinctKeys
import Mathlib.Data.Set.Operations

/-!
# Names of declarations

Whatever name a definition or an operation has, its template is given names that a declaration may
take: identifiers that are no reserved words. A name that is one of them already is kept, and every
one of them is the identifier of some name.
-/

namespace ClientGen.TypeScript

/-- A name that a declaration may take. -/
structure IsDeclarable (word : String) : Prop where
  /-- It is an identifier from end to end. -/
  whole : IsIdentifier word.toList
  /-- It is no reserved word. -/
  unreserved : word ∉ reservedWords

theorem isDeclarable_identifier (name : String) : IsDeclarable (identifier name) where
  whole := by
    rw [toList_identifier]
    exact isIdentifier_iff.mp (isIdentifier_identifierChars name.toList)
  unreserved := identifier_notMem_reservedWords name

theorem identifier_eq_self_iff {name : String} : identifier name = name ↔ IsDeclarable name := by
  constructor
  · intro same
    rw [← same]
    exact isDeclarable_identifier name
  · intro declarable
    exact identifier_eq_self (isIdentifier_iff.mpr declarable.whole) declarable.unreserved

/-- What is asked of a function that turns names into names of declarations. -/
structure MakesDeclarable (make : String → String) : Prop where
  /-- Each name becomes one that a declaration may take. -/
  declarable : ∀ name, IsDeclarable (make name)
  /-- Exactly the names that a declaration may take are kept. -/
  kept : ∀ name, make name = name ↔ IsDeclarable name
  /-- There is nothing to do a second time. -/
  again : ∀ name, make (make name) = make name
  /-- Each name that a declaration may take is made of some name. -/
  range : Set.range make = {word | IsDeclarable word}

theorem makesDeclarable_identifier : MakesDeclarable identifier where
  declarable := isDeclarable_identifier
  kept := fun _ => identifier_eq_self_iff
  again := fun name => identifier_eq_self_iff.mpr (isDeclarable_identifier name)
  range := by
    ext word
    constructor
    · rintro ⟨name, rfl⟩
      exact isDeclarable_identifier name
    · exact fun declarable => ⟨word, identifier_eq_self_iff.mpr declarable⟩

end ClientGen.TypeScript

namespace ClientGen.Client

open Template TypeScript

/-- What a template is given under a key: the identifier of a name, which a declaration may take. -/
def BindsDeclarable (key name : String) (bindings : Run (List (String × Datum))) : Prop :=
  ∃ given store, bindings Store.empty = .ok (given, store) ∧
    given.lookup key = some (.text (identifier name)) ∧ IsDeclarable (identifier name)

theorem bindsDeclarable_of_lookup {key name : String} {bindings : Run (List (String × Datum))}
    {given : List (String × Datum)} {store : Store}
    (values : bindings Store.empty = .ok (given, store))
    (bound : given.lookup key = some (.text (identifier name))) :
    BindsDeclarable key name bindings :=
  ⟨given, store, values, bound, isDeclarable_identifier name⟩

/-- Every name becomes one that a declaration may take, and such names are what the templates of
definitions and operations are given for their declarations. -/
theorem identifier_declares :
    MakesDeclarable identifier ∧
      (∀ definition references, BindsDeclarable "type_name" definition.name
        (definitionVariables definition references)) ∧
      ∀ settings operation references,
        BindsDeclarable "name" operation.name (operationVariables settings operation references) ∧
        BindsDeclarable "type_name" (Name.pascal operation.name)
          (operationVariables settings operation references) := by
  refine ⟨makesDeclarable_identifier, fun definition references => ?_,
    fun settings operation references => ⟨?_, ?_⟩⟩
  · exact bindsDeclarable_of_lookup (definitionVariables_eq definition references) rfl
  · exact bindsDeclarable_of_lookup (operationVariables_eq settings operation references) rfl
  · exact bindsDeclarable_of_lookup (operationVariables_eq settings operation references) rfl

example : ["", "2fa", "delete", "Pet.Info"].map identifier =
    ["_", "_2fa", "_delete", "Pet_Info"] := by decide +kernel

end ClientGen.Client

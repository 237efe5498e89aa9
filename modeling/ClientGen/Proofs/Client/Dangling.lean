import ClientGen.Proofs.Api.Extraction
import ClientGen.Proofs.Client.Conclusion
import ClientGen.Proofs.Client.FileList
import ClientGen.Proofs.Client.Outline
import ClientGen.Proofs.Schema.Properties
import ClientGen.Proofs.TypeScript.Expressible

/-!
# Dangling references

A rendering comes to the definitions of an interface before it comes to the operations, and to the
nodes of each of them in turn. The first name of a definition that the interface does not have is
the one that it reports, together with the name of the definition or operation that it occurs in. The
interface of a document whose pointers lead to its definitions has all names.
-/

/-!
## Names that occur in nodes

A name occurs in a node if it stands in the node itself, as the name that it refers to or as one of
its bases, or in one of the nodes that it consists of. The names that a node mentions are those that
occur in it, and of the names that are not known the first one that it mentions is the one that a
walk over the node comes to first: what stands in a node itself comes before what stands in the
nodes that it consists of.
-/

namespace ClientGen

variable {α β : Type}

/-! ## The first of several -/

/-- An item that satisfies a condition, while none before it does. -/
def First (holds : α → Prop) (items : List α) (item : α) : Prop :=
  ∃ before after, items = before ++ item :: after ∧ holds item ∧ ∀ earlier ∈ before, ¬ holds earlier

theorem First.mem {holds : α → Prop} {items : List α} {item : α} (first : First holds items item) :
    item ∈ items := by
  obtain ⟨before, after, rfl, _⟩ := first
  exact List.mem_append_right before List.mem_cons_self

theorem find?_eq_some_iff_first {test : α → Bool} {holds : α → Prop} {items : List α} {item : α}
    (tests : ∀ item, test item = true ↔ holds item) :
    items.find? test = some item ↔ First holds items item := by
  simp only [List.find?_eq_some_iff_append, Bool.not_eq_true', ← Bool.not_eq_true, tests, First]
  constructor
  · rintro ⟨found, before, after, split, none⟩
    exact ⟨before, after, split, found, none⟩
  · rintro ⟨before, after, split, found, none⟩
    exact ⟨found, before, after, split, none⟩

theorem findSome?_eq_some_iff_first {f : α → Option β} {holds : α → Prop} {items : List α}
    {result : β} (finds : ∀ item, (f item).isSome = true ↔ holds item) :
    items.findSome? f = some result ↔ ∃ item, First holds items item ∧ f item = some result := by
  have fails : ∀ item, f item = none ↔ ¬ holds item := fun item => by
    rw [← finds item, Option.not_isSome_iff_eq_none]
  simp only [List.findSome?_eq_some_iff, fails, First]
  constructor
  · rintro ⟨before, item, after, split, found, none⟩
    exact ⟨item, ⟨before, after, split, (finds item).mp (by rw [found]; rfl), none⟩, found⟩
  · rintro ⟨item, ⟨before, after, split, _, none⟩, found⟩
    exact ⟨before, item, after, split, found, none⟩

namespace TypeNode

/-! ## Occurrences -/

/-- The names that stand in a node itself. -/
def named : TypeNode → List String
  | .reference _ name => [name]
  | .object _ _ bases => bases
  | .scalar .. | .array .. | .empty .. => []

/-- A name that stands in a node, or in one of the nodes that it consists of at any depth. -/
def Occurs (name : String) (node : TypeNode) : Prop :=
  ∃ part, Inside children part node ∧ name ∈ part.named

theorem occurs_iff {name : String} {node : TypeNode} :
    Occurs name node ↔ name ∈ node.named ∨ ∃ child ∈ node.children, Occurs name child := by
  constructor
  · rintro ⟨part, inside, stands⟩
    cases inside with
    | self => exact Or.inl stands
    | inner member inside => exact Or.inr ⟨_, member, part, inside, stands⟩
  · rintro (stands | ⟨child, member, part, inside, stands⟩)
    · exact ⟨node, .self, stands⟩
    · exact ⟨part, .inner member inside, stands⟩

theorem mentionsOfProperties_eq (properties : List (String × TypeNode)) :
    mentionsOfProperties properties = (properties.map Prod.snd).flatMap mentions := by
  induction properties with
  | nil => rfl
  | cons property rest ih =>
      obtain ⟨name, node⟩ := property
      rw [mentionsOfProperties, ih, List.map_cons, List.flatMap_cons]

/-- A node mentions its own names first, and then those of its children. -/
theorem mentions_eq (node : TypeNode) :
    node.mentions = node.named ++ node.children.flatMap mentions := by
  cases node with
  | array required items => rw [mentions, named, children, List.flatMap_singleton, List.nil_append]
  | object required properties bases => rw [mentions, named, children, mentionsOfProperties_eq]
  | _ => rfl

/-- A node mentions exactly the names that occur in it. -/
theorem mem_mentions_iff_occurs {name : String} (node : TypeNode) :
    name ∈ node.mentions ↔ Occurs name node := by
  rw [occurs_iff, mentions_eq, List.mem_append, List.mem_flatMap]
  refine or_congr_right (exists_congr fun child => and_congr_right fun member => ?_)
  exact mem_mentions_iff_occurs child
termination_by sizeOf node
decreasing_by exact sizeOf_lt_of_mem_children member

/-! ## Names that are not known -/

/-- A node in which a name occurs that is not among the known ones. -/
def Dangles (known : List String) (node : TypeNode) : Prop := ∃ name ∉ known, Occurs name node

/-- The first name of a node that is not among the known ones: one of its own names, or, if all of
these are known, the first such name of the first child that has one. -/
inductive FirstDangling (known : List String) : TypeNode → String → Prop
  | own {node : TypeNode} {name : String} (first : First (· ∉ known) node.named name) :
      FirstDangling known node name
  | inChild {node child : TypeNode} {name : String} (all : ∀ other ∈ node.named, other ∈ known)
      (first : First (Dangles known) node.children child)
      (inside : FirstDangling known child name) : FirstDangling known node name

variable {known : List String} {node : TypeNode} {name : String}

/-- Whether a name is not among the known ones. -/
def isUnknown (known : List String) (name : String) : Bool := !known.contains name

theorem isUnknown_eq_true {known : List String} {name : String} :
    isUnknown known name = true ↔ name ∉ known := by
  simp [isUnknown]

theorem dangles_iff_isSome_find? :
    (node.mentions.find? (isUnknown known)).isSome = true ↔ Dangles known node := by
  simp only [List.find?_isSome, isUnknown_eq_true, mem_mentions_iff_occurs, Dangles]
  exact exists_congr fun name => and_comm

theorem find?_mentions_of_children
    (inside : ∀ child ∈ node.children, ∀ name,
      child.mentions.find? (isUnknown known) = some name ↔ FirstDangling known child name) :
    node.mentions.find? (isUnknown known) = some name ↔ FirstDangling known node name := by
  rw [mentions_eq, List.find?_append, List.find?_flatMap, Option.or_eq_some_iff,
    find?_eq_some_iff_first fun _ => isUnknown_eq_true,
    findSome?_eq_some_iff_first fun _ => dangles_iff_isSome_find?, List.find?_eq_none]
  simp only [isUnknown_eq_true, not_not]
  constructor
  · rintro (first | ⟨all, child, first, found⟩)
    · exact .own first
    · exact .inChild all first ((inside child first.mem name).mp found)
  · intro dangling
    cases dangling with
    | own first => exact Or.inl first
    | inChild all first within =>
        exact Or.inr ⟨all, _, first, (inside _ first.mem name).mpr within⟩

/-- The first unknown name among those that a node mentions is the one that a walk comes to first. -/
theorem find?_mentions_eq_some (node : TypeNode) (name : String) :
    node.mentions.find? (isUnknown known) = some name ↔ FirstDangling known node name :=
  find?_mentions_of_children fun child _ => find?_mentions_eq_some child
termination_by sizeOf node
decreasing_by exact sizeOf_lt_of_mem_children ‹_›

end TypeNode

end ClientGen

/-!
## Rendering resolved interfaces

Only the check of references can report an unresolved one. It passes for the interface of every
document whose pointers lead to its definitions, so that no rendering of it reports one.
-/

namespace ClientGen.Client

variable {α β : Type}

/-- A problem that reports an unresolved reference. -/
def ReportsUnresolved (problem : Problem) : Prop :=
  ∃ name owner, problem = Failure.unresolvedReference name owner

/-- A result that does not report an unresolved reference. -/
def NeverUnresolved (result : Except Problem α) : Prop :=
  ∀ problem, result = .error problem → ¬ ReportsUnresolved problem

theorem NeverUnresolved.bind {first : Except Problem α} {next : α → Except Problem β}
    (never : NeverUnresolved first) (rest : ∀ value, NeverUnresolved (next value)) :
    NeverUnresolved (first >>= next) := EndsWithin.bind never fun value _ => rest value

/-! ## Single steps -/

theorem neverUnresolved_loadTemplate (name bundled : String) (override : Option String) :
    NeverUnresolved (loadTemplate name bundled override) := by
  rintro problem failed ⟨reference, owner, rfl⟩
  rw [loadTemplate] at failed
  cases compiled : compileSource (override.getD bundled) with
  | ok template =>
      rw [compiled] at failed
      cases failed
  | error cause =>
      rw [compiled] at failed
      cases cause <;> cases failed

theorem neverUnresolved_printFor (owner : String) (convention : Name.Convention)
    (template : Template.Template) (given : Template.Run (List (String × Template.Datum))) :
    NeverUnresolved (printFor owner convention template given) := by
  rintro problem failed ⟨reference, other, rfl⟩
  rw [printFor] at failed
  cases rendered : (engine convention).render given template with
  | ok text =>
      rw [rendered] at failed
      cases failed
  | error cause =>
      rw [rendered] at failed
      cases cause <;> cases failed

/-- References that are known pass the check. -/
theorem neverUnresolved_checkedReferences {owner : String} {known : List String}
    {nodes : List TypeNode}
    (all : ∀ node ∈ nodes, ∀ name ∈ node.mentions, name ∈ known) :
    NeverUnresolved (checkedReferences owner known nodes) := by
  have checked : checkedReferences owner known nodes = .ok (TypeNode.referencesOfAll nodes) := by
    refine checkedReferences_eq_ok.mpr ⟨rfl, fun name member => ?_⟩
    obtain ⟨node, listed, mentioned⟩ := TypeNode.mem_referencesOfAll.mp member
    exact all node listed name mentioned
  rw [checked]
  exact endsWithin_ok _ _

/-! ## All files -/

variable {spec : Api.Spec}

theorem neverUnresolved_requestFile (settings : Settings) (root : Path) :
    NeverUnresolved (requestFile settings root) := by
  rw [requestFile]
  refine (neverUnresolved_loadTemplate _ _ _).bind fun template => ?_
  exact (neverUnresolved_printFor _ _ _ _).bind fun text => endsWithin_ok _ _

/-- A resolved interface is rendered without an unresolved reference, whatever the templates. -/
theorem neverUnresolved_files (resolved : Api.Spec.Resolved spec) (settings : Settings)
    (root : Path) : NeverUnresolved (files settings root spec).result := by
  refine endsWithin_files (neverUnresolved_loadTemplate _ _ _)
    (neverUnresolved_loadTemplate _ _ _) (neverUnresolved_requestFile settings root)
    (fun template _ definition member => ?_) fun template _ operation member => ?_
  · rw [definitionText]
    refine NeverUnresolved.bind ?_ fun references => neverUnresolved_printFor _ _ _ _
    refine neverUnresolved_checkedReferences fun node single => ?_
    rw [List.mem_singleton.mp single]
    exact resolved.definitions definition member
  · rw [operationText]
    exact (neverUnresolved_checkedReferences (resolved.operations operation member)).bind
      fun references => neverUnresolved_printFor _ _ _ _

/-- A document whose pointers all lead to its definitions is extracted to an interface that mentions
only its own definitions, and no rendering of it reports an unresolved reference. -/
theorem extracted_never_unresolved {document : Value} (inside : Api.PointsInside document)
    (extracted : (Api.extract document).result = .ok spec) :
    spec.Resolved ∧
      ∀ settings root, NeverUnresolved (files settings root spec).result := by
  have resolved := Api.resolved_of_pointsInside inside extracted
  exact ⟨resolved, neverUnresolved_files resolved⟩

/-- A document with escapes in its pointers. -/
def escapedDocument : Value :=
  .map [(.text "swagger", .text "2.0"),
    (.text "definitions", .map
      [(.text "a/b", .map [(.text "$ref", .text "#/definitions/~01")]),
        (.text "~1", .map [(.text "type", .text "string")]),
        (.int 7, .map [(.text "allOf", .list [.map [(.text "$ref", .text "#/definitions/a~1b")]])])]),
    (.text "paths", .map [(.text "/x", .map [(.text "get", .map
      [(.text "operationId", .text "find"), (.text "responses", .map [(.text "200", .map
        [(.text "schema", .map [(.text "$ref", .text "#/definitions/7")])])])])])])]

theorem escapedDocument_never_unresolved : ∃ spec, Api.PointsInside escapedDocument ∧
    (Api.extract escapedDocument).result = .ok spec ∧ spec.Resolved ∧
      ∀ settings root, NeverUnresolved (files settings root spec).result := by
  have inside : Api.PointsInside escapedDocument := by
    intro pointer member
    have all : escapedDocument.pointers =
        ["#/definitions/~01", "#/definitions/a~1b", "#/definitions/7"] := by decide
    rw [all] at member
    simp only [List.mem_cons, List.not_mem_nil, or_false] at member
    rcases member with rfl | rfl | rfl
    · exact ⟨_, .tail _ (.head _), "~1", rfl, by decide⟩
    · exact ⟨_, .head _, "a/b", rfl, by decide⟩
    · exact ⟨_, .tail _ (.tail _ (.head _)), "7", rfl, by decide⟩
  have extracted : (Api.extract escapedDocument).result = .ok _ := rfl
  exact ⟨_, inside, extracted, extracted_never_unresolved inside extracted⟩

end ClientGen.Client

/-! ## Interfaces with dangling references -/

namespace ClientGen

variable {ε α β : Type}

/-! ## Reasons -/

/-- Why a computation has no result, if it has none. -/
def reason? : Except ε α → Option ε
  | .ok _ => none
  | .error problem => some problem

theorem reason?_eq_some {result : Except ε α} {problem : ε} :
    reason? result = some problem ↔ result = .error problem := by
  cases result <;> simp [reason?]

theorem reason?_eq_none {result : Except ε α} : reason? result = none ↔ Succeeds result := by
  cases result <;> simp [reason?, Succeeds]

theorem reason?_bind_of_succeeds {first : Except ε α} {next : α → Except ε β}
    (later : ∀ value, Succeeds (next value)) : reason? (first >>= next) = reason? first := by
  cases first with
  | error problem => rfl
  | ok value =>
      obtain ⟨result, done⟩ := later value
      rw [ok_bind, done]
      rfl

/-- Of two computations, the first one that has a reason gives it. -/
theorem reason?_bind_bind {δ : Type} {first : Except ε α} {second : Except ε β}
    {next : α → β → Except ε δ} (later : ∀ value other, Succeeds (next value other)) :
    reason? (first >>= fun value => second >>= fun other => next value other) =
      (reason? first).or (reason? second) := by
  cases first with
  | error problem => rfl
  | ok value => exact reason?_bind_of_succeeds (later value)

/-- A loop over items ends for the reason of the first item that has one. -/
theorem reason?_mapM {f : α → Except ε β} (items : List α) :
    reason? (items.mapM f) = items.findSome? fun item => reason? (f item) := by
  induction items with
  | nil => rfl
  | cons item rest ih =>
      rw [List.mapM_cons, List.findSome?_cons]
      cases f item with
      | error problem => rfl
      | ok result =>
          rw [ok_bind]
          exact (reason?_bind_of_succeeds fun results => ⟨result :: results, rfl⟩).trans ih

namespace TypeNode

/-- The first name that satisfies a condition is the same without repetitions. -/
theorem find?_addNames_nil (holds : String → Bool) (names : List String) :
    (addNames [] names).find? holds = names.find? holds := by
  induction names using List.reverseRecOn with
  | nil => rfl
  | append_singleton names last ih =>
      rw [addNames_concat, addName, List.find?_append, ← ih]
      split
      · next known =>
          cases found : (addNames [] names).find? holds with
          | some name => rfl
          | none => simp [List.find?_eq_none.mp found last known]
      · rw [List.find?_append]

end TypeNode

/-! ## Parts of interfaces -/

namespace Api.Spec

/-- What an interface consists of, in order: the name of each definition with its node, and the name
of each operation with the nodes of its path, its query, its body and its response. -/
def parts (spec : Spec) : List (String × List TypeNode) :=
  spec.definitions.map (fun definition => (definition.name, [definition.schema])) ++
    spec.operations.map fun operation => (operation.name,
      operation.pathNode :: operation.queryNode :: (operation.body.toList ++ [operation.response]))

/-- The names that an interface defines. -/
def defined (spec : Spec) : List String := spec.definitions.map (·.name)

/-- The first name in an interface that it does not define, and the name of the definition or
operation that it occurs in. -/
def FirstDangling (spec : Spec) (name owner : String) : Prop :=
  ∃ part node, First (fun part => ∃ node ∈ part.2, node.Dangles spec.defined) spec.parts part ∧
    owner = part.1 ∧ First (TypeNode.Dangles spec.defined) part.2 node ∧
    node.FirstDangling spec.defined name

end Api.Spec

namespace Client

open Api

variable {settings : Settings} {root : Path} {spec : Spec} {known : List String}

/-! ## The check -/

theorem find?_references (nodes : List TypeNode) :
    (nodes.flatMap TypeNode.references).find? (TypeNode.isUnknown known) =
      nodes.findSome? fun node => node.mentions.find? (TypeNode.isUnknown known) := by
  simp only [List.find?_flatMap, TypeNode.references, TypeNode.find?_addNames_nil]

theorem reason?_checkedReferences (owner : String) (nodes : List TypeNode) :
    reason? (checkedReferences owner known nodes) =
      (nodes.findSome? fun node => node.mentions.find? (TypeNode.isUnknown known)).map
        fun name => (Failure.unresolvedReference name owner : Problem) := by
  rw [← find?_references, checkedReferences]
  unfold TypeNode.isUnknown
  cases (nodes.flatMap TypeNode.references).find? fun name => !known.contains name <;> rfl

/-- The check fails exactly if there is a name that is not known, and it reports the first one. -/
theorem checkedReferences_eq_error {owner : String} {nodes : List TypeNode} {problem : Problem} :
    checkedReferences owner known nodes = .error problem ↔
      ∃ name node, problem = Failure.unresolvedReference name owner ∧
        First (TypeNode.Dangles known) nodes node ∧ node.FirstDangling known name := by
  rw [← reason?_eq_some, reason?_checkedReferences, Option.map_eq_some_iff]
  simp only [findSome?_eq_some_iff_first fun _ => TypeNode.dangles_iff_isSome_find?,
    TypeNode.find?_mentions_eq_some]
  constructor
  · rintro ⟨name, ⟨node, first, found⟩, rfl⟩
    exact ⟨name, node, rfl, first, found⟩
  · rintro ⟨name, node, rfl, first, found⟩
    exact ⟨name, ⟨node, first, found⟩, rfl⟩

theorem reason?_operationFiles {directory : Path} {template : Template.Template}
    {operations : List Operation} : ∀ earlier : List String,
      reason? (operationFiles settings directory template known earlier operations).result =
        operations.findSome? fun operation =>
          reason? (operationFile settings directory template known operation) := by
  induction operations with
  | nil => intro earlier; rfl
  | cons operation rest ih =>
      intro earlier
      rw [operationFiles, Logged.result_bind, result_noteOverwrite, ok_bind, Logged.result_bind,
        Logged.result_ofResult, List.findSome?_cons, operationFile]
      cases operationText settings template known operation with
      | error problem => rfl
      | ok text =>
          rw [ok_bind, ok_bind, Logged.result_bind]
          exact (reason?_bind_of_succeeds fun _ => ⟨_, rfl⟩).trans (ih _)

theorem findSome?_congr {α β : Type} {f g : α → Option β} {items : List α}
    (same : ∀ item ∈ items, f item = g item) : items.findSome? f = items.findSome? g := by
  rw [← List.head?_filterMap, ← List.head?_filterMap, List.filterMap_congr same]

/-- Once the templates are loaded, the reason why nothing is rendered is that of the first definition
that has one, or else that of the first operation. -/
theorem reason?_files_of_loads {first second : Template.Template}
    (loads : Loads settings first second) :
    reason? (files settings root spec).result =
      (spec.definitions.findSome? fun definition => reason? (definitionFile settings
          (root.child settings.definitionDir) first spec.defined definition)).or
        (spec.operations.findSome? fun operation => reason? (operationFile settings
          (root.child settings.operationDir) second spec.defined operation)) := by
  rw [files, loads.definition, loads.operation, requestFile_eq]
  simp only [Logged.result_bind, Logged.result_ofResult, ok_bind]
  refine (reason?_bind_bind fun _ _ => ⟨_, rfl⟩).trans ?_
  rw [reason?_mapM, reason?_operationFiles, Spec.defined]

end Client

end ClientGen

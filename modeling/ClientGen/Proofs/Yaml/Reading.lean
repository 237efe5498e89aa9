import ClientGen.Proofs.Result
import ClientGen.Yaml.Node

/-!
# Where readers of nodes end

A reader of nodes only takes tokens from the front. A fault that is no broken rule is one that it
found in a token.
-/

namespace ClientGen.Yaml.Node

variable {α β : Type} {whole tokens : List Token} {r after : Reading}

/-! ## Readings -/

/-- A reason to give some tokens up: a broken rule, or a fault in one of them. -/
def IsShown (whole : List Token) : YamlFault → Prop
  | .malformed _ => True
  | .impossible fault => .broken (.impossible fault) ∈ whole

/-- A reader that leaves only tokens that were there, and gives them up only for what they show. -/
abbrev Traces (whole : List Token) (result : Except YamlFault (α × Reading)) : Prop :=
  Yields (fun found => found.2.tokens ⊆ whole) (IsShown whole) result

theorem traces_ok (found : α) (left : after.tokens ⊆ whole) : Traces whole (.ok (found, after)) :=
  yields_ok left

theorem yields_refuse_shown {results : α → Prop} (rule : String) :
    Yields results (IsShown whole) (refuse rule) := yields_error trivial

theorem yields_unexpected {results : α → Prop} (here : r.tokens ⊆ whole) :
    Yields results (IsShown whole) (.error r.unexpected) := by
  refine yields_error ?_
  rw [Reading.unexpected]
  split
  · next reason rest shown =>
      cases reason with
      | malformed rule => trivial
      | impossible fault => exact here (shown ▸ List.mem_cons_self)
  · trivial

theorem Traces.bind {results : β → Prop} {first : Except YamlFault (α × Reading)}
    {next : α × Reading → Except YamlFault β} (traces : Traces whole first)
    (later : ∀ found after, Reading.tokens after ⊆ whole →
      Yields results (IsShown whole) (next (found, after))) :
    Yields results (IsShown whole) (first >>= next) :=
  Yields.bind traces fun found => later found.1 found.2

theorem skip_subset (here : r.tokens ⊆ whole) : r.skip.tokens ⊆ whole :=
  List.Subset.trans (List.tail_suffix r.tokens).subset here

/-- The state after the comma in front of an item but the first. -/
theorem begun_subset (first : Bool) (here : r.tokens ⊆ whole) :
    (if first = true then r else r.skip).tokens ⊆ whole := by
  split
  · exact here
  · exact skip_subset here

/-! ## Names and tags -/

theorem yields_openAnchor (anchor : Option String) (here : r.tokens ⊆ whole) :
    Yields (fun opened => opened.tokens ⊆ whole) (IsShown whole) (r.openAnchor anchor) := by
  rw [Reading.openAnchor.eq_def]
  split
  · exact yields_ok here
  · split
    · exact yields_refuse_shown _
    · refine yields_ok ?_
      exact here

theorem closeAnchor_subset (anchor : Option String) (node : Node) (here : r.tokens ⊆ whole) :
    (r.closeAnchor anchor node).2.tokens ⊆ whole := by
  rw [Reading.closeAnchor.eq_def]
  split
  · exact here
  · split <;> exact here

theorem traces_named (name : String) (here : r.tokens ⊆ whole) : Traces whole (r.named name) := by
  rw [Reading.named]
  split
  · exact traces_ok _ here
  · refine traces_ok _ ?_
    exact here
  · exact yields_refuse_shown _

theorem traces_properties (handles : Handles) (here : r.tokens ⊆ whole) :
    Traces whole (properties handles r) := by
  have addressed : ∀ handle suffix (given : Option String → Properties) (after : Reading),
      after.tokens ⊆ whole → Traces whole (Except.map (fun tag => (given tag, after))
        (address handles handle suffix >>= fun tag => pure (some tag))) := by
    intro handle suffix given after left
    rw [address.eq_def]
    split
    · exact traces_ok _ left
    · split
      · exact traces_ok _ left
      · exact yields_refuse_shown _
  have left : ∀ {rest}, rest ⊆ r.tokens → ({ r with tokens := rest } : Reading).tokens ⊆ whole :=
    fun fewer => List.Subset.trans fewer here
  rw [properties.eq_def]
  split
  · next name handle suffix rest shown =>
      exact addressed handle suffix (⟨some name, ·⟩) _ (left (by simp [shown]))
  · next handle suffix name rest shown =>
      exact addressed handle suffix (⟨some name, ·⟩) _ (left (by simp [shown]))
  · next name rest _ shown => exact traces_ok _ (left (by simp [shown]))
  · next handle suffix rest _ shown =>
      exact addressed handle suffix (⟨none, ·⟩) _ (left (by simp [shown]))
  · exact traces_ok _ here

/-! ## Trees -/

-- The induction is on the fuel, as in the readers. `whole` stays fixed along it: what each reader
-- leaves are tokens of the whole, which is what the next one needs.
mutual

theorem traces_read (handles : Handles) (block indentless : Bool) :
    ∀ fuel {r : Reading}, r.tokens ⊆ whole → Traces whole (read handles block indentless fuel r)
  | 0, r, here => by
      rw [read]
      exact yields_unexpected here
  | fuel + 1, r, here => by
      rw [read.eq_def]
      dsimp only
      split
      · exact (traces_named _ here).bind fun found after left => traces_ok found (skip_subset left)
      · refine Traces.bind (traces_properties handles here) fun given after left => ?_
        refine (yields_openAnchor given.anchor left).bind fun opened left => ?_
        refine Traces.bind (traces_content handles block indentless fuel given left)
          fun found closed left => ?_
        exact traces_ok _ (closeAnchor_subset _ _ left)

theorem traces_content (handles : Handles) (block indentless : Bool) :
    ∀ fuel given {r : Reading}, r.tokens ⊆ whole →
      Traces whole (content handles block indentless fuel given r)
  | 0, given, r, here => by
      rw [content]
      exact yields_unexpected here
  | fuel + 1, given, r, here => by
      rw [content.eq_def]
      dsimp only
      split
      · exact traces_ok _ (skip_subset here)
      · exact Traces.bind (traces_flowItems handles true fuel (skip_subset here))
          fun items after left => traces_ok _ left
      · exact Traces.bind (traces_flowEntries handles true fuel (skip_subset here))
          fun entries after left => traces_ok _ left
      · exact Traces.bind (traces_blockItems handles fuel (skip_subset here))
          fun items after left => traces_ok _ left
      · exact Traces.bind (traces_blockEntries handles fuel (skip_subset here))
          fun entries after left => traces_ok _ left
      · split
        · exact Traces.bind (traces_indentlessItems handles fuel here)
            fun items after left => traces_ok _ left
        · split
          · exact traces_ok _ here
          · exact yields_unexpected here

theorem traces_readUnless (stops : List Token) (handles : Handles) (block indentless : Bool) :
    ∀ fuel {r : Reading}, r.tokens ⊆ whole →
      Traces whole (readUnless stops handles block indentless fuel r)
  | 0, r, here => by
      rw [readUnless]
      exact yields_unexpected here
  | fuel + 1, r, here => by
      rw [readUnless]
      split
      · exact traces_ok _ here
      · exact traces_read handles block indentless fuel here

theorem traces_blockItems (handles : Handles) :
    ∀ fuel {r : Reading}, r.tokens ⊆ whole → Traces whole (blockItems handles fuel r)
  | 0, r, here => by
      rw [blockItems]
      exact yields_unexpected here
  | fuel + 1, r, here => by
      rw [blockItems]
      split
      · refine Traces.bind (traces_readUnless _ handles true false fuel (skip_subset here))
          fun item after left => ?_
        exact Traces.bind (traces_blockItems handles fuel left)
          fun items after left => traces_ok _ left
      · split
        · exact traces_ok _ (skip_subset here)
        · exact yields_unexpected here

theorem traces_indentlessItems (handles : Handles) :
    ∀ fuel {r : Reading}, r.tokens ⊆ whole → Traces whole (indentlessItems handles fuel r)
  | 0, r, here => by
      rw [indentlessItems]
      exact yields_unexpected here
  | fuel + 1, r, here => by
      rw [indentlessItems]
      split
      · refine Traces.bind (traces_readUnless _ handles true false fuel (skip_subset here))
          fun item after left => ?_
        exact Traces.bind (traces_indentlessItems handles fuel left)
          fun items after left => traces_ok _ left
      · exact traces_ok _ here

theorem traces_readAfter (indicator : Token) (stops : List Token) (handles : Handles)
    (block indentless : Bool) :
    ∀ fuel {r : Reading}, r.tokens ⊆ whole →
      Traces whole (readAfter indicator stops handles block indentless fuel r)
  | 0, r, here => by
      rw [readAfter]
      exact yields_unexpected here
  | fuel + 1, r, here => by
      rw [readAfter]
      split
      · exact traces_readUnless stops handles block indentless fuel (skip_subset here)
      · exact traces_ok _ here

theorem traces_blockEntries (handles : Handles) :
    ∀ fuel {r : Reading}, r.tokens ⊆ whole → Traces whole (blockEntries handles fuel r)
  | 0, r, here => by
      rw [blockEntries]
      exact yields_unexpected here
  | fuel + 1, r, here => by
      rw [blockEntries]
      split
      · refine Traces.bind (traces_readAfter _ _ handles true true fuel here)
          fun key after left => ?_
        refine Traces.bind (traces_readAfter _ _ handles true true fuel left)
          fun value after left => ?_
        exact Traces.bind (traces_blockEntries handles fuel left)
          fun entries after left => traces_ok _ left
      · split
        · exact traces_ok _ (skip_subset here)
        · exact yields_unexpected here

theorem traces_flowItems (handles : Handles) (first : Bool) :
    ∀ fuel {r : Reading}, r.tokens ⊆ whole → Traces whole (flowItems handles first fuel r)
  | 0, r, here => by
      rw [flowItems]
      exact yields_unexpected here
  | fuel + 1, r, here => by
      have begun := begun_subset first here
      rw [flowItems]
      dsimp only
      split
      · exact traces_ok _ (skip_subset here)
      · split
        · exact yields_unexpected here
        · generalize (if first = true then r else r.skip) = item at begun ⊢
          split
          · exact traces_ok _ (skip_subset begun)
          · split
            · refine Traces.bind (traces_readAfter _ _ handles false false fuel begun)
                fun key after left => ?_
              refine Traces.bind (traces_readAfter _ _ handles false false fuel left)
                fun value after left => ?_
              exact Traces.bind (traces_flowItems handles false fuel left)
                fun items after left => traces_ok _ left
            · refine Traces.bind (traces_read handles false false fuel begun)
                fun read after left => ?_
              exact Traces.bind (traces_flowItems handles false fuel left)
                fun items after left => traces_ok _ left

theorem traces_flowEntries (handles : Handles) (first : Bool) :
    ∀ fuel {r : Reading}, r.tokens ⊆ whole → Traces whole (flowEntries handles first fuel r)
  | 0, r, here => by
      rw [flowEntries]
      exact yields_unexpected here
  | fuel + 1, r, here => by
      have begun := begun_subset first here
      rw [flowEntries]
      dsimp only
      split
      · exact traces_ok _ (skip_subset here)
      · split
        · exact yields_unexpected here
        · generalize (if first = true then r else r.skip) = item at begun ⊢
          split
          · exact traces_ok _ (skip_subset begun)
          · split
            · refine Traces.bind (traces_readAfter _ _ handles false false fuel begun)
                fun key after left => ?_
              refine Traces.bind (traces_readAfter _ _ handles false false fuel left)
                fun value after left => ?_
              exact Traces.bind (traces_flowEntries handles false fuel left)
                fun entries after left => traces_ok _ left
            · refine Traces.bind (traces_read handles false false fuel begun)
                fun key after left => ?_
              rw [ok_bind]
              exact Traces.bind (traces_flowEntries handles false fuel left)
                fun entries after left => traces_ok _ left

end

/-! ## Documents -/

theorem yields_directives {tokens : List Token} (versioned : Bool) (handles : Handles)
    (here : tokens ⊆ whole) :
    Yields (fun found => found.2 ⊆ whole) (IsShown whole)
      (directives versioned handles tokens) := by
  induction tokens generalizing versioned handles with
  | nil => exact yields_ok here
  | cons first rest ih =>
      have behind : rest ⊆ whole := List.Subset.trans (List.subset_cons_self first rest) here
      rw [directives.eq_def]
      split
      · next major minor rest same =>
          obtain ⟨rfl, rfl⟩ := List.cons.inj same
          split
          · exact yields_refuse_shown _
          · split
            · exact yields_refuse_shown _
            · exact ih true handles behind
      · next handle lead rest same =>
          obtain ⟨rfl, rfl⟩ := List.cons.inj same
          split
          · exact yields_refuse_shown _
          · exact ih versioned _ behind
      · next rest same =>
          obtain ⟨rfl, rfl⟩ := List.cons.inj same
          exact ih versioned handles behind
      · exact yields_ok here

theorem yields_documentNode (fuel : Nat) (tokens : List Token) :
    Yields (fun found => found.2 ⊆ tokens) (IsShown tokens) (documentNode fuel tokens) := by
  have here : (⟨tokens, [], []⟩ : Reading).tokens ⊆ tokens := List.Subset.refl _
  rw [documentNode]
  split
  · refine (yields_directives false [] (List.Subset.refl _)).bind ?_
    rintro ⟨handles, rest⟩ left
    have left : (⟨rest, [], []⟩ : Reading).tokens ⊆ tokens := left
    dsimp only
    split
    · exact yields_unexpected left
    · split
      · exact yields_ok (skip_subset left)
      · exact Traces.bind (traces_read handles true false fuel (skip_subset left))
          fun node after left => yields_ok left
  · exact Traces.bind (traces_read standardHandles true false fuel here)
      fun node after left => yields_ok left

/-- A fault that is no broken rule is one of the tokens. -/
theorem broken_of_ofTokens {fault : Fault} (failed : ofTokens tokens = .error (.impossible fault)) :
    .broken (.impossible fault) ∈ tokens := by
  have yields : Yields (fun _ => True) (IsShown tokens) (ofTokens tokens) := by
    rw [ofTokens]
    split
    · exact yields_ok trivial
    · refine (yields_documentNode _ tokens).bind ?_
      rintro ⟨found, rest⟩ left
      dsimp only
      split
      · exact yields_ok trivial
      · next reason others shown =>
          refine yields_error ?_
          cases reason with
          | malformed rule => trivial
          | impossible fault =>
              exact left ((List.dropWhile_suffix _).subset (shown ▸ List.mem_cons_self))
      · exact yields_refuse_shown _
  exact yields.reason _ failed

end ClientGen.Yaml.Node

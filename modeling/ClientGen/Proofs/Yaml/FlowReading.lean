import ClientGen.Proofs.Result
import ClientGen.Yaml.Document

/-!
# Reading flow collections

What the tokens of a flow collection denote: scalars, sequences of what their items denote and
mappings from names to what stands behind them. Fuel for three calls to a token is enough to read
them.
-/

namespace ClientGen.Yaml

open Node Reading

/-- Whether a token begins a node in a flow collection, without a name or a tag. -/
def Token.opens : Token → Bool
  | .scalar .. | .flowSequenceStart | .flowMappingStart => true
  | _ => false

variable {token : Token} {tokens others rest : List Token} {node : Node} {nodes : List Node}
  {value : Value} {values : List Value} {fuel : Nat}

theorem nextIs_eq_false {choices : List Token} (opens : token.opens = true)
    (closed : choices.any Token.opens = false) :
    nextIs choices ⟨token :: rest, [], []⟩ = false := by
  rw [nextIs, List.head?_cons, Option.any_some, ← Bool.not_eq_true, List.contains_iff_mem]
  intro member
  rw [List.any_eq_false] at closed
  exact closed token member opens

/-- A node without a name or a tag is read for its content. -/
theorem read_of_opens (opens : token.opens = true) (block : Bool) :
    Node.read standardHandles block false (fuel + 1) ⟨token :: rest, [], []⟩ =
      content standardHandles block false fuel ⟨none, none⟩ ⟨token :: rest, [], []⟩ := by
  have plain : properties standardHandles ⟨token :: rest, [], []⟩ =
      .ok (⟨none, none⟩, ⟨token :: rest, [], []⟩) := by
    cases token <;> first | rfl | cases opens
  have unaliased : ∀ name others, token :: rest ≠ .alias name :: others := by
    rintro name others ⟨⟩
    cases opens
  rw [Node.read]
  · rw [plain, ok_bind]
    simp only [openAnchor, ok_bind, closeAnchor]
    cases content standardHandles block false fuel ⟨none, none⟩ ⟨token :: rest, [], []⟩ <;> rfl

/-! ## What tokens denote -/

/-- Tokens of a node, which is read from them whatever follows, and its value. -/
structure Denotes (tokens : List Token) (value : Value) (node : Node) : Prop where
  /-- The tokens begin a node. -/
  opens : ∃ token others, tokens = token :: others ∧ token.opens = true
  /-- The node is read. -/
  read : ∀ block fuel rest, 3 * tokens.length ≤ fuel →
    Node.read standardHandles block false fuel ⟨tokens ++ rest, [], []⟩ =
      .ok (node, ⟨rest, [], []⟩)
  /-- The node has the value. -/
  built : ∀ depth, build depth node = .ok value

/-- Tokens of the items of a sequence up to its end, and the values of the items. -/
structure DenotesItems (tokens : List Token) (values : List Value) (nodes : List Node) : Prop where
  /-- The items are read. -/
  read : ∀ fuel rest, 3 * tokens.length ≤ fuel →
    flowItems standardHandles true fuel ⟨tokens ++ rest, [], []⟩ = .ok (nodes, ⟨rest, [], []⟩)
  /-- The nodes have the values. -/
  built : ∀ depth, Built.all (buildAll depth nodes) = .ok values

/-- Tokens of the entries of a mapping up to its end, and the names and values of the entries. -/
structure DenotesEntries (tokens : List Token) (entries : List (String × Value))
    (nodes : List (Node × Node)) : Prop where
  /-- The entries are read. -/
  read : ∀ fuel rest, 3 * tokens.length ≤ fuel →
    flowEntries standardHandles true fuel ⟨tokens ++ rest, [], []⟩ = .ok (nodes, ⟨rest, [], []⟩)
  /-- The nodes have the names and values. -/
  built : ∀ depth, buildEntries depth nodes =
    ⟨[], entries.map fun entry => (.ok (.text entry.1), .ok entry.2), none⟩

/-! ## Scalars -/

theorem denotes_scalar {text : String} {plain : Bool} {tag : Tag}
    (tagged : scalarTag plain text none = some tag) (known : scalarValue tag text = .ok value) :
    Denotes [.scalar text plain] value (.scalar (some tag) text) where
  opens := ⟨_, _, rfl, rfl⟩
  read block fuel rest enough := by
    obtain ⟨fuel, rfl⟩ : ∃ more, fuel = more + 1 + 1 + 1 := Nat.exists_eq_add_of_le' enough
    rw [List.singleton_append, read_of_opens rfl, ← tagged, content.eq_def]
    rfl
  built depth := by
    rw [build, builtScalar]
    simp only [known]
    rfl

/-! ## Sequences -/

theorem flowItems_end (first : Bool) :
    flowItems standardHandles first (fuel + 1) ⟨.flowSequenceEnd :: rest, [], []⟩ =
      .ok ([], ⟨rest, [], []⟩) := by
  rw [flowItems]
  rfl

/-- Behind a comma the items go on as at the beginning. -/
theorem flowItems_entry :
    flowItems standardHandles false (fuel + 1) ⟨.flowEntry :: rest, [], []⟩ =
      flowItems standardHandles true (fuel + 1) ⟨rest, [], []⟩ := by
  rw [flowItems, flowItems]
  have comma : nextIs [.flowSequenceEnd] ⟨.flowEntry :: rest, [], []⟩ = false := rfl
  have entry : nextIs [.flowEntry] ⟨.flowEntry :: rest, [], []⟩ = true := rfl
  have skipped : skip ⟨.flowEntry :: rest, [], []⟩ = ⟨rest, [], []⟩ := rfl
  simp only [comma, entry, skipped, Bool.not_true, Bool.not_false, Bool.and_false, Bool.false_and,
    Bool.false_eq_true, if_false, if_true]
  split <;> rfl

/-- An item in front of the others. -/
theorem flowItems_first (opens : token.opens = true) {r s : Reading}
    (read : Node.read standardHandles false false fuel ⟨token :: rest, [], []⟩ = .ok (node, r))
    (later : flowItems standardHandles false fuel r = .ok (nodes, s)) :
    flowItems standardHandles true (fuel + 1) ⟨token :: rest, [], []⟩ = .ok (node :: nodes, s) := by
  have closed : nextIs [.flowSequenceEnd] ⟨token :: rest, [], []⟩ = false :=
    nextIs_eq_false opens rfl
  have keyless : nextIs [.key] ⟨token :: rest, [], []⟩ = false := nextIs_eq_false opens rfl
  rw [flowItems]
  simp only [closed, keyless, Bool.not_true, Bool.false_and, Bool.false_eq_true, if_false, if_true,
    read, later, ok_bind]

theorem denotesItems_nil : DenotesItems [.flowSequenceEnd] [] [] where
  read fuel rest enough := by
    obtain ⟨fuel, rfl⟩ := Nat.exists_eq_add_one.mpr (Nat.lt_of_lt_of_le (by decide) enough)
    exact flowItems_end true
  built _ := rfl

theorem built_cons {depth : Nat} (first : build depth node = .ok value)
    (others : Built.all (buildAll depth nodes) = .ok values) :
    Built.all (buildAll depth (node :: nodes)) = .ok (value :: values) := by
  rw [buildAll, Built.all, first, others]
  rfl

/-- The last item of a sequence. -/
theorem Denotes.last (first : Denotes tokens value node) :
    DenotesItems (tokens ++ [.flowSequenceEnd]) [value] [node] where
  read fuel rest enough := by
    obtain ⟨token, others, rfl, opens⟩ := first.opens
    simp only [List.length_append, List.length_cons, List.length_nil] at enough
    obtain ⟨fuel, rfl⟩ : ∃ more, fuel = more + 1 + 1 :=
      Nat.exists_eq_add_of_le' (show 2 ≤ fuel by omega)
    rw [List.append_assoc]
    refine flowItems_first opens (first.read false (fuel + 1) _ ?_) (flowItems_end false)
    simp only [List.length_cons]
    omega
  built depth := built_cons (first.built depth) rfl

/-- An item of a sequence with a comma behind it. -/
theorem Denotes.cons (first : Denotes tokens value node)
    (later : DenotesItems others values nodes) :
    DenotesItems (tokens ++ .flowEntry :: others) (value :: values) (node :: nodes) where
  read fuel rest enough := by
    obtain ⟨token, front, rfl, opens⟩ := first.opens
    simp only [List.length_append, List.length_cons] at enough
    obtain ⟨fuel, rfl⟩ : ∃ more, fuel = more + 1 + 1 :=
      Nat.exists_eq_add_of_le' (show 2 ≤ fuel by omega)
    rw [List.append_assoc]
    refine flowItems_first opens (first.read false (fuel + 1) _ ?_) ?_
    · simp only [List.length_cons]
      omega
    · rw [List.cons_append, flowItems_entry]
      exact later.read (fuel + 1) rest (by omega)
  built depth := built_cons (first.built depth) (later.built depth)

/-- A sequence. -/
theorem DenotesItems.sequence (items : DenotesItems tokens values nodes) :
    Denotes (.flowSequenceStart :: tokens) (.list values) (.sequence (some .seq) nodes) where
  opens := ⟨_, _, rfl, rfl⟩
  read block fuel rest enough := by
    simp only [List.length_cons] at enough
    obtain ⟨fuel, rfl⟩ : ∃ more, fuel = more + 1 + 1 :=
      Nat.exists_eq_add_of_le' (show 2 ≤ fuel by omega)
    have read := items.read fuel rest (by omega)
    rw [List.cons_append, read_of_opens rfl, content.eq_def]
    have skipped :
        skip ⟨.flowSequenceStart :: (tokens ++ rest), [], []⟩ = ⟨tokens ++ rest, [], []⟩ := rfl
    simp only [skipped, read, ok_bind]
    rfl
  built depth := by
    rw [build, items.built]
    rfl

/-! ## Mappings -/

theorem flowEntries_end (first : Bool) :
    flowEntries standardHandles first (fuel + 1) ⟨.flowMappingEnd :: rest, [], []⟩ =
      .ok ([], ⟨rest, [], []⟩) := by
  rw [flowEntries]
  rfl

/-- Behind a comma the entries go on as at the beginning. -/
theorem flowEntries_entry :
    flowEntries standardHandles false (fuel + 1) ⟨.flowEntry :: rest, [], []⟩ =
      flowEntries standardHandles true (fuel + 1) ⟨rest, [], []⟩ := by
  rw [flowEntries, flowEntries]
  have comma : nextIs [.flowMappingEnd] ⟨.flowEntry :: rest, [], []⟩ = false := rfl
  have entry : nextIs [.flowEntry] ⟨.flowEntry :: rest, [], []⟩ = true := rfl
  have skipped : skip ⟨.flowEntry :: rest, [], []⟩ = ⟨rest, [], []⟩ := rfl
  simp only [comma, entry, skipped, Bool.not_true, Bool.not_false, Bool.and_false, Bool.false_and,
    Bool.false_eq_true, if_false, if_true]
  split <;> rfl

/-- A node behind its indicator. -/
theorem readAfter_eq {indicator : Token} {stops : List Token} (opens : token.opens = true)
    (closed : stops.any Token.opens = false) :
    readAfter indicator stops standardHandles false false (fuel + 1 + 1)
        ⟨indicator :: token :: rest, [], []⟩ =
      Node.read standardHandles false false fuel ⟨token :: rest, [], []⟩ := by
  have here : nextIs [indicator] ⟨indicator :: token :: rest, [], []⟩ = true := by
    simp [nextIs]
  have skipped : skip ⟨indicator :: token :: rest, [], []⟩ = ⟨token :: rest, [], []⟩ := rfl
  rw [readAfter, here, if_pos rfl, skipped, readUnless, nextIs_eq_false opens closed,
    if_neg Bool.false_ne_true]

/-- The tokens of a name, which is a key. -/
def nameTokens (name : String) : List Token := [.key, .scalar name false, .value]

/-- The node of a name. -/
def nameNode (name : String) : Node := .scalar (some .str) name

/-- An entry in front of the others. -/
theorem flowEntries_first {name : String} {entries : List (Node × Node)} {r s : Reading}
    (opens : token.opens = true)
    (read : Node.read standardHandles false false (fuel + 3) ⟨token :: rest, [], []⟩ =
      .ok (node, r))
    (later : flowEntries standardHandles false (fuel + 5) r = .ok (entries, s)) :
    flowEntries standardHandles true (fuel + 6) ⟨nameTokens name ++ token :: rest, [], []⟩ =
      .ok ((nameNode name, node) :: entries, s) := by
  have named : Denotes [.scalar name false] (.text name) (nameNode name) := denotes_scalar rfl rfl
  have key : readAfter .key [.value, .flowEntry, .flowMappingEnd] standardHandles false false
      (fuel + 5) ⟨nameTokens name ++ token :: rest, [], []⟩ =
      .ok (nameNode name, ⟨.value :: token :: rest, [], []⟩) := by
    refine (readAfter_eq rfl rfl).trans ?_
    exact named.read false (fuel + 3) _ (Nat.le_add_left _ _)
  have behind : readAfter .value [.flowEntry, .flowMappingEnd] standardHandles false false
      (fuel + 5) ⟨.value :: token :: rest, [], []⟩ = .ok (node, r) := by
    rw [readAfter_eq opens rfl, read]
  have keyed : nextIs [.key] ⟨nameTokens name ++ token :: rest, [], []⟩ = true := rfl
  have open' : nextIs [.flowMappingEnd] ⟨nameTokens name ++ token :: rest, [], []⟩ = false := rfl
  rw [flowEntries]
  simp only [keyed, open', Bool.not_true, Bool.false_and, Bool.false_eq_true, if_false, if_true,
    key, ok_bind, behind, later]

theorem denotesEntries_nil : DenotesEntries [.flowMappingEnd] [] [] where
  read fuel rest enough := by
    obtain ⟨fuel, rfl⟩ := Nat.exists_eq_add_one.mpr (Nat.lt_of_lt_of_le (by decide) enough)
    exact flowEntries_end true
  built _ := rfl

/-- A name is no key of a mapping to take over, and stands for itself. -/
theorem buildEntries_cons {name : String} {entries : List (Node × Node)}
    {pairs : List (String × Value)} {depth : Nat} (first : build depth node = .ok value)
    (others : buildEntries depth entries =
      ⟨[], pairs.map fun entry => (.ok (.text entry.1), .ok entry.2), none⟩) :
    buildEntries depth ((nameNode name, node) :: entries) =
      ⟨[], ((name, value) :: pairs).map fun entry => (.ok (.text entry.1), .ok entry.2), none⟩ := by
  have plain : (nameNode name).hasTag .merge = false := rfl
  rw [buildEntries.eq_def]
  simp only [plain, Bool.false_eq_true, if_false, others, first]
  rfl

/-- The last entry of a mapping. -/
theorem Denotes.lastEntry (name : String) (first : Denotes tokens value node) :
    DenotesEntries (nameTokens name ++ (tokens ++ [.flowMappingEnd])) [(name, value)]
      [(nameNode name, node)] where
  read fuel rest enough := by
    obtain ⟨token, others, rfl, opens⟩ := first.opens
    simp only [nameTokens, List.length_append, List.length_cons, List.length_nil] at enough
    obtain ⟨fuel, rfl⟩ : ∃ more, fuel = more + 6 :=
      Nat.exists_eq_add_of_le' (show 6 ≤ fuel by omega)
    rw [List.append_assoc, List.append_assoc]
    refine flowEntries_first opens (first.read false (fuel + 3) _ ?_) (flowEntries_end false)
    simp only [List.length_cons]
    omega
  built depth := buildEntries_cons (first.built depth) rfl

/-- An entry of a mapping with a comma behind it. -/
theorem Denotes.consEntry (name : String) {pairs : List (String × Value)}
    {entries : List (Node × Node)} (first : Denotes tokens value node)
    (later : DenotesEntries others pairs entries) :
    DenotesEntries (nameTokens name ++ (tokens ++ .flowEntry :: others)) ((name, value) :: pairs)
      ((nameNode name, node) :: entries) where
  read fuel rest enough := by
    obtain ⟨token, front, rfl, opens⟩ := first.opens
    simp only [nameTokens, List.length_append, List.length_cons, List.length_nil] at enough
    obtain ⟨fuel, rfl⟩ : ∃ more, fuel = more + 6 :=
      Nat.exists_eq_add_of_le' (show 6 ≤ fuel by omega)
    rw [List.append_assoc, List.append_assoc]
    refine flowEntries_first opens (first.read false (fuel + 3) _ ?_) ?_
    · simp only [List.length_cons]
      omega
    · rw [List.cons_append, flowEntries_entry]
      exact later.read (fuel + 5) rest (by omega)
  built depth := buildEntries_cons (first.built depth) (later.built depth)

theorem all_ok {α : Type} (items : List α) :
    Built.all (items.map fun item => (.ok item : Built α)) = .ok items := by
  induction items with
  | nil => rfl
  | cons item items ih => rw [List.map_cons, Built.all, ih, Built.both]

/-- Entries with names and values are built. -/
theorem build_entries (pairs : List (String × Value)) (depth : Nat) :
    Entries.build depth ⟨[], pairs.map fun entry => (.ok (.text entry.1), .ok entry.2), none⟩ =
      .ok (Value.ofEntries (pairs.map fun entry => (.text entry.1, entry.2))) := by
  have all := all_ok (pairs.map fun entry => (Value.text entry.1, entry.2))
  rw [List.map_map] at all
  rw [Entries.build, Entries.toList, List.nil_append, List.map_map]
  exact congrArg (·.map Value.ofEntries) all

/-- A mapping. -/
theorem DenotesEntries.mapping {pairs : List (String × Value)} {entries : List (Node × Node)}
    (found : DenotesEntries tokens pairs entries) :
    Denotes (.flowMappingStart :: tokens)
      (.map (Value.ofEntries (pairs.map fun entry => (.text entry.1, entry.2))))
      (.mapping (some .map) entries) where
  opens := ⟨_, _, rfl, rfl⟩
  read block fuel rest enough := by
    simp only [List.length_cons] at enough
    obtain ⟨fuel, rfl⟩ : ∃ more, fuel = more + 1 + 1 :=
      Nat.exists_eq_add_of_le' (show 2 ≤ fuel by omega)
    have read := found.read fuel rest (by omega)
    rw [List.cons_append, read_of_opens rfl, content.eq_def]
    have skipped :
        skip ⟨.flowMappingStart :: (tokens ++ rest), [], []⟩ = ⟨tokens ++ rest, [], []⟩ := rfl
    simp only [skipped, read, ok_bind]
    rfl
  built depth := by
    rw [build, found.built, build_entries]
    rfl

end ClientGen.Yaml

import ClientGen.Proofs.Yaml.CommonScalar
import ClientGen.Proofs.Yaml.FlowReading

/-!
# JSON text as YAML

The scanner makes tokens of a common JSON text that denote the value that JSON gives to the text.
What it does for a value, for the items of an array and for the members of an object follows from
what it does for the parts of them, one level of nesting further in.
-/

namespace ClientGen.Yaml

open Json (isBlank isSpace isSign)

namespace Scanner

variable {s t u : Scanner} {level nesting fuel : Nat} {text rest more : List Char}
  {tokens others : List Token} {name : String} {value : Value}

/-! ## Along a text -/

/-- A state in front of a common text, or behind some of the white space that it begins with. -/
structure Ahead (s : Scanner) (level : Nat) (text : List Char) : Prop where
  /-- The text is common. -/
  common : Json.isCommon text = true
  /-- What is left of it. -/
  left : ∃ gap, (∀ c ∈ gap, isBlank c = true) ∧ s.At level (gap ++ Json.skip text) s.tokens

/-- A state goes on to another one and makes tokens on its way. -/
structure Makes (s u : Scanner) (tokens : List Token) : Prop where
  /-- It goes on. -/
  reaches : s.Reaches u
  /-- The tokens come behind those that it has. -/
  tokens : u.tokens = tokens.reverse ++ s.tokens

theorem Makes.trans (first : s.Makes t tokens) (second : t.Makes u others) :
    s.Makes u (tokens ++ others) where
  reaches := first.reaches.trans second.reaches
  tokens := by rw [second.tokens, first.tokens, List.reverse_append, List.append_assoc]

theorem skip_append (text : List Char) : text.takeWhile isSpace ++ Json.skip text = text :=
  List.takeWhile_append_dropWhile

/-- The white space of a common text is blank. -/
theorem blank_of_common (common : Json.isCommon text = true) :
    ∀ c ∈ text.takeWhile isSpace, isBlank c = true := by
  rw [← skip_append text] at common
  exact (Json.isCommon_spaces (List.all_eq_true.mp List.all_takeWhile) common).1

theorem ahead_of_at {before : List Token} (there : u.At level rest before)
    (common : Json.isCommon rest = true) : u.Ahead level rest := by
  refine ⟨common, rest.takeWhile isSpace, blank_of_common common, ?_⟩
  rw [skip_append, there.tokens]
  exact there

/-- What stands behind the white space, in front of which the state is. -/
theorem Ahead.front {front : List Char} (ahead : s.Ahead level text)
    (shown : Json.skip text = front) :
    ∃ gap, (∀ c ∈ gap, isBlank c = true) ∧ s.At level (gap ++ front) s.tokens ∧
      Json.isCommon front = true := by
  obtain ⟨gap, blank, here⟩ := ahead.left
  have common := Json.isCommon_skip ahead.common
  rw [shown] at here common
  exact ⟨gap, blank, here, common⟩

/-- A sign makes its token. -/
theorem Ahead.sign {c : Char} {token : Token} {allowed : Bool} (ahead : s.Ahead level text)
    (shown : Json.skip text = c :: rest) (sign : isSign c = true)
    (goes : ∀ {gap}, s.At level (gap ++ c :: rest) s.tokens → (∀ d ∈ gap, isBlank d = true) →
      ∃ u, s.Reaches u ∧ u.At nesting rest (token :: s.tokens) ∧ u.allowsKey = allowed) :
    ∃ u, s.Makes u [token] ∧ u.Ahead nesting rest ∧ u.allowsKey = allowed := by
  obtain ⟨gap, blank, here, common⟩ := ahead.front shown
  obtain ⟨u, reaches, there, allows⟩ := goes here blank
  exact ⟨u, ⟨reaches, there.tokens⟩, ahead_of_at there (Json.isCommon_sign sign common), allows⟩

/-- The body of a string spells its text. -/
theorem Ahead.spelled (ahead : s.Ahead level text) (shown : Json.skip text = '"' :: more)
    (read : Json.string more = .ok (name, rest)) :
    ∃ gap body codes, (∀ c ∈ gap, isBlank c = true) ∧ Json.Spells body codes ∧
      name = String.ofList (Json.ofCodes codes) ∧
      s.At level (gap ++ '"' :: (body ++ '"' :: rest)) s.tokens ∧
      Json.isCommon ('"' :: (body ++ '"' :: rest)) = true := by
  obtain ⟨⟨codes, _⟩, found, same⟩ := map_eq_ok.mp read
  cases same
  obtain ⟨body, rfl, spells⟩ := Json.spells_of_stringCodes found
  obtain ⟨gap, blank, here, common⟩ := ahead.front shown
  exact ⟨gap, body, codes, blank, spells, rfl, here, common⟩

/-- A string makes the token of a quoted scalar. -/
theorem Ahead.string (ahead : s.Ahead level text) (shown : Json.skip text = '"' :: more)
    (read : Json.string more = .ok (name, rest)) :
    ∃ u, s.Makes u [.scalar name false] ∧ u.Ahead level rest := by
  obtain ⟨gap, body, codes, blank, spells, rfl, here, common⟩ := ahead.spelled shown read
  obtain ⟨kept, apart, later⟩ := Json.isCommon_quoted spells common
  obtain ⟨_, u, reaches, there, _⟩ := here.quoted blank kept apart
  exact ⟨u, ⟨reaches, there.tokens⟩, ahead_of_at there later⟩

/-- A name with its colon makes the tokens of a key. -/
theorem Ahead.key {behind : List Char} (ahead : s.Ahead (level + 1) text)
    (allows : s.allowsKey = true) (shown : Json.skip text = '"' :: more)
    (read : Json.string more = .ok (name, behind)) (colon : Json.skip behind = ':' :: rest) :
    ∃ u, s.Makes u (nameTokens name) ∧ u.Ahead (level + 1) rest := by
  obtain ⟨gap, body, codes, blank, spells, rfl, here, common⟩ := ahead.spelled shown read
  obtain ⟨kept, apart, later⟩ := Json.isCommon_quoted spells common
  rw [← skip_append behind, colon] at here common
  have spaces : ∀ c ∈ behind.takeWhile isSpace, isSpace c = true :=
    List.all_eq_true.mp List.all_takeWhile
  obtain ⟨gapped, whole, near⟩ := Json.isCommon_name spells spaces common
  obtain ⟨u, reaches, there⟩ := At.name allows here blank kept whole apart gapped near
  have last := Json.isCommon_skip later
  rw [colon] at last
  exact ⟨u, ⟨reaches, there.tokens⟩, ahead_of_at there (Json.isCommon_sign rfl last)⟩

/-- What is followed by a mark ends there. -/
theorem ends_of_closes (closes : Closes (Json.skip rest)) : Json.Ends rest := by
  rw [← skip_append rest]
  intro c first
  cases spaces : rest.takeWhile isSpace with
  | nil =>
      obtain ⟨d, more, shown, mark⟩ := closes
      rw [spaces, shown] at first
      obtain rfl := Option.some.inj first
      rcases isFlowMark_cases mark with rfl | rfl | rfl | rfl | rfl <;> rfl
  | cons d others =>
      rw [spaces] at first
      obtain rfl := Option.some.inj first
      have space : isSpace d = true :=
        List.all_eq_true.mp List.all_takeWhile d (spaces ▸ List.mem_cons_self)
      simp only [isSpace, Bool.or_eq_true, beq_iff_eq] at space
      rcases space with ((rfl | rfl) | rfl) | rfl <;> rfl

/-- A word makes the token of a plain scalar with its value. -/
theorem Ahead.word (ahead : s.Ahead (level + 1) text)
    (read : Json.plain (Json.skip text) = .ok (value, rest)) (closes : Closes (Json.skip rest)) :
    ∃ u tokens node, s.Makes u tokens ∧ u.Ahead (level + 1) rest ∧ Denotes tokens value node := by
  obtain ⟨letters, shown, word⟩ := Json.word_of_plain read
  obtain ⟨gap, blank, here, common⟩ := ahead.front shown
  obtain ⟨judged, later⟩ := Json.isCommon_word word (ends_of_closes closes) common
  have known := Json.commonWord_of_word word judged
  obtain ⟨tag, tagged, found⟩ := value_of_commonWord known
  rw [← skip_append rest] at here
  obtain ⟨u, reaches, there⟩ := here.word blank (leads_of_commonWord known) (all_isWordChar known)
    closes (blank_of_common later)
  refine ⟨u, [.scalar (String.ofList letters) true], _, ⟨reaches, there.tokens⟩, ⟨later, [], ?_⟩,
    denotes_scalar tagged found⟩
  rw [List.nil_append, there.tokens]
  exact ⟨List.forall_mem_nil _, there⟩

/-! ## Values -/

/-- What the scanner does with the values that JSON reads with some fuel. -/
def MakesValues (fuel : Nat) : Prop :=
  ∀ {s : Scanner} {level : Nat} {text rest : List Char} {value : Value},
    Json.value fuel (Json.skip text) = .ok (value, rest) → Closes (Json.skip rest) →
    s.Ahead (level + 1) text →
    ∃ u tokens node, s.Makes u tokens ∧ u.Ahead (level + 1) rest ∧ Denotes tokens value node

/-- What the scanner does with the items of arrays. -/
def MakesItems (fuel : Nat) : Prop :=
  ∀ {s : Scanner} {level : Nat} {text rest : List Char} {values : List Value},
    Json.items fuel (Json.skip text) = .ok (values, rest) → s.Ahead (level + 1) text →
    ∃ u tokens nodes, s.Makes u tokens ∧ u.Ahead level rest ∧ DenotesItems tokens values nodes

/-- What the scanner does with the members of objects. -/
def MakesMembers (fuel : Nat) : Prop :=
  ∀ {s : Scanner} {level : Nat} {text rest : List Char} {found : List (Value × Value)},
    Json.members fuel (Json.skip text) = .ok (found, rest) → s.Ahead (level + 1) text →
    s.allowsKey = true →
    ∃ u tokens pairs nodes, s.Makes u tokens ∧ u.Ahead level rest ∧
      found = pairs.map (fun pair => (.text pair.1, pair.2)) ∧ DenotesEntries tokens pairs nodes

theorem closes_of_skip {c : Char} (shown : Json.skip text = c :: rest)
    (mark : isFlowMark c = true) : Closes (Json.skip text) := ⟨c, rest, shown, mark⟩

/-- One item, and then the others. -/
theorem makesItems_succ (values : MakesValues fuel) (items : MakesItems fuel) :
    MakesItems (fuel + 1) := by
  intro s level text rest found read ahead
  rw [Json.items] at read
  obtain ⟨⟨first, behind⟩, here, later⟩ := bind_eq_ok.mp read
  dsimp only at later
  split at later
  · next closed =>
      cases later
      obtain ⟨t, front, node, makes, after, denotes⟩ :=
        values here (closes_of_skip closed rfl) ahead
      obtain ⟨u, ends, last, _⟩ :=
        after.sign closed rfl fun there blank => there.sequenceEnd blank
      exact ⟨u, _, _, makes.trans ends, last, denotes.last⟩
  · next comma =>
      obtain ⟨⟨others, _⟩, remaining, same⟩ := map_eq_ok.mp later
      cases same
      obtain ⟨t, front, node, makes, after, denotes⟩ :=
        values here (closes_of_skip comma rfl) ahead
      obtain ⟨v, goes, next, _⟩ := after.sign comma rfl fun there blank => there.entry blank
      obtain ⟨u, back, nodes, ends, last, denote⟩ := items remaining next
      refine ⟨u, front ++ .flowEntry :: back, _, ?_, last, denotes.cons denote⟩
      exact makes.trans (goes.trans ends)
  · cases later

/-- One member, and then the others. -/
theorem makesMembers_succ (values : MakesValues fuel) (members : MakesMembers fuel) :
    MakesMembers (fuel + 1) := by
  intro s level text rest found read ahead allows
  rw [Json.members.eq_def] at read
  split at read
  · cases read
  · next same quoted =>
      obtain rfl := Nat.succ.inj same
      obtain ⟨⟨name, behind⟩, named, read⟩ := bind_eq_ok.mp read
      dsimp only at read
      split at read
      · next colon =>
          obtain ⟨t, keys, ahead⟩ := ahead.key allows quoted named colon
          obtain ⟨⟨first, behind⟩, here, later⟩ := bind_eq_ok.mp read
          dsimp only at later
          split at later
          · next closed =>
              cases later
              obtain ⟨v, front, node, makes, after, denotes⟩ :=
                values here (closes_of_skip closed rfl) ahead
              obtain ⟨u, ends, last, _⟩ :=
                after.sign closed rfl fun there blank => there.mappingEnd blank
              exact ⟨u, _, _, _, keys.trans (makes.trans ends), last, rfl, denotes.lastEntry name⟩
          · next comma =>
              obtain ⟨⟨others, _⟩, remaining, same⟩ := map_eq_ok.mp later
              cases same
              obtain ⟨v, front, node, makes, after, denotes⟩ :=
                values here (closes_of_skip comma rfl) ahead
              obtain ⟨w, goes, next, allows⟩ :=
                after.sign comma rfl fun there blank => there.entry blank
              obtain ⟨u, back, pairs, nodes, ends, last, rfl, denote⟩ :=
                members remaining next allows
              exact ⟨u, _, _, _, keys.trans (makes.trans (goes.trans ends)), last, rfl,
                denotes.consEntry name denote⟩
          · cases later
      · cases read
  · cases read

/-- An object, at any level of nesting. -/
theorem Ahead.object (members : MakesMembers fuel) (ahead : s.Ahead level text)
    (opens : Json.skip text = '{' :: more)
    (read : Json.value (fuel + 1) (Json.skip text) = .ok (value, rest)) :
    ∃ u tokens node, s.Makes u tokens ∧ u.Ahead level rest ∧ Denotes tokens value node := by
  obtain ⟨t, start, inner, allows⟩ := ahead.sign opens rfl fun here blank => here.mapping blank
  rw [opens, Json.value] at read
  split at read
  · next closed =>
      cases read
      obtain ⟨u, ends, last, _⟩ := inner.sign closed rfl fun there blank => there.mappingEnd blank
      exact ⟨u, _, _, start.trans ends, last, denotesEntries_nil.mapping⟩
  · obtain ⟨⟨found, _⟩, remaining, same⟩ := map_eq_ok.mp read
    cases same
    obtain ⟨u, tokens, pairs, nodes, makes, last, rfl, denotes⟩ := members remaining inner allows
    exact ⟨u, _, _, start.trans makes, last, denotes.mapping⟩

/-- An array, at any level of nesting. -/
theorem Ahead.array (items : MakesItems fuel) (ahead : s.Ahead level text)
    (opens : Json.skip text = '[' :: more)
    (read : Json.value (fuel + 1) (Json.skip text) = .ok (value, rest)) :
    ∃ u tokens node, s.Makes u tokens ∧ u.Ahead level rest ∧ Denotes tokens value node := by
  obtain ⟨t, start, inner, _⟩ := ahead.sign opens rfl fun here blank => here.sequence blank
  rw [opens, Json.value] at read
  split at read
  · next closed =>
      cases read
      obtain ⟨u, ends, last, _⟩ := inner.sign closed rfl fun there blank => there.sequenceEnd blank
      exact ⟨u, _, _, start.trans ends, last, denotesItems_nil.sequence⟩
  · obtain ⟨⟨found, _⟩, remaining, same⟩ := map_eq_ok.mp read
    cases same
    obtain ⟨u, tokens, nodes, makes, last, denotes⟩ := items remaining inner
    exact ⟨u, _, _, start.trans makes, last, denotes.sequence⟩

/-- A string, an array, an object or a word. -/
theorem makesValues_succ (items : MakesItems fuel) (members : MakesMembers fuel) :
    MakesValues (fuel + 1) := by
  intro s level text rest value read closes ahead
  have whole := read
  rw [Json.value.eq_def] at read
  split at read
  · cases read
  · next quoted =>
      obtain ⟨⟨name, _⟩, named, same⟩ := map_eq_ok.mp read
      cases same
      obtain ⟨u, makes, last⟩ := ahead.string quoted named
      exact ⟨u, _, _, makes, last, denotes_scalar rfl rfl⟩
  · next opens => exact ahead.array items opens whole
  · next opens => exact ahead.object members opens whole
  · exact ahead.word read closes

/-- The scanner makes tokens that denote what JSON reads. -/
theorem makes (fuel : Nat) : MakesValues fuel ∧ MakesItems fuel ∧ MakesMembers fuel := by
  induction fuel with
  | zero =>
      refine ⟨?_, ?_, ?_⟩
      · intro s level text rest value read
        cases read
      · intro s level text rest values read
        cases read
      · intro s level text rest found read
        cases read
  | succ fuel ih =>
      obtain ⟨values, items, members⟩ := ih
      exact ⟨makesValues_succ items members, makesItems_succ values items,
        makesMembers_succ values members⟩

end Scanner

/-! ## Whole texts -/

section

open Scanner

variable {text rest : List Char} {tokens : List Token} {node : Node} {value : Value}
  {entries : List (Value × Value)} {fuel : Nat}

/-- Only an object is read as a mapping. -/
theorem opens_of_value {text : List Char} (read : Json.value fuel text = .ok (.map entries, rest)) :
    ∃ fewer more, fuel = fewer + 1 ∧ text = '{' :: more := by
  rw [Json.value.eq_def] at read
  split at read
  · cases read
  · obtain ⟨_, _, same⟩ := map_eq_ok.mp read
    cases same
  · split at read
    · cases read
    · obtain ⟨_, _, same⟩ := map_eq_ok.mp read
      cases same
  · exact ⟨_, _, rfl, rfl⟩
  · obtain ⟨letters, _, word⟩ := Json.word_of_plain read
    cases word with
    | constant known =>
        have each : ∀ pair ∈ Json.constants, pair.2.kindName ≠ "dict" := by decide +kernel
        exact absurd rfl (each _ known)

theorem all_isAllowed (common : Json.isCommon text = true) : text.all isAllowed = true := by
  rw [List.all_eq_true]
  intro c member
  have char := (Json.isCommon_iff.mp common).1 c member
  rw [Json.isCommonChar, Bool.and_eq_true, Bool.and_eq_true] at char
  exact char.1.1

/-- A state at the end of a text makes the last token. -/
theorem tokens_of_makes {u : Scanner} (common : Json.isCommon text = true)
    (makes : (start text).Makes u tokens) (ahead : u.Ahead 0 rest) (ended : Json.skip rest = []) :
    Yaml.tokens text = tokens ++ [.streamEnd] := by
  obtain ⟨gap, blank, here⟩ := ahead.left
  rw [ended, List.append_nil] at here
  obtain ⟨steps, short, same⟩ := makes.reaches
  have length : (start text).cursor.rest.length = text.length := rfl
  have fuel : text.length + 1 = text.length - steps + 1 + steps := by omega
  rw [Yaml.tokens, if_pos (all_isAllowed common), fuel, same, run_end here blank, makes.tokens]
  have first : (start text).tokens = [] := rfl
  rw [first, List.append_nil, List.reverse_cons, List.reverse_reverse]

/-- Tokens of one node are a document. -/
theorem ofTokens_eq (denotes : Denotes tokens value node) :
    Node.ofTokens (tokens ++ [.streamEnd]) = .ok (some node) := by
  obtain ⟨token, others, rfl, opens⟩ := denotes.opens
  have read := denotes.read true (6 * (token :: others ++ [Token.streamEnd]).length + 6)
    [.streamEnd] (by simp only [List.length_append]; omega)
  have more : (token :: others ++ [Token.streamEnd]).head? ≠ some .streamEnd := by
    rintro ⟨⟩
    cases opens
  have plain : (token :: others ++ [Token.streamEnd]).head?.any Node.startsExplicitly = false := by
    cases token <;> first | rfl | cases opens
  rw [Node.ofTokens, if_neg more, Node.documentNode, plain, if_neg Bool.false_ne_true, read]
  rfl

/-- YAML reads a common text of a JSON object as JSON does. -/
theorem read_of_common (read : Json.read text = .ok (.map entries))
    (common : Json.isCommon text = true) : Yaml.read text = .ok (.map entries) := by
  rw [Json.read.eq_def] at read
  split at read
  · cases read
  · obtain ⟨⟨found, rest⟩, whole, last⟩ := bind_eq_ok.mp read
    dsimp only at last
    split at last
    · next ended =>
        cases last
        obtain ⟨fuel, more, enough, opens⟩ := opens_of_value whole
        rw [enough] at whole
        have ahead : (start text).Ahead 0 text := ahead_of_at (at_start text) common
        obtain ⟨u, tokens, node, makes, behind, denotes⟩ :=
          ahead.object (Scanner.makes fuel).2.2 opens whole
        rw [Yaml.read, tokens_of_makes common makes behind ended, ofTokens_eq denotes, ok_bind]
        dsimp only
        rw [denotes.built]
        rfl
    · cases last

end

end ClientGen.Yaml

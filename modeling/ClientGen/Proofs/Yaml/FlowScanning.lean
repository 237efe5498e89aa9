import ClientGen.Proofs.Yaml.FlowScalar
import ClientGen.Proofs.Yaml.TokenStream

/-!
# Scanning flow collections

What a scanner does with the signs, strings and words of a flow collection. Between two tokens it
only goes over blanks. No key has to follow in a flow collection, so that possible keys are dropped
without a complaint, and a name becomes a key when its colon is met.
-/

namespace ClientGen.Yaml

open Json (CommonBody isSeparator isBlank)
open Cursor

namespace Scanner

variable {s t : Scanner} {level : Nat} {gap rest text : List Char} {before : List Token}

/-! ## States -/

/-- A state outside of all block collections where nothing has to be a key. -/
structure At (s : Scanner) (level : Nat) (text : List Char) (before : List Token) : Prop where
  /-- The text that is left. -/
  rest : s.cursor.rest = text
  /-- Its characters are counted. -/
  counted : s.cursor.left = s.cursor.rest.length
  /-- The nesting of flow collections. -/
  level : s.flowLevel = level
  /-- The tokens so far. -/
  tokens : s.tokens = before
  /-- They are counted. -/
  count : s.count = before.length
  /-- No colon has to follow. -/
  optional : ∀ key ∈ s.possibleKeys, key.required = false
  /-- No block collection is open. -/
  indent : s.indent = -1
  /-- None is around. -/
  outer : s.outerIndents = []

/-- A state goes on from another one with at most one token for each character in between. -/
def Reaches (s t : Scanner) : Prop :=
  ∃ steps, steps + t.cursor.rest.length ≤ s.cursor.rest.length ∧
    ∀ fuel, run (fuel + steps) s = run fuel t

theorem Reaches.refl (s : Scanner) : s.Reaches s := ⟨0, by omega, fun _ => rfl⟩

theorem Reaches.trans {u : Scanner} (first : s.Reaches t) (second : t.Reaches u) : s.Reaches u := by
  obtain ⟨steps, short, same⟩ := first
  obtain ⟨others, shorter, equal⟩ := second
  refine ⟨others + steps, by omega, fun fuel => ?_⟩
  rw [← Nat.add_assoc, same, equal]

theorem at_start (text : List Char) : (start text).At 0 text [] where
  rest := rfl
  counted := rfl
  level := rfl
  tokens := rfl
  count := rfl
  optional := List.forall_mem_nil _
  indent := rfl
  outer := rfl

/-! ## Between tokens -/

theorem skipBlank_eq {fuel : Nat} (begins : Begins rest) (blank : ∀ c ∈ gap, isBlank c = true)
    (shown : s.cursor.rest = gap ++ rest) (enough : gap.length < fuel) :
    ∃ there allowed, skipBlank fuel s = { s with cursor := there, allowsKey := allowed } ∧
      s.cursor.Passes gap there ∧ (s.allowsKey = true → allowed = true) := by
  induction fuel generalizing s gap with
  | zero => cases enough
  | succ fuel ih =>
      obtain ⟨spaces, others, rfl, white, broken, ends⟩ := exists_spaces blank begins
      rw [List.append_assoc] at shown
      obtain ⟨between, taken, first⟩ := takeWhile_eq shown white fun c first => (ends c first).1
      have behind := first.rest_eq shown
      have skipped : s.cursor.skipSpaces.skipComment = between := by
        have spaced : s.cursor.skipSpaces = between := by rw [skipSpaces, skipWhile, taken]
        have uncommented : (between.peek == '#') = false := by
          rw [peek, behind]
          cases shown : others ++ rest with
          | nil => rfl
          | cons c more => exact (ends c (by rw [shown]; rfl)).2
        rw [spaced, skipComment, uncommented, if_neg Bool.false_ne_true]
      rw [skipBlank, skipped]
      cases others with
      | nil =>
          have none : between.lineBreak = ([], between) := by
            refine lineBreak_none fun c first => ?_
            rw [behind] at first
            have dense := (begins c first).1
            exact (isGap_eq_false_iff.mp dense).2.2.2
          rw [none]
          exact ⟨between, s.allowsKey, rfl, by rwa [List.append_nil], id⟩
      | cons c others =>
          obtain ⟨next, run, later, found, divided, second, left, short⟩ :=
            lineBreak_eq behind (broken c rfl) begins
          rw [divided, List.forall_mem_append, List.forall_mem_append] at blank
          obtain ⟨there, allowed, skipped, third, kept⟩ :=
            @ih ({ s with cursor := next }.allowing (s.allowsKey || !s.inFlow)) later blank.2.2 left
              (by simp at enough; omega)
          rw [found]
          refine ⟨there, allowed, skipped, ?_, fun allows => kept ?_⟩
          · rw [divided]
            exact first.trans (second.trans third)
          · show (s.allowsKey || !s.inFlow) = true
            rw [allows, Bool.true_or]

/-- The state at the next token. -/
structure Arrives (s : Scanner) (gap : List Char) (level : Nat) (rest : List Char)
    (before : List Token) (t : Scanner) : Prop where
  /-- Where it is. -/
  there : t.At level rest before
  /-- Only blanks lie in between. -/
  passes : s.cursor.Passes gap t.cursor
  /-- Where a key may start, it still may. -/
  allows : s.allowsKey = true → t.allowsKey = true
  /-- What may still become a key. -/
  keys : t.possibleKeys = s.possibleKeys.filter (isFresh t.cursor)

theorem At.unwind_eq (here : s.At level text before) (column : Int) : s.unwind column = s := by
  rw [unwind, here.outer]
  split <;> rfl

/-- No byte order mark stands in front of a token. -/
theorem unmarked (begins : Begins rest) (blank : ∀ c ∈ gap, isBlank c = true)
    (shown : s.cursor.rest = gap ++ rest) : (s.cursor.peek == '\ufeff') = false := by
  rw [peek, shown]
  cases gap with
  | nil =>
      cases rest with
      | nil => rfl
      | cons c rest => simpa using (begins c rfl).2.2
  | cons c gap => rcases eq_of_isBlank (blank c List.mem_cons_self) with rfl | rfl | rfl <;> rfl

/-- No key that has to follow is forgotten. -/
theorem dropStaleKeys_eq (optional : ∀ key ∈ s.possibleKeys, key.required = false) :
    s.dropStaleKeys = .ok { s with possibleKeys := s.possibleKeys.filter (isFresh s.cursor) } := by
  have none : (s.possibleKeys.filter (not ∘ isFresh s.cursor)).any (·.required) = false := by
    rw [List.any_eq_false]
    intro key member
    simp [optional key (List.mem_filter.mp member).1]
  rw [dropStaleKeys, List.partition_eq_filter_filter]
  simp only [none, Bool.false_eq_true, if_false]

/-- A scanner goes on with the token behind the blanks, or ends there. -/
theorem run_arrives (here : s.At level (gap ++ rest) before) (begins : Begins rest)
    (blank : ∀ c ∈ gap, isBlank c = true) :
    ∃ t, s.Arrives gap level rest before t ∧ ∀ fuel, s.run (fuel + 1) =
      if rest.isEmpty then
        match t.streamEnd with
        | .error fault => .broken fault :: t.tokens
        | .ok u => u.tokens
      else
        match t.stepAt t with
        | .error fault => .broken fault :: t.tokens
        | .ok u => run fuel u := by
  have enough : gap.length < s.cursor.left + 1 := by
    rw [here.counted, here.rest, List.length_append]
    omega
  obtain ⟨there, allowed, skipped, passes, kept⟩ := skipBlank_eq begins blank here.rest enough
  have next : s.toNextToken = { s with cursor := there, allowsKey := allowed } := by
    rw [toNextToken, unmarked begins blank here.rest, Bool.and_false]
    exact skipped
  have dropped : ({ s with cursor := there, allowsKey := allowed } : Scanner).dropStaleKeys = .ok
      { s with
        cursor := there, allowsKey := allowed,
        possibleKeys := s.possibleKeys.filter (isFresh there) } := dropStaleKeys_eq here.optional
  have arrived : At { s with
      cursor := there, allowsKey := allowed,
      possibleKeys := s.possibleKeys.filter (isFresh there) } level rest before :=
    { here with
      rest := passes.rest_eq here.rest
      counted := passes.left here.counted
      optional := fun key member => here.optional key (List.mem_filter.mp member).1 }
  refine ⟨_, ⟨arrived, passes, kept, rfl⟩, fun fuel => ?_⟩
  rw [run_succ, next, dropped]
  dsimp only
  rw [arrived.unwind_eq]
  have left : there.rest = rest := arrived.rest
  subst left
  rfl

/-- The key of the present level is dropped without a complaint. -/
theorem At.dropKey_eq (here : s.At level text before) :
    ∃ keys, s.dropKey = .ok { s with possibleKeys := keys } ∧
      ∀ key ∈ keys, key.required = false := by
  rw [dropKey, takeKey]
  cases found : s.possibleKeys.find? (·.flowLevel = s.flowLevel) with
  | none => exact ⟨s.possibleKeys, rfl, here.optional⟩
  | some key =>
      have free := here.optional key (List.mem_of_find?_eq_some found)
      refine ⟨s.possibleKeys.filter (·.flowLevel ≠ s.flowLevel), ?_, fun other member => ?_⟩
      · simp only [free, Bool.false_eq_true, if_false]
      · exact here.optional other (List.mem_filter.mp member).1

/-- The tokens end with the text. -/
theorem run_end (here : s.At level gap before) (blank : ∀ c ∈ gap, isBlank c = true) (fuel : Nat) :
    s.run (fuel + 1) = .streamEnd :: before := by
  rw [← List.append_nil gap] at here
  have begins : Begins [] := nofun
  obtain ⟨t, arrives, ran⟩ := run_arrives here begins blank
  obtain ⟨keys, dropped, _⟩ := arrives.there.dropKey_eq
  have ended : t.streamEnd = .ok (emit .streamEnd { t with possibleKeys := keys }) := by
    rw [streamEnd, arrives.there.unwind_eq, dropped]
    rfl
  rw [ran, List.isEmpty_nil, if_pos rfl, ended, ← arrives.there.tokens]
  rfl

/-- A token that is taken without a complaint is one step of the way. -/
theorem reaches_of_stepAt {c : Char} (here : s.At level (gap ++ c :: rest) before)
    (begins : Begins (c :: rest)) (blank : ∀ c ∈ gap, isBlank c = true) :
    ∃ t, s.Arrives gap level (c :: rest) before t ∧ ∀ u, t.stepAt t = .ok u →
      u.cursor.rest.length ≤ rest.length → s.Reaches u := by
  obtain ⟨t, arrives, ran⟩ := run_arrives here begins blank
  refine ⟨t, arrives, fun u stepped shorter => ⟨1, ?_, fun fuel => ?_⟩⟩
  · rw [here.rest, List.length_append, List.length_cons]
    omega
  · rw [ran, if_neg (by simp), stepped]

/-! ## Signs -/

variable {keys : List PossibleKey} {there : Cursor} {token : Token} {c : Char}

/-- The state behind a token. -/
theorem At.emitted {nesting : Nat} {allowed : Bool} {run : List Char}
    (here : t.At level (run ++ rest) before) (optional : ∀ key ∈ keys, key.required = false)
    (passes : t.cursor.Passes run there) :
    At ⟨there, nesting, t.indent, t.outerIndents, allowed, keys, token :: t.tokens, t.count + 1⟩
      nesting rest (token :: before) where
  rest := passes.rest_eq here.rest
  counted := passes.left here.counted
  level := rfl
  tokens := congrArg (token :: ·) here.tokens
  count := congrArg (· + 1) here.count
  optional := optional
  indent := here.indent
  outer := here.outer

/-- The state behind a token of one character. -/
theorem At.emittedNext {allowed : Bool} (nesting : Nat) (here : t.At level (c :: rest) before)
    (optional : ∀ key ∈ keys, key.required = false) :
    At ⟨t.cursor.next, nesting, t.indent, t.outerIndents, allowed, keys, token :: t.tokens,
      t.count + 1⟩ nesting rest (token :: before) := by
  have single : t.At level ([c] ++ rest) before := here
  exact single.emitted optional (passes_next here.rest)

/-- Whatever may become a key does not have to. -/
theorem At.noteKey_eq (here : t.At level text before) :
    ∃ keys, t.noteKey = .ok { t with possibleKeys := keys } ∧
      (∀ key ∈ keys, key.required = false) ∧
      (t.allowsKey = true →
        ∃ others, keys = ⟨level, before.length, false, t.cursor⟩ :: others) := by
  rw [noteKey]
  split
  · obtain ⟨keys, dropped, optional⟩ := here.dropKey_eq
    have free : (!t.inFlow && t.indent == (t.cursor.column : Int)) = false := by
      have apart : (t.indent == (t.cursor.column : Int)) = false := by
        rw [here.indent, beq_eq_false_iff_ne]
        omega
      rw [apart, Bool.and_false]
    rw [dropped, ok_bind]
    refine ⟨⟨t.flowLevel, t.count, false, t.cursor⟩ :: keys, ?_, ?_, fun _ => ⟨keys, ?_⟩⟩
    · rw [← free]
      rfl
    · exact List.forall_mem_cons.mpr ⟨rfl, optional⟩
    · rw [here.level, here.count]
  · next forbids => exact ⟨t.possibleKeys, rfl, here.optional, fun allows => absurd allows forbids⟩

theorem At.flowStart_eq (here : t.At level (c :: rest) before) :
    ∃ u, t.flowStart token = .ok u ∧ u.At (level + 1) rest (token :: before) ∧
      u.allowsKey = true := by
  obtain ⟨keys, noted, optional, _⟩ := here.noteKey_eq
  rw [flowStart, noted, ok_bind, ← here.level]
  exact ⟨_, rfl, here.emittedNext _ optional, rfl⟩

theorem At.flowEnd_eq (here : t.At (level + 1) (c :: rest) before) :
    ∃ u, t.flowEnd token = .ok u ∧ u.At level rest (token :: before) ∧ u.allowsKey = false := by
  obtain ⟨keys, dropped, optional⟩ := here.dropKey_eq
  have lower : t.flowLevel - 1 = level := by rw [here.level, Nat.add_sub_cancel]
  rw [flowEnd, dropped, ok_bind, ← lower]
  exact ⟨_, rfl, here.emittedNext _ optional, rfl⟩

theorem At.flowEntry_eq (here : t.At level (c :: rest) before) :
    ∃ u, t.flowEntry = .ok u ∧ u.At level rest (.flowEntry :: before) ∧ u.allowsKey = true := by
  obtain ⟨keys, dropped, optional⟩ := here.dropKey_eq
  rw [flowEntry, dropped, ok_bind, ← here.level]
  exact ⟨_, rfl, here.emittedNext _ optional, rfl⟩

/-! ## Strings, colons and words -/

theorem At.quoted_eq {body : List Char} {codes : List Nat}
    (here : t.At level ('"' :: (body ++ '"' :: rest)) before) (common : CommonBody body codes)
    (apart : Json.hasPair codes = false) :
    ∃ u, t.keyLike scanQuoted = .ok u ∧
      u.At level rest (.scalar (String.ofList (Json.ofCodes codes)) false :: before) ∧
      t.cursor.Passes ('"' :: (body ++ ['"'])) u.cursor ∧
      (t.allowsKey = true →
        ∃ others, u.possibleKeys = ⟨level, before.length, false, t.cursor⟩ :: others) := by
  obtain ⟨keys, noted, optional, first⟩ := here.noteKey_eq
  obtain ⟨there, scanned, passes⟩ := scanQuoted_eq common apart here.counted here.rest
  have regrouped : t.At level ('"' :: (body ++ ['"']) ++ rest) before := by simpa using here
  rw [keyLike, noted, ok_bind]
  simp only [scanned, ok_bind]
  rw [← here.level]
  refine ⟨_, rfl, regrouped.emitted optional passes, passes, ?_⟩
  rw [here.level]
  exact first

/-- The colon of a name: the name becomes a key. -/
theorem At.value_eq {place : Cursor} {others : List PossibleKey}
    (here : t.At (level + 1) (':' :: rest) (token :: before))
    (first : t.possibleKeys = ⟨level + 1, before.length, false, place⟩ :: others) :
    ∃ u, t.value = .ok u ∧ u.At (level + 1) rest (.value :: token :: .key :: before) := by
  have found : t.possibleKeys.find? (·.flowLevel = t.flowLevel) =
      some ⟨level + 1, before.length, false, place⟩ := by
    rw [first, here.level]
    simp
  have flow : (t.flowLevel != 0) = true := by rw [here.level]; rfl
  have optional : ∀ key ∈ t.possibleKeys.filter (·.flowLevel ≠ t.flowLevel),
      key.required = false := fun key member => here.optional key (List.mem_filter.mp member).1
  have passes := passes_next here.rest
  have inserted : t.tokens.insertIdx (t.count - before.length) .key = token :: .key :: before := by
    have position : t.count - before.length = 1 := by
      rw [here.count, List.length_cons, Nat.add_sub_cancel_left]
    rw [position, here.tokens]
    rfl
  have spelled : t.valueOfKey ⟨level + 1, before.length, false, place⟩
      (t.possibleKeys.filter (·.flowLevel ≠ t.flowLevel)) =
      ⟨t.cursor, t.flowLevel, t.indent, t.outerIndents, false,
        t.possibleKeys.filter (·.flowLevel ≠ t.flowLevel), token :: .key :: before,
        t.count + 1⟩ := by
    simp only [valueOfKey, emitAt, inFlow, flow, if_true, inserted]
    rfl
  refine ⟨⟨t.cursor.next, t.flowLevel, t.indent, t.outerIndents, false,
    t.possibleKeys.filter (·.flowLevel ≠ t.flowLevel), .value :: token :: .key :: before,
    t.count + 1 + 1⟩, ?_, ?_⟩
  · rw [value, takeKey, found]
    simp only [spelled]
    rfl
  · exact {
      rest := passes.rest_eq here.rest
      counted := passes.left here.counted
      level := here.level
      tokens := rfl
      count := by rw [here.count]; rfl
      optional := optional
      indent := here.indent
      outer := here.outer }

theorem At.plainScalar_eq {letters : List Char}
    (here : t.At (level + 1) (letters ++ (gap ++ rest)) before) (some : letters ≠ [])
    (all : ∀ c ∈ letters, isWordChar c = true) (closes : Closes rest)
    (blank : ∀ c ∈ gap, isBlank c = true) :
    ∃ u, t.plainScalar = .ok u ∧
      u.At (level + 1) rest (.scalar (String.ofList letters) true :: before) := by
  obtain ⟨keys, noted, optional, _⟩ := here.noteKey_eq
  have flow : t.inFlow = true := by rw [inFlow, here.level]; rfl
  obtain ⟨ended, there, scanned, passes⟩ :=
    scanPlain_eq t.indent some all closes blank here.counted here.rest
  have regrouped : t.At (level + 1) (letters ++ gap ++ rest) before := by simpa using here
  have within : inFlow { t with possibleKeys := keys } = true := flow
  rw [plainScalar, noted, ok_bind]
  simp only [within, scanned]
  rw [← here.level]
  exact ⟨_, rfl, regrouped.emitted optional passes⟩

/-! ## Which token starts where -/

theorem stepAt_sequence (shown : t.cursor.rest = '[' :: rest) :
    t.stepAt = flowStart .flowSequenceStart := by
  simp [stepAt, peek_of_rest shown, atMarker]

theorem stepAt_mapping (shown : t.cursor.rest = '{' :: rest) :
    t.stepAt = flowStart .flowMappingStart := by
  simp [stepAt, peek_of_rest shown, atMarker]

theorem stepAt_sequenceEnd (shown : t.cursor.rest = ']' :: rest) :
    t.stepAt = flowEnd .flowSequenceEnd := by
  simp [stepAt, peek_of_rest shown, atMarker]

theorem stepAt_mappingEnd (shown : t.cursor.rest = '}' :: rest) :
    t.stepAt = flowEnd .flowMappingEnd := by
  simp [stepAt, peek_of_rest shown, atMarker]

theorem stepAt_entry (shown : t.cursor.rest = ',' :: rest) : t.stepAt = flowEntry := by
  simp [stepAt, peek_of_rest shown, atMarker]

theorem stepAt_quoted (shown : t.cursor.rest = '"' :: rest) : t.stepAt = keyLike scanQuoted := by
  simp [stepAt, peek_of_rest shown, atMarker]

theorem stepAt_value (shown : t.cursor.rest = ':' :: rest) (flow : t.inFlow = true) :
    t.stepAt = value := by
  simp [stepAt, peek_of_rest shown, atMarker, flow]

/-- The characters that start something other than a plain scalar, or nothing. -/
def starts : List Char :=
  endings ++ ['-', '.', '&', '*', '!', '|', '>', '\'', '"', '%', '@', Char.ofNat 0x60]

theorem notMem_starts (letter : Text.isAlphanumeric c = true) : c ∉ starts := by
  have none : ∀ d ∈ starts, Text.isAlphanumeric d = false :=
    Text.forall_mem_of_all (by decide)
  intro member
  rw [none c member] at letter
  cases letter

theorem stepAt_letter (shown : t.cursor.rest = c :: rest) (letter : Text.isAlphanumeric c = true) :
    t.stepAt = plainScalar := by
  have apart := notMem_starts letter
  simp only [starts, endings, List.cons_append, List.nil_append, List.mem_cons, not_or] at apart
  have unquoted : c.toNat ≠ 0x60 := by
    intro same
    rw [← Char.ofNat_toNat c, same] at letter
    cases letter
  simp [stepAt, peek_of_rest shown, atMarker, startsPlain, isIndicator, isFlowMark, isGap,
    isSpaceOrEnd, isLineEnd, isBreak, apart, unquoted]

theorem stepAt_minus (shown : t.cursor.rest = '-' :: c :: rest)
    (letter : Text.isAlphanumeric c = true) : t.stepAt = plainScalar := by
  have apart := notMem_starts letter
  simp only [starts, endings, List.cons_append, List.nil_append, List.mem_cons, not_or] at apart
  have next : t.cursor.peekAt 1 = c := by rw [peekAt, shown]; rfl
  simp [stepAt, peek_of_rest shown, atMarker, next, startsPlain, isIndicator, isFlowMark, isGap,
    isSpaceOrEnd, isLineEnd, isBreak, apart]

/-- A word that begins with a letter or a digit, or with a minus in front of one. -/
def Leads (letters : List Char) : Prop :=
  ∃ c more, (letters = c :: more ∨ letters = '-' :: c :: more) ∧ Text.isAlphanumeric c = true

theorem Leads.stepAt_eq {letters : List Char} (leads : Leads letters)
    (shown : t.cursor.rest = letters ++ rest) : t.stepAt = plainScalar := by
  obtain ⟨c, more, rfl | rfl, letter⟩ := leads
  · exact stepAt_letter shown letter
  · exact stepAt_minus shown letter

/-! ## From token to token -/

theorem begins_cons (dense : isGap c = false) (uncommented : c ≠ '#') (unmarked : c ≠ '\ufeff') :
    Begins (c :: rest) := by
  intro d first
  obtain rfl := Option.some.inj first
  exact ⟨dense, uncommented, unmarked⟩

/-- A sign that is no gap. -/
theorem At.sign {nesting : Nat} {after : List Token} {allowed : Bool} {step : Step}
    (here : s.At level (gap ++ c :: rest) before) (blank : ∀ c ∈ gap, isBlank c = true)
    (begins : Begins (c :: rest))
    (starts : ∀ {t : Scanner}, t.cursor.rest = c :: rest → t.stepAt = step)
    (steps : ∀ {t : Scanner}, t.At level (c :: rest) before →
      ∃ u, step t = .ok u ∧ u.At nesting rest after ∧ u.allowsKey = allowed) :
    ∃ u, s.Reaches u ∧ u.At nesting rest after ∧ u.allowsKey = allowed := by
  obtain ⟨t, arrives, goes⟩ := reaches_of_stepAt here begins blank
  obtain ⟨u, stepped, there, allows⟩ := steps arrives.there
  rw [← starts arrives.there.rest] at stepped
  exact ⟨u, goes u stepped (Nat.le_of_eq (congrArg List.length there.rest)), there, allows⟩

theorem At.sequence (here : s.At level (gap ++ '[' :: rest) before)
    (blank : ∀ c ∈ gap, isBlank c = true) :
    ∃ u, s.Reaches u ∧ u.At (level + 1) rest (.flowSequenceStart :: before) ∧
      u.allowsKey = true :=
  here.sign blank (begins_cons rfl (by decide) (by decide)) stepAt_sequence At.flowStart_eq

theorem At.mapping (here : s.At level (gap ++ '{' :: rest) before)
    (blank : ∀ c ∈ gap, isBlank c = true) :
    ∃ u, s.Reaches u ∧ u.At (level + 1) rest (.flowMappingStart :: before) ∧
      u.allowsKey = true :=
  here.sign blank (begins_cons rfl (by decide) (by decide)) stepAt_mapping At.flowStart_eq

theorem At.sequenceEnd (here : s.At (level + 1) (gap ++ ']' :: rest) before)
    (blank : ∀ c ∈ gap, isBlank c = true) :
    ∃ u, s.Reaches u ∧ u.At level rest (.flowSequenceEnd :: before) ∧ u.allowsKey = false :=
  here.sign blank (begins_cons rfl (by decide) (by decide)) stepAt_sequenceEnd At.flowEnd_eq

theorem At.mappingEnd (here : s.At (level + 1) (gap ++ '}' :: rest) before)
    (blank : ∀ c ∈ gap, isBlank c = true) :
    ∃ u, s.Reaches u ∧ u.At level rest (.flowMappingEnd :: before) ∧ u.allowsKey = false :=
  here.sign blank (begins_cons rfl (by decide) (by decide)) stepAt_mappingEnd At.flowEnd_eq

theorem At.entry (here : s.At level (gap ++ ',' :: rest) before)
    (blank : ∀ c ∈ gap, isBlank c = true) :
    ∃ u, s.Reaches u ∧ u.At level rest (.flowEntry :: before) ∧ u.allowsKey = true :=
  here.sign blank (begins_cons rfl (by decide) (by decide)) stepAt_entry At.flowEntry_eq

section

variable {body : List Char} {codes : List Nat}

/-- A string of JSON. -/
theorem At.quoted (here : s.At level (gap ++ '"' :: (body ++ '"' :: rest)) before)
    (blank : ∀ c ∈ gap, isBlank c = true) (common : CommonBody body codes)
    (apart : Json.hasPair codes = false) :
    ∃ place u, s.Reaches u ∧
      u.At level rest (.scalar (String.ofList (Json.ofCodes codes)) false :: before) ∧
      Passes place ('"' :: (body ++ ['"'])) u.cursor ∧
      (s.allowsKey = true →
        ∃ others, u.possibleKeys = ⟨level, before.length, false, place⟩ :: others) := by
  obtain ⟨t, arrives, goes⟩ :=
    reaches_of_stepAt here (begins_cons rfl (by decide) (by decide)) blank
  obtain ⟨u, stepped, there, passes, keys⟩ := arrives.there.quoted_eq common apart
  rw [← stepAt_quoted arrives.there.rest] at stepped
  have shorter : u.cursor.rest.length ≤ (body ++ '"' :: rest).length := by
    rw [there.rest, List.length_append, List.length_cons]
    omega
  exact ⟨t.cursor, u, goes u stepped shorter, there, passes,
    fun allows => keys (arrives.allows allows)⟩

/-- A name of JSON with its colon. -/
theorem At.name {space : List Char} (allows : s.allowsKey = true)
    (here : s.At (level + 1) (gap ++ '"' :: (body ++ '"' :: (space ++ ':' :: rest))) before)
    (blank : ∀ c ∈ gap, isBlank c = true) (common : CommonBody body codes)
    (whole : ∀ c ∈ body, isSeparator c = false) (apart : Json.hasPair codes = false)
    (spaces : ∀ c ∈ space, c = ' ') (near : body.length + 2 + space.length ≤ longestKey) :
    ∃ u, s.Reaches u ∧ u.At (level + 1) rest
      (.value :: .scalar (String.ofList (Json.ofCodes codes)) false :: .key :: before) := by
  obtain ⟨place, t, first, there, passes, keys⟩ := here.quoted blank common apart
  obtain ⟨others, held⟩ := keys allows
  have blanks : ∀ c ∈ space, isBlank c = true := fun c member => by
    rw [spaces c member]
    rfl
  obtain ⟨v, arrives, goes⟩ :=
    reaches_of_stepAt there (begins_cons rfl (by decide) (by decide)) blanks
  have fresh : isFresh v.cursor ⟨level + 1, before.length, false, place⟩ = true := by
    have between := passes.trans arrives.passes
    have line : v.cursor.line = place.line := by
      refine between.line ?_
      simp only [List.forall_mem_append, List.forall_mem_cons, List.cons_append]
      refine ⟨rfl, ⟨unbroken_of_common common whole, rfl, List.forall_mem_nil _⟩, ?_⟩
      intro c member
      rw [spaces c member]
      rfl
    have index := between.index
    simp only [List.length_append, List.length_cons, List.length_nil] at index
    have close : v.cursor.index - place.index ≤ longestKey := by omega
    rw [isFresh, line, decide_eq_true rfl, Bool.true_and]
    exact decide_eq_true close
  have kept : v.possibleKeys =
      ⟨level + 1, before.length, false, place⟩ :: others.filter (isFresh v.cursor) := by
    rw [arrives.keys, held, List.filter_cons_of_pos fresh]
  obtain ⟨u, stepped, behind⟩ := arrives.there.value_eq kept
  have flow : v.inFlow = true := by rw [inFlow, arrives.there.level]; rfl
  rw [← stepAt_value arrives.there.rest flow] at stepped
  have shorter := Nat.le_of_eq (congrArg List.length behind.rest)
  exact ⟨u, first.trans (goes u stepped shorter), behind⟩

end

theorem begins_of_isWordChar (letter : isWordChar c = true) : Begins (c :: rest) := by
  have apart := notMem_endings letter
  simp only [endings, List.mem_cons, not_or] at apart
  refine begins_cons ?_ (by simp [apart]) ?_
  · simp [isGap, isSpaceOrEnd, isLineEnd, isBreak, apart]
  · rintro rfl
    cases letter

/-- A word of JSON, with the blanks behind it. -/
theorem At.word {letters space : List Char}
    (here : s.At (level + 1) (gap ++ (letters ++ (space ++ rest))) before)
    (blank : ∀ c ∈ gap, isBlank c = true) (leads : Leads letters)
    (all : ∀ c ∈ letters, isWordChar c = true) (closes : Closes rest)
    (blanks : ∀ c ∈ space, isBlank c = true) :
    ∃ u, s.Reaches u ∧
      u.At (level + 1) rest (.scalar (String.ofList letters) true :: before) := by
  cases letters with
  | nil => obtain ⟨_, _, same | same, _⟩ := leads <;> cases same
  | cons c letters =>
      obtain ⟨t, arrives, goes⟩ :=
        reaches_of_stepAt here (begins_of_isWordChar (all c List.mem_cons_self)) blank
      obtain ⟨u, stepped, there⟩ :=
        arrives.there.plainScalar_eq (List.cons_ne_nil c letters) all closes blanks
      rw [← leads.stepAt_eq arrives.there.rest] at stepped
      have shorter : u.cursor.rest.length ≤ (letters ++ (space ++ rest)).length := by
        rw [there.rest, List.length_append, List.length_append]
        omega
      exact ⟨u, goes u stepped shorter, there⟩

end Scanner

end ClientGen.Yaml

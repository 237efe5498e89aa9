import ClientGen.Name.Case
import ClientGen.Proofs.Text.Case

/-!
# Characters of spelled names

A convention changes the case of letters, and adds or drops underscores. It makes no closing brace,
so that a spelled name can stand between braces like the name that it comes from, and no line feed,
so that it stands on one line if that name does.
-/

namespace ClientGen.Name

open Text

variable {d : Char} {text : List Char}

theorem mem_of_mem_camelChars (uncased : Uncased d) (member : d ∈ camelChars text) : d ∈ text := by
  have leading : d ∈ leadingUnderscores text → d ∈ text :=
    fun inside => (List.takeWhile_sublist _).mem inside
  have within : ∀ piece ∈ splitOn '_' (text.dropWhile (· = '_')), d ∈ piece → d ∈ text :=
    fun piece listed inside => (List.dropWhile_sublist _).mem (mem_of_mem_splitOn listed inside)
  rw [camelChars] at member
  split at member
  · exact leading member
  · next head rest divided =>
      rw [divided] at within
      rcases List.mem_append.mp member with front | later
      · rcases List.mem_append.mp front with start | first
        · exact leading start
        · exact within head List.mem_cons_self first
      · obtain ⟨piece, listed, inside⟩ := List.mem_flatMap.mp later
        exact within piece (List.mem_cons_of_mem head listed)
          (uncased.mem_of_mem_upperFirst inside)

/-- A text with underscores put in behind some of its characters. -/
inductive Breaks : List Char → List Char → Prop where
  /-- A text without characters has no place for an underscore. -/
  | nil : Breaks [] []
  /-- Nothing is put in behind a character. -/
  | keep (c : Char) {text broken : List Char} (rest : Breaks text broken) :
      Breaks (c :: text) (c :: broken)
  /-- An underscore is put in behind a character. -/
  | divide (c : Char) {text broken : List Char} (rest : Breaks text broken) :
      Breaks (c :: text) (c :: '_' :: broken)

namespace Breaks

variable {broken : List Char}

theorem refl (text : List Char) : Breaks text text := by
  induction text with
  | nil => exact nil
  | cons c rest ih => exact keep c ih

theorem mem_of_mem (breaks : Breaks text broken) (other : d ≠ '_') (member : d ∈ broken) :
    d ∈ text := by
  induction breaks with
  | nil => exact member
  | keep c _ ih =>
      rcases List.mem_cons.mp member with rfl | inside
      · exact List.mem_cons_self
      · exact List.mem_cons_of_mem c (ih inside)
  | divide c _ ih =>
      rcases List.mem_cons.mp member with rfl | inside
      · exact List.mem_cons_self
      · exact List.mem_cons_of_mem c (ih ((List.mem_cons.mp inside).resolve_left other))

end Breaks

theorem breaks_breakBeforeCapitals (text : List Char) : Breaks text (breakBeforeCapitals text) := by
  induction text using breakBeforeCapitals.induct with
  | case1 c e rest broken ih =>
      rw [breakBeforeCapitals, if_pos broken]
      exact .divide c ih
  | case2 c e rest whole ih =>
      rw [breakBeforeCapitals, if_neg whole]
      exact .keep c ih
  | case3 text short =>
      rw [breakBeforeCapitals.eq_2 text short]
      exact .refl text

theorem breaks_breakAfterAcronyms (text : List Char) : Breaks text (breakAfterAcronyms text) := by
  induction text using breakAfterAcronyms.induct with
  | case1 c e f rest broken ih =>
      rw [breakAfterAcronyms, if_pos broken]
      exact .divide c ih
  | case2 c e f rest whole ih =>
      rw [breakAfterAcronyms, if_neg whole]
      exact .keep c ih
  | case3 text short =>
      rw [breakAfterAcronyms.eq_2 text short]
      exact .refl text

/-- The breaks of a text are underscores and nothing else. -/
theorem mem_of_mem_breaks (other : d ≠ '_')
    (member : d ∈ breakAfterAcronyms (breakBeforeCapitals text)) : d ∈ text :=
  (breaks_breakBeforeCapitals text).mem_of_mem other
    ((breaks_breakAfterAcronyms _).mem_of_mem other member)

theorem mem_of_mem_snakeChars (uncased : Uncased d) (other : d ≠ '_')
    (member : d ∈ snakeChars text) : d ∈ text :=
  mem_of_mem_breaks other (uncased.mem_of_mem_lowerAfter member)

/-- A convention puts no character into a name that is neither another case nor an underscore. -/
theorem mem_of_mem_applyChars (uncased : Uncased d) (other : d ≠ '_') {convention : Convention}
    (member : d ∈ convention.applyChars text) : d ∈ text := by
  cases convention with
  | preserve => exact member
  | camel => exact mem_of_mem_camelChars uncased member
  | snake => exact mem_of_mem_snakeChars uncased other member

/-- No convention puts a closing brace into a name. -/
theorem brace_notMem_applyChars (convention : Convention) (absent : '}' ∉ text) :
    '}' ∉ convention.applyChars text :=
  fun member => absent (mem_of_mem_applyChars uncased_brace (by decide) member)

/-- No convention puts a line feed into a name. -/
theorem lineFeed_notMem_applyChars (convention : Convention) (absent : '\n' ∉ text) :
    '\n' ∉ convention.applyChars text :=
  fun member => absent (mem_of_mem_applyChars uncased_lineFeed (by decide) member)

end ClientGen.Name

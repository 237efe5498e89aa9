import ClientGen.Text.Basic
import Mathlib.Data.List.Basic

/-!
# Divided texts

A text is divided at one character: into the pieces between all of its occurrences, or into what
stands in front of the first one and behind it. Characters of a kind stand together in runs. A given
beginning is taken off, and a pair of characters or a single one is replaced from the front to the
back.
-/

namespace ClientGen.Text

variable {separator : Char} {text before after : List Char}

/-! ## Characters -/

/-- A condition on the characters of a text is decided for each of them. As a condition on all
characters, of which there are finitely many, it could be decided too, but not in good time. -/
theorem forall_mem_of_all {p : Char → Prop} [DecidablePred p]
    (all : text.all (fun c => decide (p c)) = true) : ∀ c ∈ text, p c := by
  intro c member
  exact of_decide_eq_true (List.all_eq_true.mp all c member)

/-- What holds of each character of ASCII is seen by going through their codes. -/
theorem forall_ascii {holds : Char → Prop} (each : ∀ n < 0x80, holds (Char.ofNat n)) {c : Char}
    (small : c.toNat < 0x80) : holds c := by
  have held := each c.toNat small
  rwa [Char.ofNat_toNat] at held

theorem toNat_lt_of_isAlphanumeric {c : Char} (belongs : isAlphanumeric c = true) :
    c.toNat < 0x80 := by
  simp only [isAlphanumeric, isLetter, isLower, isUpper, isDigit, Bool.or_eq_true,
    Bool.and_eq_true, decide_eq_true_eq, Char.le_def, UInt32.le_iff_toNat_le] at belongs
  rcases belongs with (small | capital) | digit
  · exact Nat.lt_of_le_of_lt small.2 (by decide)
  · exact Nat.lt_of_le_of_lt capital.2 (by decide)
  · exact Nat.lt_of_le_of_lt digit.2 (by decide)

/-! ## Pieces -/

theorem splitOn_of_notMem (absent : separator ∉ text) :
    splitOn separator text = [text] := by
  induction text with
  | nil => rfl
  | cons c rest ih =>
      rw [List.mem_cons, not_or] at absent
      rw [splitOn, if_neg (Ne.symm absent.1), ih absent.2]

theorem splitOn_ne_nil (separator : Char) (text : List Char) : splitOn separator text ≠ [] := by
  cases text with
  | nil => nofun
  | cons c rest =>
      rw [splitOn]
      split
      · nofun
      · split <;> nofun

/-- A separator between two texts separates their pieces. -/
theorem splitOn_append (separator : Char) (before after : List Char) :
    splitOn separator (before ++ separator :: after) =
      splitOn separator before ++ splitOn separator after := by
  induction before with
  | nil =>
      rw [List.nil_append, splitOn.eq_2, if_pos rfl, splitOn, List.singleton_append]
  | cons c rest ih =>
      rw [List.cons_append, splitOn, splitOn, ih]
      by_cases here : c = separator
      · rw [if_pos here, if_pos here, List.cons_append]
      · rw [if_neg here, if_neg here]
        cases pieces : splitOn separator rest with
        | nil => exact absurd pieces (splitOn_ne_nil separator rest)
        | cons piece others => rfl

/-- The pieces of a text have no separators. -/
theorem separator_notMem_of_mem_splitOn {piece : List Char}
    (listed : piece ∈ splitOn separator text) : separator ∉ piece := by
  induction text generalizing piece with
  | nil =>
      rw [List.mem_singleton.mp listed]
      exact List.not_mem_nil
  | cons c rest ih =>
      rw [splitOn] at listed
      split at listed
      · rcases List.mem_cons.mp listed with rfl | later
        · exact List.not_mem_nil
        · exact ih later
      · next different =>
          split at listed
          · rw [List.mem_singleton.mp listed, List.mem_singleton]
            exact Ne.symm different
          · next first others divided =>
              rw [divided] at ih
              rcases List.mem_cons.mp listed with rfl | later
              · rw [List.mem_cons, not_or]
                exact ⟨Ne.symm different, ih List.mem_cons_self⟩
              · exact ih (List.mem_cons_of_mem _ later)

/-- The pieces of a text have its characters only. -/
theorem mem_of_mem_splitOn {d : Char} {piece : List Char}
    (listed : piece ∈ splitOn separator text) (member : d ∈ piece) : d ∈ text := by
  induction text generalizing piece with
  | nil =>
      rw [List.mem_singleton.mp listed] at member
      exact member
  | cons c rest ih =>
      rw [splitOn] at listed
      split at listed
      · rcases List.mem_cons.mp listed with rfl | later
        · cases member
        · exact List.mem_cons_of_mem c (ih later member)
      · split at listed
        · rw [List.mem_singleton.mp listed] at member
          rw [List.mem_singleton.mp member]
          exact List.mem_cons_self
        · next first others divided =>
            rw [divided] at ih
            rcases List.mem_cons.mp listed with rfl | later
            · rcases List.mem_cons.mp member with rfl | inside
              · exact List.mem_cons_self
              · exact List.mem_cons_of_mem c (ih List.mem_cons_self inside)
            · exact List.mem_cons_of_mem c (ih (List.mem_cons_of_mem first later) member)

theorem length_splitOn_eq_one_iff : (splitOn separator text).length = 1 ↔ separator ∉ text := by
  constructor
  · intro single member
    obtain ⟨before, after, rfl⟩ := List.append_of_mem member
    have first := List.length_pos_of_ne_nil (splitOn_ne_nil separator before)
    have second := List.length_pos_of_ne_nil (splitOn_ne_nil separator after)
    rw [splitOn_append, List.length_append] at single
    omega
  · intro absent
    rw [splitOn_of_notMem absent, List.length_singleton]

/-- Texts with separators between them are divided into the pieces of each. -/
theorem splitOn_intercalate {pieces : List (List Char)} (several : pieces ≠ []) :
    splitOn separator (List.intercalate [separator] pieces) =
      pieces.flatMap (splitOn separator) := by
  induction pieces with
  | nil => exact absurd rfl several
  | cons piece rest ih =>
      cases rest with
      | nil => rw [List.intercalate_singleton, List.flatMap_singleton]
      | cons next others =>
          rw [List.intercalate_cons_cons, List.append_assoc, List.singleton_append, splitOn_append,
            ih (List.cons_ne_nil next others)]
          rfl

/-- Pieces without separators are not divided. -/
theorem flatMap_splitOn_of_notMem {pieces : List (List Char)}
    (absent : ∀ piece ∈ pieces, separator ∉ piece) :
    pieces.flatMap (splitOn separator) = pieces := by
  induction pieces with
  | nil => rfl
  | cons piece rest ih =>
      obtain ⟨here, there⟩ := List.forall_mem_cons.mp absent
      rw [List.flatMap_cons, splitOn_of_notMem here, ih there, List.singleton_append]

/-- Texts make up at least as many pieces, and no more exactly if they have no separators. -/
theorem length_flatMap_splitOn (separator : Char) (pieces : List (List Char)) :
    pieces.length ≤ (pieces.flatMap (splitOn separator)).length ∧
      ((pieces.flatMap (splitOn separator)).length = pieces.length ↔
        ∀ piece ∈ pieces, separator ∉ piece) := by
  induction pieces with
  | nil => exact ⟨Nat.le_refl 0, iff_of_true rfl nofun⟩
  | cons piece rest ih =>
      have first := List.length_pos_of_ne_nil (splitOn_ne_nil separator piece)
      rw [List.flatMap_cons, List.length_append, List.length_cons, List.forall_mem_cons,
        ← length_splitOn_eq_one_iff, ← ih.2]
      omega

/-- A character that is no separator belongs to the last piece. -/
theorem splitOn_concat {c : Char} (other : c ≠ separator) (text : List Char) :
    ∃ pieces last, splitOn separator text = pieces ++ [last] ∧
      splitOn separator (text ++ [c]) = pieces ++ [last ++ [c]] := by
  induction text with
  | nil =>
      have absent : separator ∉ [c] := fun member => other (List.mem_singleton.mp member).symm
      exact ⟨[], [], rfl, splitOn_of_notMem absent⟩
  | cons d rest ih =>
      obtain ⟨pieces, last, divided, longer⟩ := ih
      rw [List.cons_append, splitOn, splitOn, divided, longer]
      by_cases same : d = separator
      · rw [if_pos same, if_pos same]
        exact ⟨[] :: pieces, last, rfl, rfl⟩
      · rw [if_neg same, if_neg same]
        cases pieces with
        | nil => exact ⟨[], d :: last, rfl, rfl⟩
        | cons piece more => exact ⟨(d :: piece) :: more, last, rfl, rfl⟩

/-- The pieces have all characters but the separators. -/
theorem flatten_splitOn (separator : Char) (text : List Char) :
    (splitOn separator text).flatten = text.filter (· ≠ separator) := by
  induction text with
  | nil => rfl
  | cons c rest ih =>
      rw [splitOn]
      split
      · next same => simp [same, ih]
      · next other =>
          cases divided : splitOn separator rest with
          | nil => exact absurd divided (splitOn_ne_nil separator rest)
          | cons piece more =>
              rw [divided, List.flatten_cons] at ih
              simpa [other] using ih

/-! ## Joined texts -/

/-- Joined texts have the characters of the separator and those of the texts. -/
theorem notMem_joinStrings {c : Char} {separator : String} (apart : c ∉ separator.toList)
    {pieces : List String} :
    c ∉ (joinStrings separator pieces).toList ↔ ∀ piece ∈ pieces, c ∉ piece.toList := by
  rw [joinStrings]
  induction pieces with
  | nil => exact iff_of_true List.not_mem_nil nofun
  | cons piece rest ih =>
      rw [List.forall_mem_cons]
      cases rest with
      | nil =>
          rw [String.intercalate_singleton]
          exact (and_iff_left nofun).symm
      | cons next others =>
          rw [String.intercalate_cons_cons, String.toList_append, String.toList_append,
            List.mem_append, List.mem_append, not_or, not_or, ih, and_iff_left apart]

/-! ## Runs -/

/-- A run has at least one character, and only characters that belong to runs. -/
theorem forall_of_mem_runs {p : Char → Bool} {word : List Char} (listed : word ∈ runs p text) :
    word ≠ [] ∧ ∀ c ∈ word, p c = true := by
  induction text generalizing word with
  | nil => cases listed
  | cons c rest ih =>
      rw [runs.eq_def] at listed
      dsimp only at listed
      split at listed
      · next belongs =>
          have single : [c] ≠ [] ∧ ∀ d ∈ [c], p d = true :=
            ⟨List.cons_ne_nil c [], List.forall_mem_singleton.mpr belongs⟩
          split at listed
          · rwa [List.mem_singleton.mp listed]
          · split at listed
            · split at listed
              · rwa [List.mem_singleton.mp listed]
              · next first others found =>
                  rw [found] at ih
                  rcases List.mem_cons.mp listed with rfl | later
                  · exact ⟨List.cons_ne_nil c first,
                      List.forall_mem_cons.mpr ⟨belongs, (ih List.mem_cons_self).2⟩⟩
                  · exact ih (List.mem_cons_of_mem first later)
            · rcases List.mem_cons.mp listed with rfl | later
              · exact single
              · exact ih later
      · exact ih listed

/-! ## Cutting -/

theorem cutAt?_eq_none : cutAt? separator text = none ↔ separator ∉ text := by
  induction text with
  | nil => exact iff_of_true rfl List.not_mem_nil
  | cons c rest ih =>
      rw [cutAt?, List.mem_cons, not_or, ← ih]
      split
      · next same => exact iff_of_false nofun fun apart => apart.1 same.symm
      · next other =>
          rw [Option.map_eq_none_iff]
          exact (and_iff_right (Ne.symm other)).symm

/-- A text is cut at the first occurrence. -/
theorem cutAt?_eq_some :
    cutAt? separator text = some (before, after) ↔
      text = before ++ separator :: after ∧ separator ∉ before := by
  induction text generalizing before with
  | nil => exact iff_of_false nofun fun cut => by simp at cut
  | cons c rest ih =>
      rw [cutAt?]
      split
      · next same =>
          subst same
          constructor
          · rintro ⟨⟩
            exact ⟨rfl, List.not_mem_nil⟩
          · rintro ⟨whole, first⟩
            cases before with
            | nil => rw [(List.cons.inj whole).2]
            | cons d others =>
                exact absurd (List.mem_cons.mpr (Or.inl (List.cons.inj whole).1)) first
      · next other =>
          rw [Option.map_eq_some_iff]
          constructor
          · rintro ⟨⟨front, back⟩, cut, made⟩
            obtain ⟨rfl, rfl⟩ := Prod.mk.inj made
            obtain ⟨rfl, first⟩ := ih.mp cut
            exact ⟨rfl, List.not_mem_cons_of_ne_of_not_mem (Ne.symm other) first⟩
          · rintro ⟨whole, first⟩
            cases before with
            | nil => exact absurd (List.cons.inj whole).1 other
            | cons d others =>
                obtain ⟨rfl, rest_eq⟩ := List.cons.inj whole
                exact ⟨(others, after), ih.mpr ⟨rest_eq, List.not_mem_of_not_mem_cons first⟩, rfl⟩

/-! ## Beginnings -/

theorem dropLeading?_append (lead text : List Char) :
    dropLeading? lead (lead ++ text) = some text := by
  induction lead with
  | nil => rfl
  | cons c rest ih => rw [List.cons_append, dropLeading?, if_pos rfl, ih]

theorem eq_append_of_dropLeading? {lead rest : List Char}
    (found : dropLeading? lead text = some rest) : text = lead ++ rest := by
  fun_induction dropLeading? lead text with
  | case1 text => exact Option.some.inj found
  | case3 lead c text ih => rw [List.cons_append, ← ih found]
  | _ => cases found

/-! ## Replacement -/

variable {first second by_ c : Char} {rest : List Char}

theorem replacePair_cons_of_ne (apart : c ≠ first) :
    replacePair first second by_ (c :: rest) = c :: replacePair first second by_ rest := by
  cases rest with
  | nil => rfl
  | cons d rest => rw [replacePair, if_neg fun both => apart both.1]

theorem replacePair_pair :
    replacePair first second by_ (first :: second :: rest) =
      by_ :: replacePair first second by_ rest := by
  rw [replacePair, if_pos ⟨rfl, rfl⟩]

theorem replacePair_cons_cons_of_ne (apart : c ≠ second) :
    replacePair first second by_ (first :: c :: rest) =
      first :: replacePair first second by_ (c :: rest) := by
  rw [replacePair, if_neg fun both => apart both.2]

theorem replaceChar_cons (c : Char) (by_ : List Char) (d : Char) (rest : List Char) :
    replaceChar c by_ (d :: rest) = (if d = c then by_ else [d]) ++ replaceChar c by_ rest := rfl

theorem replaceChar_append (c : Char) (by_ first second : List Char) :
    replaceChar c by_ (first ++ second) = replaceChar c by_ first ++ replaceChar c by_ second :=
  List.flatMap_append

/-- Nothing is replaced in a text without the character. -/
theorem replaceChar_of_notMem {c : Char} {by_ : List Char} (absent : c ∉ text) :
    replaceChar c by_ text = text := by
  induction text with
  | nil => rfl
  | cons d rest ih =>
      rw [List.mem_cons, not_or] at absent
      rw [replaceChar_cons, if_neg (Ne.symm absent.1), ih absent.2, List.singleton_append]

end ClientGen.Text

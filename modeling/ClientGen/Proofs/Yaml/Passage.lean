import ClientGen.Proofs.Json.Common

/-!
# Passages of a cursor

Which characters a cursor goes over, and what becomes of its counts on the way: the characters that
are left stay counted, and without a line break the line stays the same.
-/

namespace ClientGen.Yaml

open Json (isBlank)

namespace Cursor

variable {here between there : Cursor} {run more rest : List Char}

/-! ## Steps -/

/-- A way from one place of a text to another, over some characters. -/
structure Passes (here : Cursor) (run : List Char) (there : Cursor) : Prop where
  /-- The characters are in front of what is left. -/
  rest : here.rest = run ++ there.rest
  /-- The characters that are left stay counted. -/
  left : here.left = here.rest.length → there.left = there.rest.length
  /-- The characters before the place are counted. -/
  index : there.index = here.index + run.length
  /-- The line is the same unless it ends. -/
  line : (∀ c ∈ run, isBreak c = false) → there.line = here.line

theorem Passes.refl (here : Cursor) : here.Passes [] here := ⟨rfl, id, rfl, fun _ => rfl⟩

theorem Passes.trans (first : here.Passes run between) (second : between.Passes more there) :
    here.Passes (run ++ more) there where
  rest := by rw [first.rest, second.rest, List.append_assoc]
  left counted := second.left (first.left counted)
  index := by rw [second.index, first.index, List.length_append, Nat.add_assoc]
  line unbroken := by
    rw [List.forall_mem_append] at unbroken
    rw [second.line unbroken.2, first.line unbroken.1]

theorem Passes.rest_eq (passes : here.Passes run there) (shown : here.rest = run ++ rest) :
    there.rest = rest :=
  List.append_cancel_left (passes.rest.symm.trans shown)

theorem passes_next {c : Char} (shown : here.rest = c :: rest) : here.Passes [c] here.next := by
  rw [next, shown]
  dsimp only
  split
  · next ends =>
      refine ⟨shown, fun counted => ?_, rfl, fun unbroken => ?_⟩
      · simp [counted, shown]
      · rw [endsLine, unbroken c List.mem_cons_self] at ends
        cases ends
  · refine ⟨shown, fun counted => ?_, rfl, fun _ => rfl⟩
    simp [counted, shown]

theorem passes_skip (shown : here.rest = run ++ rest) : here.Passes run (here.skip run.length) := by
  induction run generalizing here with
  | nil => exact .refl here
  | cons c run ih =>
      have step := passes_next shown
      exact step.trans (ih (step.rest_eq shown))

theorem takeWhile_nil_of_head {p : Char → Bool} (ends : ∀ c ∈ rest.head?, p c = false) :
    rest.takeWhile p = [] := by
  cases rest with
  | nil => rfl
  | cons c rest => exact List.takeWhile_cons_of_neg (by simp [ends c rfl])

/-- The characters of a class up to one that is not of it. -/
theorem takeWhile_eq {p : Char → Bool} (shown : here.rest = run ++ rest)
    (all : ∀ c ∈ run, p c = true) (ends : ∀ c ∈ rest.head?, p c = false) :
    ∃ there, here.takeWhile p = (run, there) ∧ here.Passes run there := by
  have taken : here.rest.takeWhile p = run := by
    rw [shown, List.takeWhile_append_of_pos all, takeWhile_nil_of_head ends, List.append_nil]
  exact ⟨here.skip run.length, by rw [takeWhile, taken], passes_skip shown⟩

theorem takeWhile_none {p : Char → Bool} (ends : ∀ c ∈ here.rest.head?, p c = false) :
    here.takeWhile p = ([], here) := by
  rw [takeWhile, takeWhile_nil_of_head ends, List.length_nil, skip]

theorem peek_of_rest {c : Char} (shown : here.rest = c :: rest) : here.peek = c := by
  rw [peek, shown, List.headD_cons]

/-! ## Blanks -/

theorem isGap_eq_false_iff {c : Char} : isGap c = false ↔
    (c == '\t') = false ∧ (c == ' ') = false ∧ (c == '\x00') = false ∧ isBreak c = false := by
  simp only [isGap, isSpaceOrEnd, isLineEnd, Bool.or_eq_false_iff]

/-- A text that begins with a token, if there is anything left of it. -/
def Begins (text : List Char) : Prop :=
  ∀ c ∈ text.head?, isGap c = false ∧ c ≠ '#' ∧ c ≠ '\ufeff'

/-- A line break that is not of two characters. -/
theorem lineBreak_single {c : Char} (shown : here.rest = c :: rest) (broken : c = '\n' ∨ c = '\r')
    (single : ∀ more, here.rest ≠ '\r' :: '\n' :: more) : here.lineBreak = (['\n'], here.next) := by
  rw [lineBreak.eq_def]
  split
  · next more same => exact absurd same (single more)
  · next d more same =>
      obtain ⟨rfl, _⟩ := List.cons.inj (shown.symm.trans same)
      rcases broken with rfl | rfl <;> rfl
  · next ended => rw [shown] at ended; cases ended

/-- A line break in front of other blanks and a token. -/
theorem lineBreak_eq {c : Char} {gap : List Char} (shown : here.rest = c :: gap ++ rest)
    (broken : c = '\n' ∨ c = '\r') (begins : Begins rest) :
    ∃ there run later, here.lineBreak = (['\n'], there) ∧ c :: gap = run ++ later ∧
      here.Passes run there ∧ there.rest = later ++ rest ∧ later.length ≤ gap.length := by
  by_cases double : ∃ more, here.rest = '\r' :: '\n' :: more
  · obtain ⟨more, same⟩ := double
    have together : here.lineBreak = (['\n'], here.skip 2) := by
      rw [lineBreak.eq_def, same]
      rfl
    obtain ⟨rfl, follows⟩ := List.cons.inj (shown.symm.trans same)
    cases gap with
    | nil =>
        have first : rest = '\n' :: more := follows
        rw [first] at begins
        cases (begins '\n' rfl).1
    | cons d gap =>
        obtain ⟨rfl, _⟩ := List.cons.inj follows
        have passes : here.Passes ['\r', '\n'] (here.skip 2) := passes_skip shown
        exact ⟨_, _, gap, together, rfl, passes, passes.rest_eq shown, Nat.le_succ _⟩
  · have single : ∀ more, here.rest ≠ '\r' :: '\n' :: more := fun more same => double ⟨more, same⟩
    have passes := passes_next shown
    exact ⟨_, [c], gap, lineBreak_single shown broken single, rfl, passes, passes.rest_eq shown,
      Nat.le_refl _⟩

theorem lineBreak_none (unbroken : ∀ c ∈ here.rest.head?, isBreak c = false) :
    here.lineBreak = ([], here) := by
  rw [lineBreak.eq_def]
  split
  · next shown => cases unbroken '\r' (by rw [shown]; rfl)
  · next c more _ shown =>
      have plain := unbroken c (by rw [shown]; rfl)
      have apart : ¬ (c = '\u2028' ∨ c = '\u2029') := by
        rintro (rfl | rfl) <;> cases plain
      rw [if_neg apart, plain, if_neg Bool.false_ne_true]
  · rfl

/-- Blanks in front of a token are spaces up to the first line break, and no comment begins behind
them. -/
theorem exists_spaces {gap : List Char} (blank : ∀ c ∈ gap, isBlank c = true)
    (begins : Begins rest) :
    ∃ spaces others, gap = spaces ++ others ∧ (∀ c ∈ spaces, (c == ' ') = true) ∧
      (∀ c ∈ others.head?, c = '\n' ∨ c = '\r') ∧
      ∀ c ∈ (others ++ rest).head?, (c == ' ') = false ∧ (c == '#') = false := by
  have broken : ∀ c ∈ (gap.dropWhile (· == ' ')).head?, c = '\n' ∨ c = '\r' := by
    intro c first
    have other : (c == ' ') = false := by
      have stopped := List.head?_dropWhile_not (· == ' ') gap
      rw [Option.mem_def.mp first] at stopped
      simpa using stopped
    have shown := blank c (List.dropWhile_subset _ (List.mem_of_mem_head? first))
    rw [isBlank, other, Bool.false_or, Bool.or_eq_true, beq_iff_eq, beq_iff_eq] at shown
    exact shown
  refine ⟨gap.takeWhile (· == ' '), gap.dropWhile (· == ' '),
    List.takeWhile_append_dropWhile.symm, List.all_eq_true.mp List.all_takeWhile, broken, ?_⟩
  intro c first
  cases others : gap.dropWhile (· == ' ') with
  | nil =>
      rw [others] at first
      obtain ⟨dense, uncommented, _⟩ := begins c first
      exact ⟨(isGap_eq_false_iff.mp dense).2.1, by simpa using uncommented⟩
  | cons d more =>
      rw [others] at first broken
      obtain rfl := Option.some.inj first
      rcases broken d rfl with rfl | rfl <;> decide

end Cursor

end ClientGen.Yaml

import ClientGen.Proofs.Text
import ClientGen.TypeScript.PathLiteral

/-!
# Parts of paths

How a path is divided: up to the first opening brace stands static text, up to the closing brace
after it a name, and so on behind it; without such a pair of braces all that is left is static text.
The parts make up the path, and no other list of parts that is divided in this way does.
-/

namespace ClientGen

namespace TypeScript

open Text

/-! ## Divisions -/

/-- What a part looks like in a path. -/
def PathPart.source : PathPart → List Char
  | .static text => text
  | .placeholder name => '{' :: (name ++ ['}'])

/-- A text in which the first opening brace is not closed, if there is one. -/
def Unpaired (text : List Char) : Prop :=
  ∀ before rest, text = before ++ '{' :: rest → '{' ∉ before → '}' ∉ rest

/-- The parts of a path: each placeholder goes from the first opening brace that is left to the next
closing one. -/
inductive Divided : List PathPart → Prop
  | nil : Divided []
  | last {text : List Char} (present : text ≠ []) (unpaired : Unpaired text) :
      Divided [.static text]
  | next {before name : List Char} {rest : List PathPart} (opens : '{' ∉ before)
      (closes : '}' ∉ name) (divided : Divided rest) :
      Divided (.static before :: .placeholder name :: rest)

theorem source_next (before name : List Char) (rest : List PathPart) :
    (.static before :: .placeholder name :: rest : List PathPart).flatMap PathPart.source =
      before ++ '{' :: (name ++ '}' :: rest.flatMap PathPart.source) := by
  simp [PathPart.source]

/-! ## Scanning -/

theorem partsWithin_succ (fuel : Nat) {text : List Char} (present : text ≠ []) :
    partsWithin (fuel + 1) text =
      match cutAt? '{' text with
      | none => [.static text]
      | some (before, rest) =>
          match cutAt? '}' rest with
          | none => [.static text]
          | some (name, after) =>
              .static before :: .placeholder name :: partsWithin fuel after := by
  cases text with
  | nil => exact absurd rfl present
  | cons c rest => rfl

/-- One step of the scan, with what it has found. -/
theorem partsWithin_cases (fuel : Nat) {text : List Char} (present : text ≠ []) :
    (partsWithin (fuel + 1) text = [.static text] ∧ Unpaired text) ∨
      ∃ before name after, text = before ++ '{' :: (name ++ '}' :: after) ∧ '{' ∉ before ∧
        '}' ∉ name ∧
        partsWithin (fuel + 1) text =
          .static before :: .placeholder name :: partsWithin fuel after := by
  rw [partsWithin_succ fuel present]
  cases opened : cutAt? '{' text with
  | none =>
      refine Or.inl ⟨rfl, fun before rest whole _ => ?_⟩
      have absent := cutAt?_eq_none.mp opened
      rw [whole] at absent
      exact absurd (List.mem_append_right before List.mem_cons_self) absent
  | some cut =>
      obtain ⟨before, rest⟩ := cut
      obtain ⟨whole, first⟩ := cutAt?_eq_some.mp opened
      cases closed : cutAt? '}' rest with
      | none =>
          refine Or.inl ⟨by simp only [closed], fun other later parts opens => ?_⟩
          have same : cutAt? '{' text = some (other, later) :=
            cutAt?_eq_some.mpr ⟨parts, opens⟩
          rw [opened] at same
          obtain ⟨_, rfl⟩ := Prod.mk.inj (Option.some.inj same)
          exact cutAt?_eq_none.mp closed
      | some cut =>
          obtain ⟨name, after⟩ := cut
          obtain ⟨rest_eq, closes⟩ := cutAt?_eq_some.mp closed
          refine Or.inr ⟨before, name, after, ?_, first, closes, by simp only [closed]⟩
          rw [whole, rest_eq]

/-- The parts make up the text that is scanned. -/
theorem source_partsWithin (fuel : Nat) (text : List Char) :
    (partsWithin fuel text).flatMap PathPart.source = text := by
  induction fuel generalizing text with
  | zero => cases text <;> simp [partsWithin, PathPart.source]
  | succ fuel ih =>
      by_cases empty : text = []
      · rw [empty]
        rfl
      rcases partsWithin_cases fuel empty with ⟨whole, _⟩ | ⟨before, name, after, rfl, _, _, next⟩
      · rw [whole]
        simp [PathPart.source]
      · rw [next, source_next, ih after]

/-- With enough fuel the scan does not stop early. -/
theorem divided_partsWithin {fuel : Nat} {text : List Char} (enough : text.length ≤ fuel) :
    Divided (partsWithin fuel text) := by
  induction fuel generalizing text with
  | zero =>
      rw [List.length_eq_zero_iff.mp (Nat.le_zero.mp enough)]
      exact .nil
  | succ fuel ih =>
      by_cases empty : text = []
      · rw [empty]
        exact .nil
      rcases partsWithin_cases fuel empty with
        ⟨whole, unpaired⟩ | ⟨before, name, after, rfl, opens, closes, next⟩
      · rw [whole]
        exact .last empty unpaired
      · rw [next]
        refine .next opens closes (ih ?_)
        simp only [List.length_append, List.length_cons] at enough
        omega

/-- A division of a text is the one that the scan finds. -/
theorem partsWithin_source {parts : List PathPart} (divided : Divided parts) :
    ∀ fuel, (parts.flatMap PathPart.source).length ≤ fuel →
      partsWithin fuel (parts.flatMap PathPart.source) = parts := by
  induction divided with
  | nil => intro fuel _; cases fuel <;> rfl
  | @last text present unpaired =>
      intro fuel enough
      have source : [PathPart.static text].flatMap PathPart.source = text := by
        simp [PathPart.source]
      rw [source] at enough ⊢
      have positive : 0 < text.length := List.length_pos_iff.mpr present
      obtain ⟨fuel, rfl⟩ : ∃ less, fuel = less + 1 := ⟨fuel - 1, by omega⟩
      rcases partsWithin_cases fuel present with
        ⟨whole, _⟩ | ⟨before, name, after, paired, opens, _, _⟩
      · exact whole
      · refine absurd ?_ (unpaired before _ paired opens)
        exact List.mem_append_right name List.mem_cons_self
  | @next before name rest opens closes _ ih =>
      intro fuel enough
      rw [source_next] at enough ⊢
      simp only [List.length_append, List.length_cons] at enough
      obtain ⟨fuel, rfl⟩ : ∃ less, fuel = less + 1 := ⟨fuel - 1, by omega⟩
      have opened : cutAt? '{' (before ++ '{' :: (name ++ '}' :: rest.flatMap PathPart.source)) =
          some (before, _) := cutAt?_eq_some.mpr ⟨rfl, opens⟩
      have closed : cutAt? '}' (name ++ '}' :: rest.flatMap PathPart.source) =
          some (name, _) := cutAt?_eq_some.mpr ⟨rfl, closes⟩
      have later := ih fuel (by omega)
      rw [partsWithin_succ fuel (by simp)]
      simp only [opened, closed, later]

/-- The parts of a path make up the path. -/
theorem source_pathParts (path : List Char) :
    (pathParts path).flatMap PathPart.source = path := source_partsWithin path.length path

theorem divided_pathParts (path : List Char) : Divided (pathParts path) :=
  divided_partsWithin (Nat.le_refl path.length)

/-- The parts of a path are the only division of it. -/
theorem pathParts_source {parts : List PathPart} (divided : Divided parts) :
    pathParts (parts.flatMap PathPart.source) = parts :=
  partsWithin_source divided _ (Nat.le_refl _)

example : pathParts "/pets/\x7bpetId\x7d/\x7b".toList =
    [.static "/pets/".toList, .placeholder "petId".toList, .static "/\x7b".toList] := rfl

end TypeScript

end ClientGen

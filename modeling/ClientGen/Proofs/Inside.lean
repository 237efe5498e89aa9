import Mathlib.Data.List.Basic

/-!
# Parts of parts

Trees that consist of parts, whatever the parts are: a condition on all parts at all depths is one
on the tree itself and on those of its immediate parts.
-/

namespace ClientGen

variable {α : Type}

/-- The parts that a whole consists of, and those that they consist of in turn. -/
inductive Inside (parts : α → List α) (part : α) : α → Prop
  | self : Inside parts part part
  | inner {whole next : α} (member : next ∈ parts whole) (inside : Inside parts part next) :
      Inside parts part whole

/-- A whole of which every part satisfies a condition. -/
def Throughout (parts : α → List α) (holds : α → Prop) (whole : α) : Prop :=
  ∀ part, Inside parts part whole → holds part

theorem throughout_iff {parts : α → List α} {holds : α → Prop} {whole : α} :
    Throughout parts holds whole ↔
      holds whole ∧ ∀ part ∈ parts whole, Throughout parts holds part := by
  constructor
  · intro all
    exact ⟨all whole .self, fun next member part inside => all part (.inner member inside)⟩
  · rintro ⟨itself, others⟩ part inside
    cases inside with
    | self => exact itself
    | inner member inside => exact others _ member part inside

/-- Whether a whole has no more than some levels of parts, all of which satisfy a condition. -/
def allWithin (parts : α → List α) (holds : α → Bool) : Nat → α → Bool
  | 0, _ => false
  | levels + 1, whole => holds whole && (parts whole).all (allWithin parts holds levels)

theorem throughout_of_allWithin {parts : α → List α} {holds : α → Bool} {levels : Nat} {whole : α}
    (all : allWithin parts holds levels whole = true) :
    Throughout parts (fun part => holds part = true) whole := by
  induction levels generalizing whole with
  | zero => cases all
  | succ levels ih =>
      rw [allWithin, Bool.and_eq_true, List.all_eq_true] at all
      exact throughout_iff.mpr ⟨all.1, fun part member => ih (all.2 part member)⟩

end ClientGen

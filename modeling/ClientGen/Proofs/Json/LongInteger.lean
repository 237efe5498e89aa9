import ClientGen.Proofs.Json.Lexeme

/-!
# Texts with integers that are not converted

The reader only moves forward in its text. Where no rule of the format is broken it gives a text up
only for an integer with more digits than are converted, and the text has such a run of digits.
-/

namespace ClientGen.Json

variable {α : Type} {text rest : List Char}

/-- A text with a run of more digits than are converted. -/
def HasLongInteger (text : List Char) : Prop :=
  ∃ digits, digits <:+: text ∧ digits.all Text.isDigit = true ∧ digitLimit < digits.length

/-- A reason to give a text up: a broken rule or a long integer in it. -/
def IsReason (text : List Char) : Fault → Prop
  | .malformed _ _ => True
  | .longInteger => HasLongInteger text

/-- A reader that leaves an end of its text and gives the text up only for what is in it. -/
abbrev Reads (text : List Char) (result : Except Fault (α × List Char)) : Prop :=
  Yields (fun found => found.2 <:+ text) (IsReason text) result

theorem reads_ok (found : α) (behind : rest <:+ text) : Reads text (.ok (found, rest)) :=
  yields_ok behind

theorem reads_malformed (complaint : Complaint) (remaining : Nat) :
    Reads text (.error (.malformed complaint remaining) : Except Fault (α × List Char)) :=
  yields_error trivial

theorem skip_suffix (here : rest <:+ text) : skip rest <:+ text :=
  (List.dropWhile_suffix _).trans here

theorem tail_suffix {c : Char} (here : c :: rest <:+ text) : rest <:+ text :=
  (List.suffix_cons c rest).trans here

/-! ## Strings -/

theorem reads_stringCodes {whole : List Char} (here : rest <:+ text) :
    Reads text (stringCodes whole rest) := by
  -- A text is read on in three cases: a code unit by its digits, a one-letter escape, a plain
  -- character. All others end it.
  fun_induction stringCodes whole rest with
  | case2 rest => exact reads_ok _ (tail_suffix here)
  | case5 a b c d rest code known more ih =>
      have escape : ['\\', 'u', a, b, c, d] ++ rest <:+ text := here
      exact Yields.map (ih ((List.suffix_append _ _).trans escape)) fun _ behind => behind
  | case8 c rest _ _ d known ih =>
      exact Yields.map (ih (tail_suffix (tail_suffix here))) fun _ behind => behind
  | case11 c rest _ _ _ _ _ _ ih => exact Yields.map (ih (tail_suffix here)) fun _ behind => behind
  | _ => exact reads_malformed _ _

theorem reads_string (here : rest <:+ text) : Reads text (string rest) :=
  Yields.map (reads_stringCodes here) fun _ behind => behind

/-! ## Numbers and constants -/

variable {problem : Fault}

/-- A number is given up only for the digits of its integer part. -/
theorem isReason_of_unsigned {negative : Bool} (here : rest <:+ text)
    (failed : unsigned negative rest = some (.error problem)) : IsReason text problem := by
  obtain ⟨⟨whole, behind⟩, digits, same⟩ := Option.map_eq_some_iff.mp failed
  obtain ⟨rfl, isWhole⟩ := isWhole_of_integerDigits digits
  dsimp only at same
  split at same
  · split at same <;> cases same
  · split at same
    · cases same
    · split at same
      · next long =>
          cases same
          refine ⟨whole, ?_, List.all_eq_true.mpr isWhole.all_digits, long⟩
          exact (List.prefix_append whole behind).isInfix.trans here.isInfix
      · cases same

theorem isReason_of_getD {number : Option (Except Fault (Value × List Char))} {remaining : Nat}
    (reasons : number = some (.error problem) → IsReason text problem)
    (failed : number.getD (.error (.malformed .expectedValue remaining)) = .error problem) :
    IsReason text problem := by
  cases number with
  | none =>
      cases failed
      exact trivial
  | some result => exact reasons (congrArg some failed)

theorem reads_plain (here : rest <:+ text) : Reads text (plain rest) where
  result := by
    rintro ⟨value, behind⟩ done
    obtain ⟨letters, rfl, _⟩ := word_of_plain done
    exact (List.suffix_append letters behind).trans here
  reason problem failed := by
    rw [plain.eq_def] at failed
    split at failed
    · cases failed
    · dsimp only at failed
      split at failed
      · exact isReason_of_getD (isReason_of_unsigned (tail_suffix here)) failed
      · exact isReason_of_getD (isReason_of_unsigned here) failed

/-! ## Values -/

-- The induction is on the fuel. The text stays whole along it, since an integer anywhere in it is
-- found far from where the reading of the enclosing value began.
mutual

theorem reads_value : ∀ fuel {rest : List Char}, rest <:+ text → Reads text (value fuel rest)
  | 0, rest, here => by
      rw [value]
      exact reads_malformed _ _
  | fuel + 1, rest, here => by
      rw [value.eq_def]
      split
      · next none => cases none
      · exact Yields.map (reads_string (tail_suffix here)) fun _ behind => behind
      · next same =>
          obtain rfl := Nat.succ.inj same
          have inner := skip_suffix (tail_suffix here)
          split
          · next closed =>
              rw [closed] at inner
              exact reads_ok _ (tail_suffix inner)
          · exact Yields.map (reads_items fuel inner) fun _ behind => behind
      · next same =>
          obtain rfl := Nat.succ.inj same
          have inner := skip_suffix (tail_suffix here)
          split
          · next closed =>
              rw [closed] at inner
              exact reads_ok _ (tail_suffix inner)
          · exact Yields.map (reads_members fuel inner) fun _ behind => behind
      · exact reads_plain here

theorem reads_items : ∀ fuel {rest : List Char}, rest <:+ text → Reads text (items fuel rest)
  | 0, rest, here => by
      rw [items]
      exact reads_malformed _ _
  | fuel + 1, rest, here => by
      rw [items]
      refine Yields.bind (reads_value fuel here) ?_
      rintro ⟨first, rest⟩ behind
      have after := skip_suffix behind
      dsimp only
      split
      · next closed =>
          rw [closed] at after
          exact reads_ok _ (tail_suffix after)
      · next others =>
          rw [others] at after
          exact Yields.map (reads_items fuel (skip_suffix (tail_suffix after)))
            fun _ behind => behind
      · exact reads_malformed _ _

theorem reads_members : ∀ fuel {rest : List Char}, rest <:+ text → Reads text (members fuel rest)
  | 0, rest, here => by
      rw [members]
      exact reads_malformed _ _
  | fuel + 1, rest, here => by
      rw [members.eq_def]
      split
      · next none => cases none
      · next same =>
          obtain rfl := Nat.succ.inj same
          refine Yields.bind (reads_string (tail_suffix here)) ?_
          rintro ⟨name, rest⟩ behind
          have after := skip_suffix behind
          dsimp only
          split
          · next colon =>
              rw [colon] at after
              refine Yields.bind (reads_value fuel (skip_suffix (tail_suffix after))) ?_
              rintro ⟨first, rest⟩ behind
              have after := skip_suffix behind
              dsimp only
              split
              · next closed =>
                  rw [closed] at after
                  exact reads_ok _ (tail_suffix after)
              · next others =>
                  rw [others] at after
                  exact Yields.map (reads_members fuel (skip_suffix (tail_suffix after)))
                    fun _ behind => behind
              · exact reads_malformed _ _
          · exact reads_malformed _ _
      · exact reads_malformed _ _

end

/-- A text without a broken rule is given up only for a long integer in it. -/
theorem hasLongInteger_of_read (failed : read text = .error .longInteger) :
    HasLongInteger text := by
  have yields : Yields (fun _ => True) (IsReason text) (read text) := by
    rw [read.eq_def]
    split
    · exact yields_error trivial
    · refine Yields.bind (reads_value _ (skip_suffix (List.suffix_refl text))) ?_
      rintro ⟨found, rest⟩ behind
      dsimp only
      split
      · exact yields_ok trivial
      · exact yields_error trivial
  exact yields.reason _ failed

end ClientGen.Json

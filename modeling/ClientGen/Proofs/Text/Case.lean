import ClientGen.Proofs.Text
import ClientGen.Text.Case

/-!
# Letters and their case

What the tables of case say about all characters at once. Some characters are the other case of no
character, so that a change of case adds none of them. What lower case gives is its own lower case:
a text in lower case stays as it is, and has no capitals.
-/

namespace ClientGen.Text

/-! ## Case tables -/

/-- Whether tables of case give no character of a code. -/
def avoids (code : Nat) (expansions : List (Nat × List Nat)) (caseRuns : List CaseRun) : Bool :=
  expansions.all (fun entry => !entry.2.contains code) &&
    caseRuns.all fun run => run.last + run.offset < code || code < run.first + run.offset

/-- A number that is the code of no character gives the null character. -/
theorem toNat_ofNat_eq (n : Nat) : (Char.ofNat n).toNat = n ∨ (Char.ofNat n).toNat = 0 := by
  rw [Char.ofNat]
  by_cases valid : n.isValidChar
  · rw [dif_pos valid]
    exact Or.inl rfl
  · rw [dif_neg valid]
    exact Or.inr rfl

theorem toNat_ofNat_ne {n code : Nat} (positive : code ≠ 0) (other : n ≠ code) :
    (Char.ofNat n).toNat ≠ code := by
  rcases toNat_ofNat_eq n with same | null
  · rwa [same]
  · rw [null]
    exact positive.symm

theorem toNat_ne_of_mapCase {code : Nat} {expansions : List (Nat × List Nat)}
    {caseRuns : List CaseRun} (avoided : avoids code expansions caseRuns = true)
    (positive : code ≠ 0) {c : Char} {text : List Char}
    (found : mapCase expansions caseRuns c = some text) : ∀ d ∈ text, d.toNat ≠ code := by
  obtain ⟨noExpansion, noRun⟩ := Bool.and_eq_true_iff.mp avoided
  intro d member
  rw [mapCase] at found
  split at found
  · next entry listed =>
      obtain rfl := Option.some.inj found
      obtain ⟨other, inside, rfl⟩ := List.mem_map.mp member
      refine toNat_ofNat_ne positive ?_
      rintro rfl
      have absent := List.all_eq_true.mp noExpansion _ (List.mem_of_find?_eq_some listed)
      rw [List.contains_iff_mem.mpr inside] at absent
      cases absent
  · next missing =>
      obtain ⟨run, listed, rfl⟩ := Option.map_eq_some_iff.mp found
      obtain rfl := List.mem_singleton.mp member
      refine toNat_ofNat_ne positive ?_
      have apart := List.all_eq_true.mp noRun run (List.mem_of_find?_eq_some listed)
      have within := List.find?_some listed
      simp only [CaseRun.contains, Bool.and_eq_true, decide_eq_true_eq] at within
      simp only [Bool.or_eq_true, decide_eq_true_eq] at apart
      omega

/-- A character that is not the other case of any character. -/
structure Uncased (d : Char) : Prop where
  positive : d.toNat ≠ 0
  upper : avoids d.toNat upperExpansions upperRuns = true
  lower : avoids d.toNat lowerExpansions lowerRuns = true
  asciiUpper : ∀ n < 0x80, (Char.ofNat n).toUpper = d → Char.ofNat n = d
  asciiLower : ∀ n < 0x80, (Char.ofNat n).toLower = d → Char.ofNat n = d
  sigma : d ≠ 'σ'
  finalSigma : d ≠ 'ς'

theorem uncased_brace : Uncased '}' where
  positive := by decide
  upper := by decide +kernel
  lower := by decide +kernel
  asciiUpper := by decide +kernel
  asciiLower := by decide +kernel
  sigma := by decide
  finalSigma := by decide

theorem uncased_lineFeed : Uncased '\n' where
  positive := by decide
  upper := by decide +kernel
  lower := by decide +kernel
  asciiUpper := by decide +kernel
  asciiLower := by decide +kernel
  sigma := by decide
  finalSigma := by decide

theorem uncased_underscore : Uncased '_' where
  positive := by decide
  upper := by decide +kernel
  lower := by decide +kernel
  asciiUpper := by decide +kernel
  asciiLower := by decide +kernel
  sigma := by decide
  finalSigma := by decide

/-! ## Characters that a change of case does not add -/

namespace Uncased

variable {d : Char}

/-- A change of one character that takes ASCII from one table and everything else from others. -/
theorem eq_of_mem_changed (positive : d.toNat ≠ 0) {expansions : List (Nat × List Nat)}
    {caseRuns : List CaseRun} {ascii : Char → Char}
    (avoided : avoids d.toNat expansions caseRuns = true)
    (within : ∀ n < 0x80, ascii (Char.ofNat n) = d → Char.ofNat n = d) {c : Char}
    (member : d ∈ if c.toNat < 0x80 then [ascii c]
      else (mapCase expansions caseRuns c).getD [c]) : c = d := by
  split at member
  · next small =>
      have changed := within c.toNat small
      rw [Char.ofNat_toNat] at changed
      exact changed (List.mem_singleton.mp member).symm
  · cases found : mapCase expansions caseRuns c with
    | none =>
        rw [found] at member
        exact (List.mem_singleton.mp member).symm
    | some text =>
        rw [found] at member
        exact absurd rfl (toNat_ne_of_mapCase avoided positive found d member)

theorem eq_of_mem_upperChar (uncased : Uncased d) {c : Char} (member : d ∈ upperChar c) : c = d :=
  eq_of_mem_changed uncased.positive uncased.upper uncased.asciiUpper member

theorem eq_of_mem_lowerChar (uncased : Uncased d) {c : Char} (member : d ∈ lowerChar c) : c = d :=
  eq_of_mem_changed uncased.positive uncased.lower uncased.asciiLower member

theorem mem_of_mem_upperFirst (uncased : Uncased d) {text : List Char}
    (member : d ∈ upperFirst text) : d ∈ text := by
  cases text with
  | nil => exact member
  | cons c rest =>
      rcases List.mem_append.mp member with first | later
      · rw [uncased.eq_of_mem_upperChar first]
        exact List.mem_cons_self
      · exact List.mem_cons_of_mem c later

theorem mem_of_mem_lowerAfter (uncased : Uncased d) {text : List Char} :
    ∀ {before : List Char}, d ∈ lowerAfter before text → d ∈ text := by
  induction text with
  | nil => exact fun member => member
  | cons c rest ih =>
      intro before member
      rw [lowerAfter] at member
      rcases List.mem_append.mp member with first | later
      · split at first
        · split at first
          · exact absurd (List.mem_singleton.mp first) uncased.finalSigma
          · exact absurd (List.mem_singleton.mp first) uncased.sigma
        · rw [uncased.eq_of_mem_lowerChar first]
          exact List.mem_cons_self
      · exact List.mem_cons_of_mem c (ih later)

end Uncased

/-! ## What tables of case give -/

/-- Whether a run gives no code of another one: what it gives lies in front of the other run, behind
it, or between its codes. The comparisons are those of natural numbers, which are fast for all pairs
of a table. -/
def CaseRun.misses (run other : CaseRun) : Bool :=
  let low := (run.first + run.offset).toNat
  let high := (run.last + run.offset).toNat
  Nat.blt 0 low &&
    (Nat.blt high other.first || Nat.blt other.last low ||
      (Nat.beq other.step 2 && (Nat.beq run.step 2 || Nat.beq run.first run.last) &&
        Nat.beq ((low + other.first) % 2) 1))

theorem CaseRun.contains_of_misses {run other : CaseRun} (missed : run.misses other = true)
    {code : Nat} (inside : run.contains code = true) :
    other.contains (code + run.offset).toNat = false := by
  simp only [misses, Bool.and_eq_true, Bool.or_eq_true, Nat.blt_eq, Nat.beq_eq] at missed
  simp only [contains, Bool.and_eq_true, decide_eq_true_eq, beq_iff_eq] at inside
  rw [← Bool.not_eq_true]
  simp only [contains, Bool.and_eq_true, decide_eq_true_eq, beq_iff_eq]
  rintro ⟨⟨above, below⟩, met⟩
  obtain ⟨⟨low, high⟩, spaced⟩ := inside
  obtain ⟨positive, (front | behind) | ⟨⟨doubled, spacing | single⟩, odd⟩⟩ := missed
  · omega
  · omega
  · rw [doubled] at met
    rw [spacing] at spaced
    omega
  · rw [doubled] at met
    omega

/-- The characters that tables of case give others for, as runs. -/
def mapped (expansions : List (Nat × List Nat)) (caseRuns : List CaseRun) : List CaseRun :=
  expansions.map (fun entry => ⟨entry.1, entry.1, 1, 0⟩) ++ caseRuns

/-- Whether tables of case give only characters that they give no others for. -/
def settles (expansions : List (Nat × List Nat)) (caseRuns : List CaseRun) : Bool :=
  let free (code : Nat) : Bool := (mapped expansions caseRuns).all fun run => !run.contains code
  free 0 && expansions.all (fun entry => entry.2.all free) &&
    caseRuns.all fun run => (mapped expansions caseRuns).all run.misses

variable {expansions : List (Nat × List Nat)} {caseRuns : List CaseRun} {c d : Char}

theorem contains_single (code other : Nat) :
    (⟨code, code, 1, 0⟩ : CaseRun).contains other = (code == other) := by
  rw [Bool.eq_iff_iff]
  simp only [CaseRun.contains, Nat.mod_one, beq_self_eq_true, Bool.and_true, Bool.and_eq_true,
    decide_eq_true_eq, beq_iff_eq]
  constructor
  · exact fun both => Nat.le_antisymm both.1 both.2
  · rintro rfl
    exact ⟨Nat.le_refl code, Nat.le_refl code⟩

theorem mapCase_eq_none_iff :
    mapCase expansions caseRuns c = none ↔
      ∀ run ∈ mapped expansions caseRuns, run.contains c.toNat = false := by
  rw [mapped, List.forall_mem_append, List.forall_mem_map, mapCase]
  simp only [contains_single]
  split
  · next entry found =>
      have same := List.find?_some found
      refine iff_of_false nofun fun both => ?_
      rw [both.1 _ (List.mem_of_find?_eq_some found)] at same
      cases same
  · next missing =>
      rw [Option.map_eq_none_iff, List.find?_eq_none]
      rw [List.find?_eq_none] at missing
      simp only [Bool.not_eq_true] at missing ⊢
      exact (and_iff_right missing).symm

/-- What such tables give for a character, they give nothing else for. -/
theorem mapCase_eq_none_of_mem (settled : settles expansions caseRuns = true) {text : List Char}
    (found : mapCase expansions caseRuns c = some text) (member : d ∈ text) :
    mapCase expansions caseRuns d = none := by
  simp only [settles, Bool.and_eq_true, List.all_eq_true, Bool.not_eq_true'] at settled
  obtain ⟨⟨null, expanded⟩, ran⟩ := settled
  have unmapped (n : Nat) (free : ∀ run ∈ mapped expansions caseRuns, run.contains n = false) :
      mapCase expansions caseRuns (Char.ofNat n) = none := by
    rw [mapCase_eq_none_iff]
    rcases toNat_ofNat_eq n with same | zero
    · rwa [same]
    · rwa [zero]
  rw [mapCase] at found
  split at found
  · next entry listed =>
      obtain rfl := Option.some.inj found
      obtain ⟨code, inside, rfl⟩ := List.mem_map.mp member
      exact unmapped code (expanded _ (List.mem_of_find?_eq_some listed) code inside)
  · next missing =>
      obtain ⟨run, listed, rfl⟩ := Option.map_eq_some_iff.mp found
      obtain rfl := List.mem_singleton.mp member
      have inside := List.find?_some listed
      exact unmapped _ fun other known => CaseRun.contains_of_misses
        (ran run (List.mem_of_find?_eq_some listed) other known) inside

theorem settles_lower : settles lowerExpansions lowerRuns = true := by decide +kernel

/-! ## Lower case -/

/-- A character that is its own lower case in every context. -/
structure IsSmall (c : Char) : Prop where
  own : lowerChar c = [c]
  notSigma : c ≠ 'Σ'

theorem isSmall_of_ascii (ascii : c.toNat < 0x80) (capitalless : isUpper c = false) :
    IsSmall c where
  own := by
    revert capitalless
    apply forall_ascii _ ascii
    decide +kernel
  notSigma := by
    rintro rfl
    exact absurd ascii (by decide)

/-- Characters that the tables of lower case give nothing for. -/
theorem isSmall_of_mapCase_eq_none (free : mapCase lowerExpansions lowerRuns c = none) :
    IsSmall c := by
  by_cases ascii : c.toNat < 0x80
  · refine isSmall_of_ascii ascii (Bool.eq_false_iff.mpr fun capital => ?_)
    have listed : ⟨0x41, 0x5a, 1, 32⟩ ∈ mapped lowerExpansions lowerRuns :=
      List.mem_append_right _ List.mem_cons_self
    have outside := mapCase_eq_none_iff.mp free _ listed
    revert capital outside
    apply forall_ascii _ ascii
    decide +kernel
  · refine ⟨?_, ?_⟩
    · rw [lowerChar, if_neg ascii, free]
      rfl
    · rintro rfl
      exact absurd free (by decide +kernel)

theorem isSmall_of_mem_lowerChar (member : d ∈ lowerChar c) : IsSmall d := by
  rw [lowerChar] at member
  split at member
  · next ascii =>
      have lowered : c.toLower.toNat < 0x80 ∧ isUpper c.toLower = false := by
        apply forall_ascii _ ascii
        decide +kernel
      rw [List.mem_singleton.mp member]
      exact isSmall_of_ascii lowered.1 lowered.2
  · cases found : mapCase lowerExpansions lowerRuns c with
    | none =>
        rw [found] at member
        rw [List.mem_singleton.mp member]
        exact isSmall_of_mapCase_eq_none found
    | some text =>
        rw [found] at member
        exact isSmall_of_mapCase_eq_none (mapCase_eq_none_of_mem settles_lower found member)

/-- Lower case gives characters that are their own lower case, in whatever context. -/
theorem isSmall_of_mem_lowerAfter {text : List Char} :
    ∀ {before : List Char}, d ∈ lowerAfter before text → IsSmall d := by
  induction text with
  | nil => nofun
  | cons c rest ih =>
      intro before member
      rw [lowerAfter] at member
      rcases List.mem_append.mp member with first | later
      · split at first
        · obtain rfl := List.mem_singleton.mp first
          split <;> exact ⟨by decide +kernel, by decide⟩
        · exact isSmall_of_mem_lowerChar first
      · exact ih later

theorem lowerAfter_of_isSmall {text : List Char} (small : ∀ c ∈ text, IsSmall c)
    (before : List Char) : lowerAfter before text = text := by
  induction text generalizing before with
  | nil => rfl
  | cons c rest ih =>
      obtain ⟨here, there⟩ := List.forall_mem_cons.mp small
      rw [lowerAfter, if_neg here.notSigma, here.own, ih there, List.singleton_append]

/-- A text in lower case is its own lower case. -/
theorem lower_lower (text : List Char) : lower (lower text) = lower text :=
  lowerAfter_of_isSmall (fun _ => isSmall_of_mem_lowerAfter) []

theorem IsSmall.isUpper_eq_false (small : IsSmall c) : isUpper c = false := by
  rw [← Bool.not_eq_true]
  intro capital
  have own := small.own
  have ascii := toNat_lt_of_isAlphanumeric (c := c) (by
    rw [isAlphanumeric, isLetter, capital, Bool.or_true, Bool.true_or])
  revert capital own
  apply forall_ascii _ ascii
  decide +kernel

/-- On ASCII, lower case is a change of each letter by itself. -/
theorem lowerAfter_of_ascii {text : List Char} (ascii : ∀ c ∈ text, c.toNat < 0x80)
    (before : List Char) : lowerAfter before text = text.map Char.toLower := by
  induction text generalizing before with
  | nil => rfl
  | cons c rest ih =>
      obtain ⟨here, there⟩ := List.forall_mem_cons.mp ascii
      have other : c ≠ 'Σ' := by
        rintro rfl
        exact absurd here (by decide)
      rw [lowerAfter, if_neg other, lowerChar, if_pos here, ih there, List.singleton_append,
        List.map_cons]

theorem map_toLower_upperFirst {text : List Char} (ascii : ∀ c ∈ text, c.toNat < 0x80) :
    (upperFirst text).map Char.toLower = text.map Char.toLower := by
  cases text with
  | nil => rfl
  | cons c rest =>
      have small := ascii c List.mem_cons_self
      have lowered : c.toUpper.toLower = c.toLower := by
        apply forall_ascii _ small
        decide +kernel
      rw [upperFirst, upperChar, if_pos small, List.singleton_append, List.map_cons, lowered,
        List.map_cons]

end ClientGen.Text

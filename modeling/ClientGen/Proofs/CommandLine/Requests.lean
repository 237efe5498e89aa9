import ClientGen.CommandLine.Request
import ClientGen.Proofs.Result

/-!
# Command lines with a switch

A command line that asks for a generation names the command behind options of the program. Put right
behind the name of the command, the switch for a dry run changes nothing else in what is asked for.
-/

namespace ClientGen.CommandLine

variable {arguments rest : List String} {uses : List OptionUse} {name : String}
  {choices : OutputChoices} {generation : Generation}

/-- A command line that asks for a generation, and one that asks for a dry run of it. -/
structure DryRunOf (plain dry : List String) (choices : OutputChoices) (generation : Generation) :
    Prop where
  wet : generation.dryRun = false
  plain : Request.ofArguments plain = .generate choices generation
  dry : Request.ofArguments dry = .generate choices { generation with dryRun := true }

/-! ## Options in front of a command -/

/-- What stands in front of the first operand is read the same whatever follows it. -/
theorem exists_front_of_read {forms : List OptionForm}
    (found : Arguments.read forms false arguments = .ok ⟨uses, name :: rest⟩) :
    ∃ front, arguments = front ++ name :: rest ∧ ∀ others,
      Arguments.read forms false (front ++ name :: others) = .ok ⟨uses, name :: others⟩ := by
  induction arguments using Arguments.read.induct forms false generalizing uses with
  | case1 => cases found
  | case2 argument others ends =>
      rw [Arguments.read, ends] at found
      obtain ⟨rfl, rfl⟩ := Arguments.mk.inj (Except.ok.inj found)
      refine ⟨[argument], rfl, fun others => ?_⟩
      rw [List.singleton_append, Arguments.read, ends]
  | case3 _ _ _ mixed => cases mixed
  | case4 argument others operand _ =>
      rw [Arguments.read, operand] at found
      obtain ⟨rfl, same⟩ := Arguments.mk.inj (Except.ok.inj found)
      obtain ⟨rfl, rfl⟩ := List.cons.inj same
      refine ⟨[], rfl, fun others => ?_⟩
      rw [List.nil_append, Arguments.read, operand]
      rfl
  | case5 argument others set complete ih =>
      rw [Arguments.read, complete] at found
      obtain ⟨⟨later, operands⟩, read, made⟩ := map_eq_ok.mp found
      obtain ⟨rfl, rfl⟩ := Arguments.mk.inj made
      obtain ⟨front, rfl, same⟩ := ih read
      refine ⟨argument :: front, rfl, fun others => ?_⟩
      rw [List.cons_append, Arguments.read, complete, same]
      rfl
  | case6 argument set form spelling pending =>
      rw [Arguments.read, pending] at found
      cases found
  | case7 argument set form spelling pending value others ih =>
      rw [Arguments.read, pending] at found
      obtain ⟨⟨later, operands⟩, read, made⟩ := map_eq_ok.mp found
      obtain ⟨rfl, rfl⟩ := Arguments.mk.inj made
      obtain ⟨front, rfl, same⟩ := ih read
      refine ⟨argument :: value :: front, rfl, fun others => ?_⟩
      rw [List.cons_append, List.cons_append, Arguments.read, pending]
      dsimp only
      rw [same]
      rfl
  | case8 argument others complaint refused =>
      rw [Arguments.read, refused] at found
      cases found

namespace Request

/-- A request that is no generation. -/
def IsOther (request : Request) : Prop := ∀ choices generation, request ≠ .generate choices generation

theorem isOther_rejected (complaint : Complaint) : (rejected complaint).IsOther :=
  fun _ _ same => nomatch same

theorem isOther_of_eager? {request : Request} (found : eager? uses = some request) :
    request.IsOther := by
  induction uses with
  | nil => cases found
  | cons use rest ih =>
      rw [eager?] at found
      split at found
      · cases found
        exact fun _ _ same => nomatch same
      · split at found
        · cases found
          exact fun _ _ same => nomatch same
        · exact ih found

theorem isOther_getD_eager? {request : Request} (other : request.IsOther) (uses : List OptionUse) :
    ((eager? uses).getD request).IsOther := by
  cases found : eager? uses with
  | none => exact other
  | some first => exact isOther_of_eager? found

/-- A name that is no command is never a generation. -/
theorem isOther_ofUnknown (forms : List OptionForm) (name : String) (rest : List String) :
    (ofUnknown forms name rest).IsOther := by
  rw [ofUnknown]
  split
  · split
    · exact isOther_rejected _
    · exact isOther_getD_eager? (isOther_rejected _) _
  · exact isOther_rejected _

/-- An inspection is never a generation. -/
theorem isOther_ofInspection (choices : OutputChoices) (subject : Subject)
    (arguments : List String) : (ofInspection choices subject arguments).IsOther := by
  rw [ofInspection, ofCommand]
  split
  · exact isOther_rejected _
  · refine isOther_getD_eager? ?_ _
    rw [withOperand.eq_def]
    split
    · exact isOther_rejected _
    · exact fun _ _ same => nomatch same
    · exact isOther_rejected _

/-- A group of commands asks for a generation only through one of its commands. -/
theorem exists_command_of_ofGroup {forms : List OptionForm}
    {command? : Arguments → String → Option (List String → Request)}
    (asked : ofGroup forms command? arguments = .generate choices generation) :
    ∃ uses name rest command, Arguments.read forms false arguments = .ok ⟨uses, name :: rest⟩ ∧
      eager? uses = none ∧ command? ⟨uses, name :: rest⟩ name = some command ∧
      command rest = .generate choices generation := by
  rw [ofGroup] at asked
  split at asked
  · cases asked
  · split at asked
    · cases asked
    · next read found =>
        obtain ⟨uses, operands⟩ := read
        dsimp only at asked
        split at asked
        · next request eager => exact absurd asked (isOther_of_eager? eager _ _)
        · cases asked
        · next name rest eager =>
            split at asked
            · next command named => exact ⟨uses, name, rest, command, found, eager, named, asked⟩
            · exact absurd asked (isOther_ofUnknown _ _ _ _ _)

theorem isOther_inspect (choices : OutputChoices) (arguments : List String) :
    (ofGroup inspectForms (fun _ => inspection? choices) arguments).IsOther := by
  intro _ _ asked
  obtain ⟨_, name, rest, command, _, _, named, asked⟩ := exists_command_of_ofGroup asked
  rw [inspection?.eq_def] at named
  split at named
  · cases named
    exact absurd asked (isOther_ofInspection _ _ _ _ _)
  · cases named
    exact absurd asked (isOther_ofInspection _ _ _ _ _)
  · cases named

/-! ## The switch -/

/-- Read in front of the arguments of a generation, the switch is one more option. -/
theorem read_dryRun {read : Arguments} (found : Arguments.read generateForms true rest = .ok read) :
    Arguments.read generateForms true ("--dry-run" :: rest) =
      .ok { read with uses := ⟨"--dry-run", ""⟩ :: read.uses } := by
  have complete : readArgument generateForms "--dry-run" = .complete [⟨"--dry-run", ""⟩] := rfl
  rw [Arguments.read, complete, found]
  rfl

/-- The switch has no part in the values of other options. -/
theorem value?_dryRun (read : Arguments) {long : String} (other : "--dry-run" ≠ long) :
    ({ read with uses := ⟨"--dry-run", ""⟩ :: read.uses } : Arguments).value? long =
      read.value? long := by
  rw [Arguments.value?, Arguments.value?, List.filter_cons_of_neg]
  exact fun same => other (eq_of_beq same)

theorem ofGeneration_dryRun {chosen : OutputChoices}
    (asked : ofGeneration chosen rest = .generate choices generation) :
    ofGeneration chosen ("--dry-run" :: rest) =
      .generate choices { generation with dryRun := true } := by
  rw [ofGeneration, ofCommand] at asked ⊢
  split at asked
  · cases asked
  · next read found =>
      rw [read_dryRun found]
      have eager : eager? (⟨"--dry-run", ""⟩ :: read.uses) = eager? read.uses := rfl
      dsimp only
      rw [eager]
      cases first : eager? read.uses with
      | some request =>
          rw [first] at asked
          exact absurd asked (isOther_of_eager? first _ _)
      | none =>
          rw [first, Option.getD_none, withOperand.eq_def] at asked
          rw [Option.getD_none, withOperand.eq_def]
          have set : ({ read with uses := ⟨"--dry-run", ""⟩ :: read.uses } : Arguments).has
              "--dry-run" = true := rfl
          simp (disch := decide) only [value?_dryRun, set]
          split at asked
          · cases asked
          · split at asked
            · cases asked
            · obtain ⟨rfl, rfl⟩ := generate.inj asked
              rfl
          · cases asked

/-- A command line that asks for a generation asks for a dry run of it once the switch stands behind
the name of the command. -/
theorem exists_dryRunOf {plain : List String} (wet : generation.dryRun = false)
    (asked : ofArguments plain = .generate choices generation) :
    ∃ front rest, plain = front ++ "generate" :: rest ∧
      DryRunOf plain (front ++ "generate" :: "--dry-run" :: rest) choices generation := by
  obtain ⟨uses, name, rest, command, found, eager, named, carried⟩ := exists_command_of_ofGroup asked
  obtain ⟨front, rfl, same⟩ := exists_front_of_read found
  rw [command?.eq_def] at named
  split at named
  · obtain rfl := Option.some.inj named
    refine ⟨front, rest, rfl, wet, asked, ?_⟩
    have switched := ofGeneration_dryRun carried
    have filled : (front ++ "generate" :: "--dry-run" :: rest).isEmpty = false := by
      cases front <;> rfl
    rw [ofArguments, ofGroup, filled, if_neg Bool.false_ne_true, same]
    dsimp only
    rw [eager]
    exact switched
  · cases named
    exact absurd carried (isOther_inspect _ _ _ _)
  · cases named

end Request

end ClientGen.CommandLine

import ClientGen.Proofs.Json.Quoting
import ClientGen.Proofs.Name.Spelling
import ClientGen.Proofs.TypeScript.PathParts

/-!
# Reading path literals back

A template literal is read from left to right: a backslash lets a mark stand for itself, a dollar
sign with an opening brace starts a substitution that goes up to the next closing brace, and a bare
grave accent ends the literal. The literal of a path reads back to the path when each substitution
is put back as the placeholder that it comes from.
-/

namespace ClientGen.TypeScript

open Text

/-! ## Template literals -/

/-- What a template literal says: static text, and each substitution with the static text behind
it. -/
structure TemplateText where
  /-- The static text at the start. -/
  start : List Char
  /-- The code of each substitution, and the static text behind it. -/
  rest : List (List Char × List Char)
  deriving DecidableEq, Repr

namespace TemplateText

/-- A template text with static text in front. -/
def prepend (chunk : List Char) (text : TemplateText) : TemplateText :=
  { text with start := chunk ++ text.start }

/-- A template text with a substitution in front. -/
def substitute (code : List Char) (text : TemplateText) : TemplateText :=
  ⟨[], (code, text.start) :: text.rest⟩

/-- The codes of the substitutions. -/
def codes (text : TemplateText) : List (List Char) := text.rest.map Prod.fst

/-- The static text with a name in braces in the place of each substitution. -/
def putBack (names : List (List Char)) (text : TemplateText) : List Char :=
  text.start ++
    (names.zip text.rest).flatMap fun (name, _, chunk) => '{' :: (name ++ '}' :: chunk)

theorem prepend_append (first second : List Char) (text : TemplateText) :
    text.prepend (first ++ second) = (text.prepend second).prepend first := by
  simp [prepend]

@[simp]
theorem prepend_nil (text : TemplateText) : text.prepend [] = text := rfl

theorem putBack_prepend (chunk : List Char) (names : List (List Char)) (text : TemplateText) :
    (text.prepend chunk).putBack names = chunk ++ text.putBack names := by
  simp [putBack, prepend]

theorem putBack_substitute (code name : List Char) (names : List (List Char))
    (text : TemplateText) :
    (text.substitute code).putBack (name :: names) =
      '{' :: (name ++ '}' :: text.putBack names) := by
  simp [putBack, substitute]

end TemplateText

/-- A character that is written behind a backslash to stand for itself. -/
def isEscapable (c : Char) : Bool := c = '\\' || c = graveAccent || c = '$'

/-- Read a template literal after its opening grave accent. Inside of a substitution `code` holds
its characters so far, the last one first. -/
def readTemplate : (code : Option (List Char)) → List Char → Option TemplateText
  | _, [] => none
  | some code, c :: rest =>
      if c = '}' then (readTemplate none rest).map (.substitute code.reverse)
      else readTemplate (some (c :: code)) rest
  | none, '\\' :: c :: rest =>
      if isEscapable c then (readTemplate none rest).map (.prepend [c]) else none
  | none, '$' :: '{' :: rest => readTemplate (some []) rest
  | none, c :: rest =>
      if c = graveAccent then if rest.isEmpty then some ⟨[], []⟩ else none
      else if c = '\\' then none
      else (readTemplate none rest).map (.prepend [c])

/-- What a template literal says, if the text is one from end to end. -/
def readLiteral : List Char → Option TemplateText
  | [] => none
  | c :: rest => if c = graveAccent then readTemplate none rest else none

/-! ## Parts of literals -/

variable {rest : List Char}

/-- A character that needs no backslash stands for itself, whatever follows it. -/
theorem readTemplate_plain {c : Char} (plain : isEscapable c = false) :
    readTemplate none (c :: rest) = (readTemplate none rest).map (.prepend [c]) := by
  simp only [isEscapable, Bool.or_eq_false_iff, decide_eq_false_iff_not] at plain
  obtain ⟨⟨unescaped, unmarked⟩, unpriced⟩ := plain
  rw [readTemplate]
  · rw [if_neg unmarked, if_neg unescaped]
  · rintro d tail rfl
    exact absurd rfl unescaped
  · rintro tail rfl
    exact absurd rfl unpriced

/-- Escaped static text reads as itself. -/
theorem readTemplate_escapeStatic (text : List Char) :
    readTemplate none (escapeStatic text ++ rest) =
      (readTemplate none rest).map (.prepend text) := by
  induction text with
  | nil => cases found : readTemplate none rest <;> simp [escapeStatic, found]
  | cons c text ih =>
      have before : readTemplate none (escapeStatic (c :: text) ++ rest) =
          (readTemplate none (escapeStatic text ++ rest)).map (.prepend [c]) := by
        simp only [escapeStatic, List.flatMap_cons]
        split
        · next marked =>
            have escapable : isEscapable c = true := by simpa [isEscapable, or_assoc] using marked
            simp [readTemplate, escapable]
        · next unmarked =>
            have plain : isEscapable c = false := by simpa [isEscapable, and_assoc] using unmarked
            exact readTemplate_plain plain
      rw [before, ih, Option.map_map]
      refine congrFun (congrArg _ (funext fun found => ?_)) _
      exact (TemplateText.prepend_append [c] text found).symm

/-- A substitution goes up to the next closing brace. -/
theorem readTemplate_code {code : List Char} (closes : '}' ∉ code) :
    ∀ before, readTemplate (some before) (code ++ '}' :: rest) =
      (readTemplate none rest).map (.substitute (before.reverse ++ code)) := by
  induction code with
  | nil => intro before; simp [readTemplate]
  | cons c code ih =>
      intro before
      rw [List.mem_cons, not_or] at closes
      rw [List.cons_append, readTemplate, if_neg (Ne.symm closes.1), ih closes.2]
      simp

/-! ## Substitutions -/

variable {target : String} {convention : Name.Convention}

theorem brace_notMem_propertyAccess {name : List Char} (outside : '}' ∉ target.toList)
    (absent : '}' ∉ name) :
    '}' ∉ (propertyAccess target (String.ofList name) convention).toList := by
  have key : '}' ∉ (convention.apply (String.ofList name)).toList := by
    simpa [Name.Convention.apply] using Name.brace_notMem_applyChars convention absent
  have quoted : '}' ∉ (Json.quote (convention.apply (String.ofList name))).toList := by
    intro member
    rcases Json.mem_of_mem_quote member with inside | spells
    · exact key inside
    · exact absurd spells (by decide)
  rw [propertyAccess, readKey]
  split
  · simp [outside, key]
  · simp [outside, quoted]

/-- What the parts of a path say as a template literal. -/
def templateOf (target : String) (convention : Name.Convention) : List PathPart → TemplateText
  | [] => ⟨[], []⟩
  | .static text :: rest => (templateOf target convention rest).prepend text
  | .placeholder name :: rest =>
      (templateOf target convention rest).substitute
        (propertyAccess target (String.ofList name) convention).toList

/-- The names of the placeholders of a path, in order. -/
def placeholderNames : List PathPart → List (List Char)
  | [] => []
  | .static _ :: rest => placeholderNames rest
  | .placeholder name :: rest => name :: placeholderNames rest

theorem readTemplate_parts (outside : '}' ∉ target.toList) {parts : List PathPart}
    (closes : ∀ name ∈ placeholderNames parts, '}' ∉ name) :
    readTemplate none (parts.flatMap (renderPart target convention) ++ [graveAccent]) =
      some (templateOf target convention parts) := by
  induction parts with
  | nil => rfl
  | cons part rest ih =>
      rw [List.flatMap_cons, List.append_assoc]
      cases part with
      | static text =>
          rw [renderPart, readTemplate_escapeStatic, ih closes]
          rfl
      | placeholder name =>
          obtain ⟨here, there⟩ := List.forall_mem_cons.mp closes
          have opened : ∀ code tail : List Char,
              '$' :: '{' :: (code ++ ['}']) ++ tail = '$' :: '{' :: (code ++ '}' :: tail) := by
            simp
          rw [renderPart, opened, readTemplate,
            readTemplate_code (brace_notMem_propertyAccess outside here), ih there]
          rfl

theorem codes_templateOf (parts : List PathPart) :
    (templateOf target convention parts).codes =
      (placeholderNames parts).map fun name =>
        (propertyAccess target (String.ofList name) convention).toList := by
  induction parts with
  | nil => rfl
  | cons part rest ih =>
      cases part with
      | static text => exact ih
      | placeholder name => exact congrArg _ ih

/-- With its placeholders put back a template literal says the path. -/
theorem putBack_templateOf (parts : List PathPart) :
    (templateOf target convention parts).putBack (placeholderNames parts) =
      parts.flatMap PathPart.source := by
  induction parts with
  | nil => rfl
  | cons part rest ih =>
      cases part with
      | static text => exact (TemplateText.putBack_prepend text _ _).trans (congrArg _ ih)
      | placeholder name =>
          refine (TemplateText.putBack_substitute _ name _ _).trans ?_
          rw [ih, List.flatMap_cons, PathPart.source, List.cons_append, List.append_assoc]
          rfl

/-! ## Braces -/

/-- Static text and names that alternate, where each name stands between the first opening brace
that is left and the next closing one. -/
inductive Paired : List Char → List (List Char × List Char) → Prop
  | last {chunk : List Char} (unpaired : Unpaired chunk) : Paired chunk []
  | next {chunk name after : List Char} {rest : List (List Char × List Char)}
      (opens : '{' ∉ chunk) (closes : '}' ∉ name) (later : Paired after rest) :
      Paired chunk ((name, after) :: rest)

theorem unpaired_nil : Unpaired [] := by
  intro before rest whole
  simp at whole

theorem closes_of_divided {parts : List PathPart} (divided : Divided parts) :
    ∀ name ∈ placeholderNames parts, '}' ∉ name := by
  induction divided with
  | nil => exact List.forall_mem_nil _
  | last => exact List.forall_mem_nil _
  | next _ closes _ ih => exact List.forall_mem_cons.mpr ⟨closes, ih⟩

theorem paired_templateOf {parts : List PathPart} (divided : Divided parts) :
    Paired (templateOf target convention parts).start
      ((placeholderNames parts).zip ((templateOf target convention parts).rest.map Prod.snd)) := by
  induction divided with
  | nil => exact .last unpaired_nil
  | @last text _ unpaired =>
      refine .last ?_
      simpa [templateOf, TemplateText.prepend] using unpaired
  | @next before name rest opens closes _ ih =>
      refine .next ?_ closes ih
      simpa [templateOf, TemplateText.prepend, TemplateText.substitute] using opens

/-! ## Path literals -/

/-- A literal that reads back to a path. `text` is what it says and `names` are the names of the
placeholders. -/
structure ReadsBack (path target : String) (convention : Name.Convention) (literal : String)
    (text : TemplateText) (names : List (List Char)) : Prop where
  /-- The literal is one template literal from end to end. -/
  read : readLiteral literal.toList = some text
  /-- With a placeholder for each substitution it says the path. -/
  restored : text.putBack names = path.toList
  /-- Each substitution reads the property that its placeholder names. -/
  substituted : text.codes = names.map fun name =>
    (propertyAccess target (String.ofList name) convention).toList
  /-- The placeholders are the braces of the path with a partner; all other braces are static. -/
  paired : Paired text.start (names.zip (text.rest.map Prod.snd))

/-- The literal of a path reads back to the path. -/
theorem readsBack_pathLiteral (path : String) {target : String} (outside : '}' ∉ target.toList)
    (convention : Name.Convention) :
    ∃ text names, ReadsBack path target convention (pathLiteral path target convention) text
      names := by
  have divided := divided_pathParts path.toList
  refine ⟨templateOf target convention (pathParts path.toList),
    placeholderNames (pathParts path.toList), ?_, ?_, codes_templateOf _,
    paired_templateOf divided⟩
  · rw [pathLiteral, String.toList_ofList, readLiteral, if_pos rfl]
    exact readTemplate_parts outside (closes_of_divided divided)
  · rw [putBack_templateOf, source_pathParts]

example : readLiteral (pathLiteral "/$\x7ba\x7d\\" "p" .preserve).toList =
    some ⟨"/$".toList, [("p.a".toList, "\\".toList)]⟩ := by decide +kernel

/-- Marks in front of a placeholder neither make nor hide a substitution. -/
theorem pricePath_readsBack :
    '}' ∉ "pathParameter".toList ∧ ∃ text names,
      ReadsBack "/\x7d$\\\x7bsome_id\x7d\x60$\x7bbed-side\x7b\x7d/\x7brest" "pathParameter" .camel
        (pathLiteral "/\x7d$\\\x7bsome_id\x7d\x60$\x7bbed-side\x7b\x7d/\x7brest" "pathParameter"
          .camel) text names :=
  have outside : '}' ∉ "pathParameter".toList := by decide
  ⟨outside, readsBack_pathLiteral _ outside .camel⟩

end ClientGen.TypeScript

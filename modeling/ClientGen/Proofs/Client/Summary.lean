import ClientGen.Proofs.Client.Linking
import ClientGen.Proofs.TypeScript.Comment

/-!
# Summaries in comments

The summary of an operation stands in a comment of its file and nowhere else. A summary in which the
comment does not end makes no difference to the code of the file. Nothing keeps the comment from
ending in a summary, however, and what is behind the end becomes code.
-/

namespace ClientGen.Client

open TypeScript

variable {settings : Settings} {template : Template.Template} {known : List String}
  {convention : Name.Convention} {directory : String} {operation : Api.Operation}
  {outline : Outline}

/-! ## Files under a summary -/

/-- The text of the file of an operation under a summary. -/
def textUnder (settings : Settings) (template : Template.Template) (known : List String)
    (operation : Api.Operation) (summary : String) : Except Problem String :=
  operationText settings template known { operation with summary := some summary }

/-- What an operation file has behind its comment. -/
def behindComment (convention : Name.Convention) (operation : Api.Operation) : String :=
  Fragment.joined (headerParts operation ++ requestParts convention operation)

/-- What an operation file has in front of its comment. -/
def beforeComment (outline : Outline) : String :=
  String.join (outline.imports.map Import.line) ++
    (String.join (outline.exports.map fun entry => outline.gap ++ entry.line) ++ "\n")

/-- The outline of an operation differs with its summary only in the function. -/
theorem operationOutline_under (summary : Option String) :
    operationOutline convention directory { operation with summary } =
      (operationOutline convention directory operation).map fun outline =>
        { outline with function := functionParts convention { operation with summary } } := by
  have path : Api.Operation.pathNode { operation with summary } = operation.pathNode := rfl
  have query : Api.Operation.queryNode { operation with summary } = operation.queryNode := rfl
  rw [operationOutline, operationOutline, path, query]
  generalize fragments convention "any" 0 operation.pathNode = first
  generalize fragments convention "any" 0 operation.queryNode = second
  generalize bodyParts convention operation.body = third
  generalize fragments convention "void" 0 operation.response = fourth
  rcases first with _ | path
  · rfl
  rcases second with _ | query
  · rfl
  rcases third with _ | body
  · rfl
  rcases fourth with _ | response
  · rfl
  rfl

theorem text_under {summary : String} (present : summary ≠ "") :
    Outline.text { outline with
        function := functionParts convention { operation with summary := some summary } } =
      beforeComment outline ++ (documented summary ++ behindComment convention operation) := by
  have shown : summaryParts (some summary) = [.plain (documented summary)] := by
    have filled : summary.isEmpty = false := by
      rw [← Bool.not_eq_true, String.isEmpty_iff]
      exact present
    rw [summaryParts, filled]
    rfl
  rw [Outline.text, functionParts, shown, beforeComment, behindComment]
  simp only [Fragment.joined_cons, Fragment.joined_append, Fragment.joined_nil, Fragment.text,
    String.append_assoc, String.append_empty]
  rfl

/-! ## In front of the comment -/

theorem enclosed_importLine {name source : String} (named : Enclosed name.toList)
    (quoted : StringBody source.toList) : Enclosed (Import.line ⟨name, source⟩).toList := by
  have chars : (Import.line ⟨name, source⟩).toList =
      "import ".toList ++ ('\x7b' :: ((' ' :: (name.toList ++ [' '])) ++ ['\x7d'])) ++
        " from ".toList ++ ('"' :: (source.toList ++ ['"'])) ++ ";\n".toList := by
    simp only [Import.line, String.toList_append, List.append_assoc]
    simp
  have braced : Enclosed (' ' :: (name.toList ++ [' '])) :=
    .cons (by decide) (.append named (.of_all (by decide)))
  rw [chars]
  exact .append (.append (.append (.append (.of_all (by decide)) (.bracketed (by rfl) braced))
    (.of_all (by decide))) (.quoted quoted)) (.of_all (by decide))

/-- The imports of an operation file are enclosed if its directory can stand in a string. -/
theorem enclosed_operationImports (quiet : StringBody directory.toList) :
    ∀ entry ∈ requestImport :: operationImportsOf directory operation,
      Enclosed entry.line.toList := by
  have steps : StringBody "../".toList ∧ StringBody "/".toList :=
    ⟨StringBody.of_quoteless (by decide) (by decide), StringBody.of_quoteless (by decide)
      (by decide)⟩
  refine List.forall_mem_cons.mpr ⟨?_, ?_⟩
  · exact enclosed_importLine (.of_all (by decide))
      (StringBody.of_quoteless (by decide) (by decide))
  · intro entry member
    obtain ⟨name, _, rfl⟩ := List.mem_map.mp member
    refine enclosed_importLine (enclosed_identifier name) ?_
    simp only [String.toList_append]
    exact ((steps.1.append quiet).append steps.2).append (stringBody_identifier name)

theorem enclosed_exportLine {name : String} {parts : List Fragment}
    (named : Enclosed name.toList) (typed : Enclosed (Fragment.joined parts).toList) :
    Enclosed (Export.line ⟨name, parts⟩).toList := by
  have first : Enclosed "export type ".toList := .of_all (by decide)
  have equals : Enclosed " = ".toList := .of_all (by decide)
  have last : Enclosed ";\n".toList := .of_all (by decide)
  exact (((first.text_append named).text_append equals).text_append typed).text_append last

/-- The fragments of a node make up an enclosed text. -/
theorem enclosed_fragments {empty : String} (shapeless : Enclosed empty.toList) {level : Int}
    {node : TypeNode} {parts : List Fragment}
    (written : fragments convention empty level node = .ok parts) :
    Enclosed (Fragment.joined parts).toList := by
  refine enclosed_expression convention shapeless level node ?_
  rw [← joined_fragments, written]
  rfl

/-- The export of a body is enclosed, if there is one. -/
theorem enclosed_bodyExport {name : String} {body : Option TypeNode}
    {parts : Option (List Fragment)} (named : Enclosed name.toList)
    (written : bodyParts convention body = .ok parts) :
    ∀ entry ∈ (parts.map (Export.mk name)).toList, Enclosed entry.line.toList := by
  intro entry member
  obtain ⟨found, rfl, rfl⟩ := Option.map_eq_some_iff.mp (Option.mem_toList.mp member)
  cases body with
  | none => cases written
  | some node =>
      obtain ⟨inner, inside, same⟩ := bind_eq_ok.mp written
      cases same
      exact enclosed_exportLine named (enclosed_fragments (.of_all (by decide)) inside)

/-- The exports of an operation file are enclosed. -/
theorem enclosed_operationExports
    (outlined : operationOutline convention directory operation = .ok outline) :
    ∀ entry ∈ outline.exports, Enclosed entry.line.toList := by
  rw [operationOutline] at outlined
  obtain ⟨path, pathWritten, outlined⟩ := bind_eq_ok.mp outlined
  obtain ⟨query, queryWritten, outlined⟩ := bind_eq_ok.mp outlined
  obtain ⟨body, bodyWritten, outlined⟩ := bind_eq_ok.mp outlined
  obtain ⟨response, responseWritten, made⟩ := bind_eq_ok.mp outlined
  cases made
  have named : ∀ kind : String, Enclosed kind.toList →
      Enclosed (typeStem operation ++ kind).toList :=
    fun kind plain => (enclosed_identifier _).text_append plain
  have any : Enclosed "any".toList := .of_all (by decide)
  have pathLine := enclosed_exportLine (named "PathParameter" (.of_all (by decide)))
    (enclosed_fragments any pathWritten)
  have queryLine := enclosed_exportLine (named "QueryParameter" (.of_all (by decide)))
    (enclosed_fragments any queryWritten)
  have bodyLine := enclosed_bodyExport (named "BodyParameter" (.of_all (by decide))) bodyWritten
  have responseLine := enclosed_exportLine (named "Response" (.of_all (by decide)))
    (enclosed_fragments (.of_all (by decide)) responseWritten)
  refine List.forall_mem_append.mpr ⟨List.forall_mem_append.mpr ⟨?_, bodyLine⟩,
    List.forall_mem_singleton.mpr responseLine⟩
  exact List.forall_mem_cons.mpr ⟨pathLine, List.forall_mem_singleton.mpr queryLine⟩

/-- In front of its comment, an operation file is enclosed. -/
theorem enclosed_beforeComment (quiet : StringBody directory.toList)
    (outlined : operationOutline convention directory operation = .ok outline) :
    Enclosed (beforeComment outline).toList := by
  have imports : ∀ line ∈ outline.imports.map Import.line, Enclosed line.toList := by
    rw [imports_operationOutline outlined, List.forall_mem_map]
    exact enclosed_operationImports quiet
  have newline : Enclosed "\n".toList := .of_all (by decide)
  have exports : ∀ line ∈ outline.exports.map fun entry => outline.gap ++ entry.line,
      Enclosed line.toList := by
    rw [List.forall_mem_map]
    intro entry member
    refine Enclosed.text_append ?_ (enclosed_operationExports outlined entry member)
    rw [Outline.gap]
    split
    · exact .nil
    · exact newline
  exact (Enclosed.join imports).text_append ((Enclosed.join exports).text_append newline)

/-! ## Behind the comment -/

/-- A rendering that puts a summary into a comment between two texts. -/
structure Framed (render : String → Except Problem String) (before after : String) : Prop where
  /-- What is rendered for a summary. -/
  rendered : ∀ summary, summary ≠ "" →
    render summary = .ok (before ++ (documented summary ++ after))
  /-- What is left without comments: all of the summary that is behind the end of the comment. -/
  code : ∀ summary, withoutComments (before ++ (documented summary ++ after)) =
    before ++ withoutComments (overflow summary ++ after)

/-- A rendering whose summaries are no code as long as their comment does not end in them. -/
structure Documented (render : String → Except Problem String) : Prop where
  /-- Summaries in which the comment does not end make no difference. -/
  alike : ∀ first second, first ≠ "" → second ≠ "" → ¬ ['*', '/'] <:+: first.toList →
    ¬ ['*', '/'] <:+: second.toList →
    (render first).map withoutComments = (render second).map withoutComments
  /-- Other summaries become code where the comment ends in them. -/
  framed : (∃ problem, ∀ summary, render summary = .error problem) ∨
    ∃ before after, Framed render before after

theorem Framed.alike {render : String → Except Problem String} {before after : String}
    (framed : Framed render before after) {first second : String} (present : first ≠ "")
    (present' : second ≠ "") (unclosed : ¬ ['*', '/'] <:+: first.toList)
    (unclosed' : ¬ ['*', '/'] <:+: second.toList) :
    (render first).map withoutComments = (render second).map withoutComments := by
  rw [framed.rendered first present, framed.rendered second present', Except.map, Except.map,
    framed.code, framed.code, overflow_eq_newline_iff.mpr unclosed,
    overflow_eq_newline_iff.mpr unclosed']

/-- A summary that ends its comment and starts another one. -/
def injectingSummary : String := "Get */ injected(); /* it"

/-- A summary that ends its comment adds what is behind to the code of every file. -/
theorem Framed.code_injectingSummary {render : String → Except Problem String}
    {before after : String} (framed : Framed render before after) :
    withoutComments (before ++ (documented injectingSummary ++ after)) =
      before ++ (" injected(); \n" ++ withoutComments after) := by
  have spilt : overflow injectingSummary = " injected(); /* it */\n" := by decide +kernel
  have passed : ∀ more : List Char, Reader.kept .start (" injected(); /* it */\n".toList ++ more) =
      " injected(); \n".toList ++ Reader.kept .start more := fun _ => rfl
  rw [framed.code, spilt, withoutComments, String.toList_append, passed, String.ofList_append,
    String.ofList_toList, withoutComments]

/-- The comment of an operation file stands between two texts that do not depend on the summary. -/
theorem framed_textUnder (quiet : StringBody settings.definitionDir.toList) (known : List String)
    (operation : Api.Operation) :
    (∃ problem, ∀ summary,
        textUnder settings operationTemplate known operation summary = .error problem) ∨
      ∃ before after, Framed (textUnder settings operationTemplate known operation) before
        after := by
  have texts : ∀ summary, textUnder settings operationTemplate known operation summary =
      checkedReferences operation.name known operation.nodes >>= fun _ =>
        (((operationOutline settings.naming settings.definitionDir operation).map fun outline =>
          { outline with
            function := functionParts settings.naming { operation with summary := some summary } }).map
          Outline.text).mapError .fault := by
    intro summary
    rw [textUnder, operationText_eq, operationOutline_under]
    rfl
  cases checked : checkedReferences operation.name known operation.nodes with
  | error problem =>
      refine Or.inl ⟨problem, fun summary => ?_⟩
      rw [texts, checked, error_bind]
  | ok references =>
      cases outlined : operationOutline settings.naming settings.definitionDir operation with
      | error fault =>
          refine Or.inl ⟨.fault fault, fun summary => ?_⟩
          rw [texts, checked, outlined]
          rfl
      | ok outline =>
          refine Or.inr ⟨beforeComment outline, behindComment settings.naming operation, ?_, ?_⟩
          · intro summary present
            rw [texts, checked, outlined, ok_bind, ← text_under present]
            rfl
          · intro summary
            rw [withoutComments_append (enclosed_beforeComment quiet outlined),
              withoutComments_documented]

/-- Summaries in which the comment does not end make no difference to the code of the file of an
operation. Of the others, everything behind the end becomes code. -/
theorem documented_textUnder
    (loaded : loadTemplate operationTemplateName operationSource none = .ok template)
    (quiet : StringBody settings.definitionDir.toList) (known : List String)
    (operation : Api.Operation) : Documented (textUnder settings template known operation) := by
  obtain rfl := Except.ok.inj (loaded.symm.trans loadTemplate_operationSource)
  have framed := framed_textUnder quiet known operation
  refine ⟨fun first second present present' unclosed unclosed' => ?_, framed⟩
  obtain ⟨problem, failed⟩ | ⟨before, after, frame⟩ := framed
  · rw [failed, failed]
  · exact frame.alike present present' unclosed unclosed'

/-- An operation that takes nothing. -/
def getPet : Api.Operation := ⟨"getPet", "/pet", .get, none, .reference true "Pet", [], [], none⟩

theorem getPet_documented :
    loadTemplate operationTemplateName operationSource none = .ok operationTemplate ∧
      StringBody Settings.standard.definitionDir.toList ∧
      Documented (textUnder .standard operationTemplate ["Pet"] getPet) := by
  have quiet : StringBody Settings.standard.definitionDir.toList :=
    StringBody.of_quoteless (by decide) (by decide)
  exact ⟨loadTemplate_operationSource, quiet,
    documented_textUnder loadTemplate_operationSource quiet _ _⟩

/-- A summary can add code to the file. -/
theorem getPet_spills : ∃ first second,
    loadTemplate operationTemplateName operationSource none = .ok operationTemplate ∧
      textUnder .standard operationTemplate ["Pet"] getPet "Get it" = .ok first ∧
      textUnder .standard operationTemplate ["Pet"] getPet injectingSummary = .ok second ∧
      withoutComments first ≠ withoutComments second := by
  have quiet : StringBody Settings.standard.definitionDir.toList :=
    StringBody.of_quoteless (by decide) (by decide)
  have written : textUnder .standard operationTemplate ["Pet"] getPet "Get it" = .ok _ :=
    (operationText_eq _ _ _).trans rfl
  obtain ⟨problem, failed⟩ | ⟨before, after, framed⟩ := framed_textUnder quiet ["Pet"] getPet
  · rw [failed] at written
    cases written
  · refine ⟨_, _, loadTemplate_operationSource, framed.rendered _ (by decide),
      framed.rendered _ (by decide), fun same => ?_⟩
    have unclosed : overflow "Get it" = "\n" := by decide +kernel
    have newline : ∀ more : List Char, Reader.kept .start ("\n".toList ++ more) =
        '\n' :: Reader.kept .start more := fun _ => rfl
    rw [framed.code, unclosed, framed.code_injectingSummary] at same
    have chars := congrArg String.toList same
    rw [String.toList_append, String.toList_append, List.append_cancel_left_eq, withoutComments,
      String.toList_ofList, String.toList_append, newline, String.toList_append] at chars
    exact absurd (List.cons.inj chars).1 (by decide)

end ClientGen.Client

import ClientGen.Document
import ClientGen.Proofs.Yaml.JsonText

/-!
# Hints about formats

Only the hint YAML keeps a document from being read as JSON. A JSON object that is written in the
way that JSON and YAML have in common is the same document for every hint.
-/

namespace ClientGen.Document

variable {text : List Char} {entries : List (Value × Value)}

theorem ofName?_eq_yaml_iff {name : String} : Format.ofName? name = some .yaml ↔ name = "yaml" := by
  rw [Format.ofName?.eq_def]
  split
  · exact iff_of_false (by rintro ⟨⟩) (by decide)
  · exact iff_of_true rfl rfl
  · next _ other => exact iff_of_false (by rintro ⟨⟩) other

/-- A JSON object is its own document unless the hint is YAML. -/
theorem parse_of_json {hint : Option Format} (read : Json.read text = .ok (.map entries))
    (other : hint ≠ some .yaml) : parse hint text = .ok (.map entries) := by
  rw [parse, if_neg other, readJson, read]
  rfl

/-- A common text of a JSON object is its own document with the hint YAML. -/
theorem parse_of_common (read : Json.read text = .ok (.map entries))
    (common : Json.isCommon text = true) : parse (some .yaml) text = .ok (.map entries) := by
  rw [parse, if_pos rfl, parseYaml, Yaml.read_of_common read common]
  rfl

/-- The text of a JSON object gives the same document with every hint, be it the name of a format,
another one or none; with the hint YAML it does if the text is common. -/
theorem parse_anyHint (hint : Option String) (read : Json.read text = .ok (.map entries))
    (common : hint = some "yaml" → Json.isCommon text = true) :
    parse (hint.bind Format.ofName?) text = .ok (.map entries) := by
  by_cases yaml : hint = some "yaml"
  · subst yaml
    exact parse_of_common read (common rfl)
  · refine parse_of_json read fun named => yaml ?_
    obtain ⟨name, given, found⟩ := Option.bind_eq_some_iff.mp named
    rw [given, ofName?_eq_yaml_iff.mp found]

/-- An object with strings, numbers, constants, an array and white space in it. -/
def settingsText : List Char :=
  ("\x7b\"name\" : \"a\\u00e9\\n b\",\r\n \"sizes\": [ 10, -2.5E+3, []\n]," ++
    " \"on\": true, \"on\": null \x7d").toList

/-- It is the same for YAML. -/
theorem settingsText_anyHint :
    Json.isCommon settingsText = true ∧
      parse ((some "yaml").bind Format.ofName?) settingsText =
        .ok (.map [(.text "name", .text "aé\n b"),
          (.text "sizes", .list [.int 10, .float (.ofDecimal true 25 2), .list []]),
          (.text "on", .null)]) := by
  have common : Json.isCommon settingsText = true := by decide +kernel
  exact ⟨common, parse_anyHint (some "yaml") (by decide +kernel) fun _ => common⟩

/-- An object with an exponent but no point in it. -/
def bareExponentText : List Char := "\x7b\"a\": 1e5\x7d".toList

/-- Its number is text for YAML. -/
theorem bareExponentText_depends :
    Json.read bareExponentText = .ok (.map [(.text "a", .float (.ofInt 100000))]) ∧
      (∀ hint ∈ [none, some "json", some "html"],
        parse (hint.bind Format.ofName?) bareExponentText =
          .ok (.map [(.text "a", .float (.ofInt 100000))])) ∧
      parse ((some "yaml").bind Format.ofName?) bareExponentText =
        .ok (.map [(.text "a", .text "1e5")]) ∧
      parse ((some "yaml").bind Format.ofName?) bareExponentText ≠ parse none bareExponentText := by
  decide +kernel

end ClientGen.Document

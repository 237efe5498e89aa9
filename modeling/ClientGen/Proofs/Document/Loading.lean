import ClientGen.Document
import ClientGen.Proofs.FileTree.Standing
import ClientGen.Proofs.Json.LongInteger
import ClientGen.Proofs.Yaml.Reading
import ClientGen.Proofs.Yaml.TokenStream
import ClientGen.Proofs.Yaml.Unfit

/-!
# Loading documents

A document is loaded or refused in words of the program, unless the text of the document cannot be
had or overwhelms a reader. The last two end the loading in a fault.
-/

namespace ClientGen

open FileTree

/-! ## Texts -/

namespace Document

variable {host : Host} {hint : Option Format} {text : List Char} {fault : Fault}
  {result : Except Problem Value} {usage : Prop} {escapes : Fault → Prop}

/-- A result that is a mapping or a failure of the families for documents, but for some faults. The
family for a wrong usage is that of one occasion. -/
structure Settles (usage : Prop) (escapes : Fault → Prop) (result : Except Problem Value) :
    Prop where
  /-- A result is a mapping. -/
  mapping : ∀ value, result = .ok value → ∃ entries, value = .map entries
  /-- A failure says that the document cannot be read, or that the usage is wrong. -/
  family : ∀ failure : Failure, result = .error (.failure failure) →
    failure.kind = .unreadableSpec ∨ failure.kind = .invalidUsage
  /-- The occasion of a wrong usage. -/
  usage : Refused .invalidUsage result ↔ usage
  /-- The faults. -/
  fault : ∀ fault, result = .error (.fault fault) ↔ escapes fault

theorem settles_map (entries : List (Value × Value)) :
    Settles False (fun _ => False) (.ok (.map entries)) where
  mapping := fun _ done => ⟨entries, (Except.ok.inj done).symm⟩
  family := nofun
  usage := iff_of_false nofun id
  fault := fun _ => iff_of_false nofun id

/-- A document that cannot be read. -/
theorem settles_failure {failure : Failure} (family : failure.kind = .unreadableSpec) :
    Settles False (fun _ => False) (.error (.failure failure)) where
  mapping := nofun
  family := by
    rintro _ ⟨⟩
    exact Or.inl family
  usage := by
    rw [refused_failure_iff, family]
    exact iff_of_false nofun id
  fault := fun _ => iff_of_false nofun id

/-- A wrong usage. -/
theorem settles_usage {failure : Failure} (family : failure.kind = .invalidUsage) :
    Settles True (fun _ => False) (.error (.failure failure)) where
  mapping := nofun
  family := by
    rintro _ ⟨⟩
    exact Or.inr family
  usage := iff_of_true (refused_failure_iff.mpr family) trivial
  fault := fun _ => iff_of_false nofun id

theorem settles_fault (fault : Fault) : Settles False (fault = ·) (.error (.fault fault)) where
  mapping := nofun
  family := nofun
  usage := iff_of_false nofun id
  fault := by
    intro other
    constructor
    · rintro ⟨⟩
      rfl
    · rintro rfl
      rfl

/-- The occasions under other names. -/
theorem Settles.congr {usage' : Prop} {escapes' : Fault → Prop}
    (settles : Settles usage escapes result) (sameUsage : usage ↔ usage')
    (sameFaults : ∀ fault, escapes fault ↔ escapes' fault) : Settles usage' escapes' result where
  mapping := settles.mapping
  family := settles.family
  usage := settles.usage.trans sameUsage
  fault := fun fault => (settles.fault fault).trans (sameFaults fault)

theorem settles_requireMapping (value : Value) :
    Settles False (fun _ => False) (requireMapping value) := by
  rw [requireMapping.eq_def]
  split
  · exact settles_map _
  · exact settles_failure rfl

theorem settles_parseYaml (detail : Option String) (text : List Char) :
    Settles False (fun fault => Yaml.read text = .error (.impossible fault))
      (parseYaml detail text) := by
  rw [parseYaml]
  cases read : Yaml.read text with
  | ok found => exact (settles_requireMapping found).congr Iff.rfl fun _ => iff_of_false id nofun
  | error reason =>
      cases reason with
      | malformed rule => exact (settles_failure rfl).congr Iff.rfl fun _ => iff_of_false id nofun
      | impossible fault => exact (settles_fault fault).congr Iff.rfl fun _ => by simp

/-- A text that makes a reader give up, with the fault that this is: JSON with a number that is not
converted, where JSON is tried, or YAML for a value that does not exist, where YAML is tried. -/
inductive Overwhelms : Option Format → List Char → Fault → Prop
  | json {hint : Option Format} {text : List Char} (tried : hint ≠ some .yaml)
      (read : Json.read text = .error .longInteger) : Overwhelms hint text .badValue
  | yaml {text : List Char} {fault : Fault} (read : Yaml.read text = .error (.impossible fault)) :
      Overwhelms (some .yaml) text fault
  | fallback {text : List Char} {complaint : Json.Complaint} {remaining : Nat} {fault : Fault}
      (invalid : Json.read text = .error (.malformed complaint remaining))
      (read : Yaml.read text = .error (.impossible fault)) : Overwhelms none text fault

theorem settles_parse (hint : Option Format) (text : List Char) :
    Settles False (Overwhelms hint text) (parse hint text) := by
  rw [parse]
  split
  · next told =>
      subst told
      refine (settles_parseYaml none text).congr Iff.rfl fun fault => ⟨.yaml, ?_⟩
      rintro (⟨tried, _⟩ | read)
      · exact (tried rfl).elim
      · exact read
  · next tried =>
      rw [readJson]
      cases read : Json.read text with
      | ok found =>
          refine (settles_requireMapping found).congr Iff.rfl fun fault => iff_of_false id ?_
          rintro (⟨_, long⟩ | _ | invalid)
          · cases read.symm.trans long
          · exact tried rfl
          · cases read.symm.trans invalid
      | error reason =>
          cases reason with
          | longInteger =>
              refine (settles_fault .badValue).congr Iff.rfl fun fault => ⟨?_, ?_⟩
              · rintro rfl
                exact .json tried read
              · rintro (_ | _ | invalid)
                · rfl
                · exact (tried rfl).elim
                · cases read.symm.trans invalid
          | malformed complaint remaining =>
              dsimp only
              split
              · next told =>
                  subst told
                  refine (settles_failure rfl).congr Iff.rfl fun fault => iff_of_false id ?_
                  rintro (⟨_, long⟩)
                  cases read.symm.trans long
              · next unhinted =>
                  have absent : hint = none := by
                    cases hint with
                    | none => rfl
                    | some format => cases format <;> contradiction
                  subst absent
                  refine (settles_parseYaml _ text).congr Iff.rfl fun fault => ⟨.fallback read, ?_⟩
                  rintro (⟨_, long⟩ | _ | ⟨_, found⟩)
                  · cases read.symm.trans long
                  · exact found

/-! ## Sources -/

/-- The text that a source has, with a hint about its format. -/
inductive Provides (host : Host) : Source → Option Format → List Char → Prop
  | input {content : String} (given : host.input = .text content)
      (written : Text.isBlankText content.toList = false) :
      Provides host .input none content.toList
  | emptyAnswer {url : String} {status : Int} {contentType : String}
      (answered : host.fetch url = .response status contentType [])
      (success : isSuccess status = true) :
      Provides host (.address url) (contentHint contentType) []
  | answer {url : String} {status : Int} {contentType : String} {octets : List UInt8}
      {text : List Char} (answered : host.fetch url = .response status contentType octets)
      (success : isSuccess status = true) (filled : octets ≠ [])
      (decoded : (charsetOf contentType).decode octets = .ok text) :
      Provides host (.address url) (contentHint contentType) text
  | file {path : Path} {octets : List UInt8} {text : List Char}
      (found : host.tree.file? host.directory.parts path = .ok (some octets))
      (shown : host.withheld? path = none) (decoded : textOf octets = .ok text)
      (written : Text.isBlankText text = false) : Provides host (.file path) (suffixHint path) text

/-- What stands between a source and its text: octets that are no text, an address that cannot be
asked, or a path that is too long. -/
inductive Withholds (host : Host) : Source → Fault → Prop
  | input (undecodable : host.input = .undecodable) : Withholds host .input .undecodable
  | address {url : String} (invalid : host.fetch url = .invalidAddress) :
      Withholds host (.address url) .foreign
  | answer {url : String} {status : Int} {contentType : String} {octets : List UInt8}
      {fault : Fault} (answered : host.fetch url = .response status contentType octets)
      (success : isSuccess status = true) (filled : octets ≠ [])
      (undecodable : (charsetOf contentType).decode octets = .error fault) :
      Withholds host (.address url) fault
  | longPath {path : Path} (plain : hasNull path = false)
      (refused : host.tree.entry host.directory.parts path = .error .longName) :
      Withholds host (.file path) .refusedPath
  | octets {path : Path} {octets : List UInt8}
      (found : host.tree.file? host.directory.parts path = .ok (some octets))
      (shown : host.withheld? path = none) (undecodable : Text.Utf8.decode? octets = none) :
      Withholds host (.file path) .undecodable

/-- The faults that end the loading of a source. -/
inductive Escapes (host : Host) (source : Source) (fault : Fault) : Prop
  | withheld (reason : Withholds host source fault)
  | overwhelmed {hint : Option Format} {text : List Char}
      (provided : Provides host source hint text) (gaveUp : Overwhelms hint text fault)

theorem escapes_input_iff :
    Escapes host .input fault ↔
      host.input = .undecodable ∧ fault = .undecodable ∨
        ∃ content, host.input = .text content ∧ Text.isBlankText content.toList = false ∧
          Overwhelms none content.toList fault := by
  constructor
  · rintro (⟨⟨undecodable⟩⟩ | ⟨⟨given, written⟩, gaveUp⟩)
    · exact Or.inl ⟨undecodable, rfl⟩
    · exact Or.inr ⟨_, given, written, gaveUp⟩
  · rintro (⟨undecodable, rfl⟩ | ⟨content, given, written, gaveUp⟩)
    · exact .withheld (.input undecodable)
    · exact .overwhelmed (.input given written) gaveUp

theorem escapes_address_iff {url : String} :
    Escapes host (.address url) fault ↔
      host.fetch url = .invalidAddress ∧ fault = .foreign ∨
      ∃ status contentType octets, host.fetch url = .response status contentType octets ∧
        isSuccess status = true ∧
          (octets = [] ∧ Overwhelms (contentHint contentType) [] fault ∨
            octets ≠ [] ∧ ((charsetOf contentType).decode octets = .error fault ∨
              ∃ text, (charsetOf contentType).decode octets = .ok text ∧
                Overwhelms (contentHint contentType) text fault)) := by
  constructor
  · rintro (⟨_ | invalid | ⟨answered, success, filled, undecodable⟩⟩ | ⟨provided, gaveUp⟩)
    · exact Or.inl ⟨invalid, rfl⟩
    · exact Or.inr ⟨_, _, _, answered, success, Or.inr ⟨filled, Or.inl undecodable⟩⟩
    · rcases provided with _ | ⟨answered, success⟩ | ⟨answered, success, filled, decoded⟩
      · exact Or.inr ⟨_, _, _, answered, success, Or.inl ⟨rfl, gaveUp⟩⟩
      · exact Or.inr ⟨_, _, _, answered, success, Or.inr ⟨filled, Or.inr ⟨_, decoded, gaveUp⟩⟩⟩
  · rintro (⟨invalid, rfl⟩ | ⟨_, _, _, answered, success, ⟨rfl, gaveUp⟩ |
      ⟨filled, undecodable | ⟨_, decoded, gaveUp⟩⟩⟩)
    · exact .withheld (.address invalid)
    · exact .overwhelmed (.emptyAnswer answered success) gaveUp
    · exact .withheld (.answer answered success filled undecodable)
    · exact .overwhelmed (.answer answered success filled decoded) gaveUp

theorem textOf_eq_error_iff {octets : List UInt8} :
    textOf octets = .error fault ↔ Text.Utf8.decode? octets = none ∧ fault = .undecodable := by
  rw [textOf]
  split
  · next decoded => simp [decoded]
  · next undecodable => simp [undecodable, eq_comm]

theorem escapes_file_iff {path : Path} :
    Escapes host (.file path) fault ↔
      host.tree.file? host.directory.parts path = .error fault ∨
        ∃ octets, host.tree.file? host.directory.parts path = .ok (some octets) ∧
          host.withheld? path = none ∧
            (textOf octets = .error fault ∨
              ∃ text, textOf octets = .ok text ∧ Text.isBlankText text = false ∧
                Overwhelms (suffixHint path) text fault) := by
  constructor
  · rintro (⟨_ | _ | _ | ⟨plain, refused⟩ | ⟨found, shown, undecodable⟩⟩ | ⟨provided, gaveUp⟩)
    · exact Or.inl (file?_eq_error_iff.mpr ⟨⟨plain, refused⟩, rfl⟩)
    · exact Or.inr ⟨_, found, shown, Or.inl (textOf_eq_error_iff.mpr ⟨undecodable, rfl⟩)⟩
    · obtain _ | _ | _ | ⟨found, shown, decoded, written⟩ := provided
      exact Or.inr ⟨_, found, shown, Or.inr ⟨_, decoded, written, gaveUp⟩⟩
  · rintro (failed | ⟨_, found, shown, failed | ⟨_, decoded, written, gaveUp⟩⟩)
    · obtain ⟨⟨plain, refused⟩, rfl⟩ := file?_eq_error_iff.mp failed
      exact .withheld (.longPath plain refused)
    · obtain ⟨undecodable, rfl⟩ := textOf_eq_error_iff.mp failed
      exact .withheld (.octets found shown undecodable)
    · exact .overwhelmed (.file found shown decoded written) gaveUp

/-- A step of which a fault ends the loading, and one after it. -/
theorem settles_bind {α : Type} {first : Except Fault α} {next : α → Except Problem Value}
    {escapes : α → Fault → Prop}
    (later : ∀ found, first = .ok found → Settles False (escapes found) (next found)) :
    Settles False
      (fun fault => first = .error fault ∨ ∃ found, first = .ok found ∧ escapes found fault)
      (first.mapError Problem.fault >>= next) := by
  cases done : first with
  | error fault => exact (settles_fault fault).congr Iff.rfl fun _ => by simp
  | ok found => exact (later found done).congr Iff.rfl fun _ => by simp

/-- A text that may be refused for being empty. -/
theorem settles_written {failure : Failure} (family : failure.kind = .unreadableSpec)
    (hint : Option Format) (text : List Char) :
    Settles False (fun fault => Text.isBlankText text = false ∧ Overwhelms hint text fault)
      (if Text.isBlankText text then .error failure else parse hint text) := by
  split
  · next blank => exact (settles_failure family).congr Iff.rfl fun fault => by simp [blank]
  · next written => exact (settles_parse hint text).congr Iff.rfl fun fault => by simp [written]

theorem settles_ofInput (host : Host) :
    Settles (host.input = .terminal) (Escapes host .input) (ofInput host.input) := by
  rw [ofInput.eq_def]
  split
  · next given =>
      exact (settles_usage rfl).congr (by simp [given]) fun fault => by
        simp [escapes_input_iff, given]
  · next given =>
      exact (settles_failure rfl).congr (by simp [given]) fun fault => by
        simp [escapes_input_iff, given]
  · next given =>
      refine (settles_fault .undecodable).congr (by simp [given]) fun fault => ?_
      rw [escapes_input_iff, given]
      constructor
      · rintro rfl
        exact Or.inl ⟨rfl, rfl⟩
      · rintro (⟨_, rfl⟩ | ⟨_, other, _⟩)
        · rfl
        · cases other
  · next content given =>
      exact (settles_written rfl none _).congr (by simp [given]) fun fault => by
        simp [escapes_input_iff, given]

theorem settles_ofAnswer (host : Host) (url : String) :
    Settles False (Escapes host (.address url)) (ofAnswer url (host.fetch url)) := by
  rw [ofAnswer.eq_def]
  split
  · next answered =>
      exact (settles_failure rfl).congr Iff.rfl fun fault => by simp [escapes_address_iff, answered]
  · next invalid =>
      refine (settles_fault .foreign).congr Iff.rfl fun fault => ?_
      rw [escapes_address_iff, invalid]
      constructor
      · rintro rfl
        exact Or.inl ⟨rfl, rfl⟩
      · rintro (⟨_, rfl⟩ | ⟨_, _, _, other, _⟩)
        · rfl
        · cases other
  · next status contentType octets answered =>
      split
      · next success =>
          split
          · next empty =>
              have bare : octets = [] := List.isEmpty_iff.mp empty
              exact (settles_parse _ _).congr Iff.rfl fun fault => by
                simp [escapes_address_iff, answered, success, bare]
          · next filled =>
              rw [List.isEmpty_iff] at filled
              exact (settles_bind fun text _ => settles_parse _ text).congr Iff.rfl fun fault => by
                simp [escapes_address_iff, answered, success, filled]
      · next failed =>
          exact (settles_failure rfl).congr Iff.rfl fun fault => by
            simp [escapes_address_iff, answered, failed]

theorem settles_ofFile (host : Host) (path : Path) :
    Settles False (Escapes host (.file path)) (ofFile host path) := by
  rw [ofFile]
  cases looked : host.tree.file? host.directory.parts path with
  | error fault =>
      exact (settles_fault fault).congr Iff.rfl fun _ => by simp [escapes_file_iff, looked]
  | ok found =>
      cases found with
      | none =>
          exact (settles_failure rfl).congr Iff.rfl fun _ => by simp [escapes_file_iff, looked]
      | some octets =>
          dsimp only [Except.mapError, ok_bind]
          cases shown : host.withheld? path with
          | some detail =>
              exact (settles_failure rfl).congr Iff.rfl fun _ => by
                simp [escapes_file_iff, looked, shown]
          | none =>
              refine (settles_bind fun text _ => settles_written rfl (suffixHint path) text).congr
                Iff.rfl fun fault => ?_
              simp [escapes_file_iff, looked, shown]

theorem settles_load (host : Host) (source : String) :
    Settles (Source.ofText source = .input ∧ host.input = .terminal)
      (Escapes host (.ofText source)) (load host source).result := by
  rw [load, ofSource.eq_def]
  split
  · next named =>
      rw [named]
      exact (settles_ofInput host).congr (by simp) fun _ => Iff.rfl
  · next url named =>
      rw [named, Logged.result_bind]
      exact (settles_ofAnswer host url).congr (by simp) fun _ => Iff.rfl
  · next path named =>
      rw [named]
      exact (settles_ofFile host path).congr (by simp) fun _ => Iff.rfl

/-! ## What shows -/

/-- What there is in a text that overwhelms a reader: an integer with too many digits, an escape for
a code that is no code point, or a node for a value that does not exist. -/
inductive Shows (text : List Char) : Fault → Prop
  | longInteger (long : Json.HasLongInteger text) : Shows text .badValue
  | escape {fault : Fault} (escape : Yaml.HasEscape text fault) : Shows text fault
  | node {root : Yaml.Node} {fault : Fault}
      (read : Yaml.Node.ofTokens (Yaml.tokens text) = .ok (some root))
      (unfit : Yaml.Unfit root fault) : Shows text fault

theorem shows_of_read (failed : Yaml.read text = .error (.impossible fault)) :
    Shows text fault := by
  rw [Yaml.read] at failed
  cases read : Yaml.Node.ofTokens (Yaml.tokens text) with
  | error reason =>
      rw [read, error_bind] at failed
      obtain rfl := Except.error.inj failed
      exact .escape (Yaml.hasEscape_of_broken (Yaml.Node.broken_of_ofTokens read))
  | ok found =>
      rw [read, ok_bind] at failed
      cases found with
      | none => cases failed
      | some root =>
          dsimp only at failed
          cases built : Yaml.build 0 root with
          | ok value =>
              rw [built] at failed
              cases failed
          | error flaw =>
              obtain ⟨depth, reason⟩ := flaw
              rw [built] at failed
              obtain rfl : reason = .impossible fault := Except.error.inj failed
              exact .node read (Yaml.blames_build 0 root depth fault built)

theorem shows_of_overwhelms (overwhelms : Overwhelms hint text fault) : Shows text fault := by
  cases overwhelms with
  | json _ read => exact .longInteger (Json.hasLongInteger_of_read read)
  | yaml read => exact shows_of_read read
  | fallback _ read => exact shows_of_read read

/-- A document that is one plain text denotes what the text denotes. -/
theorem read_of_tokens_eq {word : String}
    (alone : Yaml.tokens text = [.scalar word true, .streamEnd]) :
    Yaml.read text =
      (Yaml.builtScalar 0 (Yaml.Tag.ofPlain? word) word).mapError Yaml.Flaw.fault := by
  have node : Yaml.Node.ofTokens (Yaml.tokens text) =
      .ok (some (.scalar (Yaml.Tag.ofPlain? word) word)) := by
    rw [alone]
    simp [Yaml.Node.ofTokens, Yaml.Node.documentNode, Yaml.Node.startsExplicitly, Yaml.Node.read,
      Yaml.Node.properties, Yaml.Node.content, Yaml.Node.scalarTag, Yaml.Node.Reading.openAnchor,
      Yaml.Node.Reading.closeAnchor, Yaml.Node.Reading.skip, ok_bind]
  rw [Yaml.read, node, ok_bind]
  dsimp only
  rw [Yaml.build]

theorem read_undated : Yaml.read "2020-13-45".toList = .error (.impossible .badValue) := by
  have alone : Yaml.tokens "2020-13-45".toList = [.scalar "2020-13-45" true, .streamEnd] := by
    decide +kernel
  rw [read_of_tokens_eq alone]
  rfl

/-! ## Loading -/

/-- A result that keeps what the loading of a document promises: a mapping, or a failure that says
that the document cannot be read or that the usage is wrong. -/
def Kept (result : Except Problem Value) : Prop :=
  (∃ entries, result = .ok (.map entries)) ∨ Refused .unreadableSpec result ∨
    Refused .invalidUsage result

/-- How the loading of a source ends. -/
structure Loads (host : Host) (source : Source) (result : Except Problem Value) : Prop where
  /-- It keeps the promise exactly if no fault ends it. -/
  kept : Kept result ↔ ∀ fault, ¬ Escapes host source fault
  /-- A terminal in place of the document is the one wrong usage. -/
  usage : Refused .invalidUsage result ↔ source = .input ∧ host.input = .terminal
  /-- The faults that end it. -/
  fault : ∀ fault, result = .error (.fault fault) ↔ Escapes host source fault
  /-- What there is to see of a fault: octets or a path without a text, or something in the text. -/
  shown : ∀ fault, result = .error (.fault fault) →
    Withholds host source fault ∨ ∃ hint text, Provides host source hint text ∧ Shows text fault

theorem Settles.kept_iff (settles : Settles usage escapes result) :
    Kept result ↔ ∀ fault, ¬ escapes fault := by
  constructor
  · intro kept fault escape
    have failed := (settles.fault fault).mpr escape
    rcases kept with ⟨entries, done⟩ | ⟨failure, refused, _⟩ | ⟨failure, refused, _⟩
    · cases done.symm.trans failed
    · cases refused.symm.trans failed
    · cases refused.symm.trans failed
  · intro none
    cases ended : result with
    | ok value =>
        obtain ⟨entries, rfl⟩ := settles.mapping value ended
        exact Or.inl ⟨entries, rfl⟩
    | error problem =>
        cases problem with
        | failure failure =>
            rcases settles.family failure ended with unreadable | usage
            · exact Or.inr (Or.inl (refused_failure_iff.mpr unreadable))
            · exact Or.inr (Or.inr (refused_failure_iff.mpr usage))
        | fault fault => exact (none fault ((settles.fault fault).mp ended)).elim

/-- Whatever a text names as the source and whatever the surroundings hold, loading it gives a
mapping or a failure of the families for documents, unless one of the listed faults ends it. -/
theorem loads_load (host : Host) (source : String) :
    Loads host (.ofText source) (load host source).result := by
  have settles := settles_load host source
  refine ⟨settles.kept_iff, settles.usage, settles.fault, fun fault failed => ?_⟩
  rcases (settles.fault fault).mp failed with withheld | ⟨provided, gaveUp⟩
  · exact Or.inl withheld
  · exact Or.inr ⟨_, _, provided, shows_of_overwhelms gaveUp⟩

/-- A host with documents that end the loading in a fault: a file that is no UTF-8, one that is a
day in no calendar, and an escape beyond the last plane on standard input. -/
def damagedHost : Host where
  platform := "Linux"
  directory := ⟨"/", ["work"]⟩
  environment := []
  accounts := []
  input := .text "\"\\U00110000\""
  terminalOutput := false
  fetch := fun _ => .unreachable ""
  time := "now"
  tree := ⟨[(["work"], .directory), (["work", "spec.yaml"], .file 420 [0xff]),
    (["work", "dated.yaml"], .file 420 (Text.Utf8.encode "2020-13-45".toList))]⟩

/-- Its documents keep no promise. -/
theorem damagedHost_escapes :
    (load damagedHost "spec.yaml").result = .error (.fault .undecodable) ∧
      (load damagedHost "dated.yaml").result = .error (.fault .badValue) ∧
      (load damagedHost "-").result = .error (.fault .badValue) ∧
      ∀ source ∈ ["spec.yaml", "dated.yaml", "-"], ¬ Kept (load damagedHost source).result := by
  have undecodable : (load damagedHost "spec.yaml").result = .error (.fault .undecodable) := by
    decide +kernel
  have undated : (load damagedHost "dated.yaml").result = .error (.fault .badValue) := by
    have provided : Provides damagedHost (.ofText "dated.yaml") (some .yaml)
        "2020-13-45".toList := .file rfl rfl rfl (by decide +kernel)
    exact ((settles_load damagedHost "dated.yaml").fault .badValue).mpr
      (.overwhelmed provided (.yaml read_undated))
  have beyond : (load damagedHost "-").result = .error (.fault .badValue) := by decide +kernel
  have broken : ∀ fault, ¬ Kept (.error (.fault fault) : Except Problem Value) := by
    rintro fault (⟨_, done⟩ | ⟨_, refused, _⟩ | ⟨_, refused, _⟩)
    · cases done
    · cases refused
    · cases refused
  refine ⟨undecodable, undated, beyond, fun source member => ?_⟩
  simp only [List.mem_cons, List.not_mem_nil, or_false] at member
  rcases member with rfl | rfl | rfl
  · exact undecodable ▸ broken _
  · exact undated ▸ broken _
  · exact beyond ▸ broken _

end Document

end ClientGen

import ClientGen.Failure
import ClientGen.FileTree.Access
import ClientGen.Host
import ClientGen.Log
import ClientGen.Text.Basic
import ClientGen.Text.Case
import ClientGen.Text.Charset
import ClientGen.Yaml.Document

/-!
# Documents

A document is a mapping written in JSON or YAML. Without a hint JSON is tried first and YAML after
it. The hint JSON makes a JSON error final, the hint YAML leaves JSON out.
-/

namespace ClientGen.Document

/-- The formats of documents. -/
inductive Format where
  /-- JSON. -/
  | json
  /-- YAML. -/
  | yaml
  deriving DecidableEq, Repr

/-- The format with a name. -/
def Format.ofName? : String → Option Format
  | "json" => some .json
  | "yaml" => some .yaml
  | _ => none

/-- The name of what a text denotes in place of a mapping. -/
def foundName : Value → String
  | .null => "empty document"
  | value => value.kindName

/-- A value that is a mapping. -/
def requireMapping : Value → Except Problem Value
  | .map entries => .ok (.map entries)
  | value => .error (Failure.notAMapping (foundName value))

/-- What reading a text as JSON comes to. -/
inductive JsonReading where
  /-- A value. -/
  | value (found : Value)
  /-- No JSON, for the given reason. -/
  | invalid (detail : String)
  /-- JSON with a number that is not converted. -/
  | unconvertible

/-- Read a text as JSON. -/
def readJson (text : List Char) : JsonReading :=
  match Json.read text with
  | .ok found => .value found
  | .error (.malformed complaint remaining) => .invalid (Json.located text complaint remaining)
  | .error .longInteger => .unconvertible

/-- Read a text as YAML; the reason why it was no JSON goes into the failure. -/
def parseYaml (jsonDetail : Option String) (text : List Char) : Except Problem Value :=
  match Yaml.read text with
  | .ok found => requireMapping found
  | .error (.malformed rule) => .error (Failure.unparsable jsonDetail rule)
  | .error (.impossible fault) => .error fault

/-- The document of a text. -/
def parse (hint : Option Format) (text : List Char) : Except Problem Value :=
  if hint = some .yaml then parseYaml none text
  else match readJson text with
    | .value found => requireMapping found
    | .unconvertible => .error Fault.badValue
    | .invalid detail =>
        if hint = some .json then .error (Failure.invalidJson detail)
        else parseYaml (some detail) text

/-!
## Sources of documents

A document comes from standard input, from an address of the network or from a file. The content
type of a response and the ending of a file name are hints about the format, no more.
-/

/-- Where a document comes from. -/
inductive Source where
  /-- Standard input. -/
  | input
  /-- An address of the network. -/
  | address (url : String)
  /-- A file. -/
  | file (path : Path)
  deriving DecidableEq, Repr

/-- The beginnings of addresses. -/
def schemes : List String := ["http://", "https://"]

/-- The source that a text names: a single minus is standard input. -/
def Source.ofText (text : String) : Source :=
  if text = "-" then .input
  else if schemes.any fun scheme => Text.startsWith scheme.toList text.toList then .address text
  else .file (Path.ofText text)

/-! ## Standard input -/

/-- The document on standard input. -/
def ofInput : Input → Except Problem Value
  | .terminal => .error Failure.terminalInput
  | .broken detail => .error (Failure.unreadableInput detail)
  | .undecodable => .error Fault.undecodable
  | .text content =>
      if Text.isBlankText content.toList then .error Failure.emptyInput
      else parse none content.toList

/-! ## Responses -/

/-- Whether a content type mentions a word, in lower case. -/
def mentions (contentType word : String) : Bool := Text.contains word.toList contentType.toList

/-- The hint of a content type. -/
def contentHint (contentType : String) : Option Format :=
  if mentions contentType "json" then some .json
  else if mentions contentType "yaml" || mentions contentType "yml" then some .yaml
  else none

/-- The length of the first parameter of a content type: up to a semicolon that is not inside of
quotation marks. -/
def parameterLength (isQuoted : Bool) : List Char → Nat
  | [] => 0
  | '\\' :: '"' :: rest => parameterLength isQuoted rest + 2
  | c :: rest =>
      if c = ';' && !isQuoted then 0
      else parameterLength (if c = '"' then !isQuoted else isQuoted) rest + 1

/-- The parameters of a content type, the type itself being the first. -/
def parameters : (fuel : Nat) → List Char → List (List Char)
  | 0, _ => []
  | fuel + 1, contentType =>
      let length := parameterLength false contentType
      contentType.take length ::
        match contentType.drop length with
        | [] => []
        | _ :: rest => parameters fuel rest

/-- What stands between two marks around a value. -/
def between? (opening closing : Char) (value : List Char) : Option (List Char) :=
  match value with
  | first :: c :: rest =>
      if first = opening && (c :: rest).getLast? = some closing then some (c :: rest).dropLast
      else none
  | _ => none

/-- A value without the quotation marks or angle brackets around it. -/
def unquotedValue (value : List Char) : List Char :=
  match between? '"' '"' value with
  | some inner => Text.replacePair '\\' '"' '"' (Text.replacePair '\\' '\\' '\\' inner)
  | none => (between? '<' '>' value).getD value

/-- The value of a parameter, if it names the charset. -/
def charsetParameter? (parameter : List Char) : Option (List Char) :=
  match Text.cutAt? '=' parameter with
  | some (name, value) =>
      if Text.lower (Text.trim name) = "charset".toList then some (unquotedValue (Text.trim value))
      else none
  | none => if Text.lower (Text.trim parameter) = "charset".toList then some [] else none

/-- The charset of a content type; text is UTF-8 unless the type says otherwise. -/
def charsetOf (contentType : String) : Text.Charset :=
  let text := contentType.toList
  let given := (parameters (text.length + 1) text).findSome? charsetParameter?
  let named := given.filter fun name => name.all fun c => c.toNat < 0x80
  (named.bind Text.Charset.ofName?).getD (.utf8 false)

/-- Whether a status tells of a success. -/
def isSuccess (status : Int) : Bool := 200 ≤ status && status ≤ 299

/-- The document that a server answers with. -/
def ofAnswer (url : String) : Answer → Except Problem Value
  | .unreachable detail => .error (Failure.unreachable url detail)
  | .invalidAddress => .error Fault.foreign
  | .response status contentType octets =>
      if isSuccess status then
        if octets.isEmpty then parse (contentHint contentType) []
        else do
          let text ← ((charsetOf contentType).decode octets).mapError Problem.fault
          parse (contentHint contentType) text
      else .error (Failure.httpStatus status url)

/-! ## Files -/

/-- The hint of the ending of a file name. -/
def suffixHint (path : Path) : Option Format :=
  match Text.lowerString path.suffix with
  | ".json" => some .json
  | ".yaml" | ".yml" => some .yaml
  | _ => none

/-- The document in a file. -/
def ofFile (host : Host) (path : Path) : Except Problem Value := do
  match ← (host.tree.file? host.directory.parts path).mapError Problem.fault with
  | none => .error (Failure.missingSpec path.toText)
  | some octets =>
      match host.withheld? path with
      | some detail => .error (Failure.unreadableFile path.toText detail)
      | none =>
          let text ← (FileTree.textOf octets).mapError Problem.fault
          if Text.isBlankText text then .error (Failure.emptySpec path.toText)
          else parse (suffixHint path) text

/-! ## All sources -/

/-- The document of a source. Asking the network leaves a record. -/
def ofSource (host : Host) : Source → Logged Value
  | .input => Logged.ofResult (ofInput host.input)
  | .address url => do
      Logged.record .debug ("Fetching spec from " ++ url)
      Logged.ofResult (ofAnswer url (host.fetch url))
  | .file path => Logged.ofResult (ofFile host path)

/-- The document that a text names. -/
def load (host : Host) (source : String) : Logged Value := ofSource host (.ofText source)

end ClientGen.Document

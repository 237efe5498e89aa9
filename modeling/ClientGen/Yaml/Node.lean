import ClientGen.Yaml.Tag
import ClientGen.Yaml.TokenStream

/-!
# Nodes of a YAML document

The tree that a token stream spells: scalars, sequences and mappings with their tags. An alias is
replaced by the node that it names. Only a stream of at most one document is taken.
-/

namespace ClientGen.Yaml

/-- A node. A tag without a meaning is absent. -/
inductive Node where
  /-- Text. -/
  | scalar (tag : Option Tag) (text : String)
  /-- A sequence. -/
  | sequence (tag : Option Tag) (items : List Node)
  /-- A mapping. -/
  | mapping (tag : Option Tag) (entries : List (Node × Node))
  /-- The node with a name, inside of that node. -/
  | within (name : String)
  /-- A node that this place is inside of, with what it holds. -/
  | recurring (content : Node)
  deriving Repr, Inhabited

namespace Node

/-- The node of a missing scalar. -/
def empty : Node := .scalar (some .null) ""

/-! ## Nodes inside of themselves -/

/-- A node with nothing in it. -/
def emptied : Node → Node
  | .sequence tag _ => .sequence tag []
  | .mapping tag _ => .mapping tag []
  | node => node

mutual

/-- Put a node in the places that name it. -/
def settle (name : String) (replacement : Node) : Node → Node
  | .within other => if other = name then replacement else .within other
  | .sequence tag items => .sequence tag (settleAll name replacement items)
  | .mapping tag entries => .mapping tag (settleEntries name replacement entries)
  | .recurring content => .recurring (settle name replacement content)
  | .scalar tag text => .scalar tag text

/-- Put a node in the places of several nodes that name it. -/
def settleAll (name : String) (replacement : Node) : List Node → List Node
  | [] => []
  | node :: rest => settle name replacement node :: settleAll name replacement rest

/-- Put a node in the places of entries that name it. -/
def settleEntries (name : String) (replacement : Node) :
    List (Node × Node) → List (Node × Node)
  | [] => []
  | (key, value) :: rest =>
      (settle name replacement key, settle name replacement value) ::
        settleEntries name replacement rest

end

/-- What stands for a node inside of itself: a copy, in which nothing stands for it. -/
def recurrence (name : String) (node : Node) : Node :=
  .recurring (settle name (.recurring node.emptied) node)

/-! ## Readers -/

/-- What a reader of nodes works on. -/
structure Reading where
  /-- The tokens that are left. -/
  tokens : List Token
  /-- The named nodes; one that is still being read has only its name. -/
  anchors : List (String × Option Node)
  /-- The names of the nodes that are mentioned inside of themselves. -/
  recurring : List String

/-- A reader. -/
abbrev Reads (α : Type) := Reading → Except YamlFault (α × Reading)

namespace Reading

/-- Whether the next token is one of the given ones. -/
def nextIs (choices : List Token) (r : Reading) : Bool :=
  r.tokens.head?.any choices.contains

/-- The state after the next token. -/
def skip (r : Reading) : Reading := { r with tokens := r.tokens.tail }

/-- The fault of a token that does not fit. -/
def unexpected (r : Reading) : YamlFault :=
  match r.tokens with
  | .broken fault :: _ => fault
  | _ => .malformed "a token does not fit here"

/-- Give a name to the node that follows. -/
def openAnchor (anchor : Option String) (r : Reading) : Except YamlFault Reading :=
  match anchor with
  | none => .ok r
  | some name =>
      if r.anchors.any (·.1 = name) then refuse "a name is given twice"
      else .ok { r with anchors := (name, none) :: r.anchors }

/-- Record the node that a name was given to, and put it in its places inside of itself. -/
def closeAnchor (anchor : Option String) (node : Node) (r : Reading) : Node × Reading :=
  match anchor with
  | none => (node, r)
  | some name =>
      if r.recurring.contains name then
        let replacement := node.recurrence name
        let settled := settle name replacement node
        let anchors := r.anchors.map fun (other, found) =>
          (other, found.map (settle name replacement))
        (settled, { r with anchors := (name, some settled) :: anchors })
      else (node, { r with anchors := (name, some node) :: r.anchors })

/-- The node with a name. -/
def named (name : String) (r : Reading) : Except YamlFault (Node × Reading) :=
  match r.anchors.find? (·.1 = name) with
  | some (_, some node) => .ok (node, r)
  | some (_, none) => .ok (.within name, { r with recurring := name :: r.recurring })
  | none => refuse "an unknown name"

end Reading

/-! ## Tags -/

/-- What the tag handles stand for. -/
abbrev Handles := List (String × String)

/-- The handles of every document. -/
def standardHandles : Handles := [("!", "!"), ("!!", Tag.family)]

/-- The address of a written tag. -/
def address (handles : Handles) : (handle : Option String) → String → Except YamlFault String
  | none, suffix => .ok suffix
  | some handle, suffix =>
      match handles.find? (·.1 = handle) with
      | some (_, lead) => .ok (lead ++ suffix)
      | none => refuse "an unknown tag handle"

/-- The tag of a collection. -/
def collectionTag (standard : Tag) : Option String → Option Tag
  | none | some "!" => some standard
  | some address => Tag.ofAddress? address

/-- The tag of a scalar. -/
def scalarTag (plain : Bool) (text : String) : Option String → Option Tag
  | none => if plain then Tag.ofPlain? text else some .str
  | some "!" => Tag.ofPlain? text
  | some address => Tag.ofAddress? address

/-- What is written in front of a node: its name and the address of its tag. -/
structure Properties where
  /-- The name. -/
  anchor : Option String
  /-- The address of the tag. -/
  tag : Option String

/-- The name and the tag in front of a node, in either order. -/
def properties (handles : Handles) : Reads Properties := fun r =>
  match r.tokens with
  | .anchor name :: .tag handle suffix :: rest | .tag handle suffix :: .anchor name :: rest =>
      (address handles handle suffix).map fun tag => (⟨name, tag⟩, { r with tokens := rest })
  | .anchor name :: rest => .ok (⟨name, none⟩, { r with tokens := rest })
  | .tag handle suffix :: rest =>
      (address handles handle suffix).map fun tag => (⟨none, tag⟩, { r with tokens := rest })
  | _ => .ok (⟨none, none⟩, r)

/-! ## Trees -/

mutual

/-- A node. Block collections stand only in block context, and a sequence without indentation of
its own only as a key or value of a block mapping. -/
def read (handles : Handles) (block indentless : Bool) : (fuel : Nat) → Reads Node
  | 0, r => .error r.unexpected
  | fuel + 1, r =>
      match r.tokens with
      | .alias name :: _ => do
          let (found, r) ← r.named name
          .ok (found, r.skip)
      | _ => do
          let (given, r) ← properties handles r
          let r ← r.openAnchor given.anchor
          let (found, r) ← content handles block indentless fuel given r
          .ok (r.closeAnchor given.anchor found)

/-- A node after its name and tag. -/
def content (handles : Handles) (block indentless : Bool) :
    (fuel : Nat) → Properties → Reads Node
  | 0, _, r => .error r.unexpected
  | fuel + 1, given, r => do
      let sequence := collectionTag .seq given.tag
      let mapping := collectionTag .map given.tag
      match r.tokens, block with
      | .scalar text plain :: _, _ => .ok (.scalar (scalarTag plain text given.tag) text, r.skip)
      | .flowSequenceStart :: _, _ =>
          let (items, r) ← flowItems handles true fuel r.skip
          .ok (.sequence sequence items, r)
      | .flowMappingStart :: _, _ =>
          let (entries, r) ← flowEntries handles true fuel r.skip
          .ok (.mapping mapping entries, r)
      | .blockSequenceStart :: _, true =>
          let (items, r) ← blockItems handles fuel r.skip
          .ok (.sequence sequence items, r)
      | .blockMappingStart :: _, true =>
          let (entries, r) ← blockEntries handles fuel r.skip
          .ok (.mapping mapping entries, r)
      | _, _ =>
          if indentless && r.nextIs [.blockEntry] then
            let (items, r) ← indentlessItems handles fuel r
            .ok (.sequence sequence items, r)
          else if given.anchor.isSome || given.tag.isSome then
            .ok (.scalar (scalarTag true "" given.tag) "", r)
          else .error r.unexpected

/-- A node, or the empty one before certain tokens. -/
def readUnless (stops : List Token) (handles : Handles) (block indentless : Bool) :
    (fuel : Nat) → Reads Node
  | 0, r => .error r.unexpected
  | fuel + 1, r =>
      if r.nextIs stops then .ok (.empty, r) else read handles block indentless fuel r

/-- The items of a block sequence. -/
def blockItems (handles : Handles) : (fuel : Nat) → Reads (List Node)
  | 0, r => .error r.unexpected
  | fuel + 1, r => do
      if r.nextIs [.blockEntry] then
        let (item, r) ← readUnless [.blockEntry, .blockEnd] handles true false fuel r.skip
        let (items, r) ← blockItems handles fuel r
        .ok (item :: items, r)
      else if r.nextIs [.blockEnd] then .ok ([], r.skip)
      else .error r.unexpected

/-- The items of a block sequence without indentation. -/
def indentlessItems (handles : Handles) : (fuel : Nat) → Reads (List Node)
  | 0, r => .error r.unexpected
  | fuel + 1, r => do
      if r.nextIs [.blockEntry] then
        let (item, r) ←
          readUnless [.blockEntry, .key, .value, .blockEnd] handles true false fuel r.skip
        let (items, r) ← indentlessItems handles fuel r
        .ok (item :: items, r)
      else .ok ([], r)

/-- A node after an indicator, or the empty one when the indicator is missing. -/
def readAfter (indicator : Token) (stops : List Token) (handles : Handles)
    (block indentless : Bool) : (fuel : Nat) → Reads Node
  | 0, r => .error r.unexpected
  | fuel + 1, r =>
      if r.nextIs [indicator] then readUnless stops handles block indentless fuel r.skip
      else .ok (.empty, r)

/-- The entries of a block mapping. -/
def blockEntries (handles : Handles) : (fuel : Nat) → Reads (List (Node × Node))
  | 0, r => .error r.unexpected
  | fuel + 1, r => do
      if r.nextIs [.key] then
        let stops := [.key, .value, .blockEnd]
        let (key, r) ← readAfter .key stops handles true true fuel r
        let (value, r) ← readAfter .value stops handles true true fuel r
        let (entries, r) ← blockEntries handles fuel r
        .ok ((key, value) :: entries, r)
      else if r.nextIs [.blockEnd] then .ok ([], r.skip)
      else .error r.unexpected

/-- The items of a flow sequence. A key in it makes a mapping of one entry. -/
def flowItems (handles : Handles) (first : Bool) : (fuel : Nat) → Reads (List Node)
  | 0, r => .error r.unexpected
  | fuel + 1, r => do
      if r.nextIs [.flowSequenceEnd] then .ok ([], r.skip)
      else if !first && !r.nextIs [.flowEntry] then .error r.unexpected
      else
        let r := if first then r else r.skip
        if r.nextIs [.flowSequenceEnd] then .ok ([], r.skip)
        else if r.nextIs [.key] then
          let stops := [.flowEntry, .flowSequenceEnd]
          let (key, r) ← readAfter .key (.value :: stops) handles false false fuel r
          let (value, r) ← readAfter .value stops handles false false fuel r
          let (items, r) ← flowItems handles false fuel r
          .ok (.mapping (some .map) [(key, value)] :: items, r)
        else
          let (item, r) ← read handles false false fuel r
          let (items, r) ← flowItems handles false fuel r
          .ok (item :: items, r)

/-- The entries of a flow mapping. -/
def flowEntries (handles : Handles) (first : Bool) : (fuel : Nat) → Reads (List (Node × Node))
  | 0, r => .error r.unexpected
  | fuel + 1, r => do
      if r.nextIs [.flowMappingEnd] then .ok ([], r.skip)
      else if !first && !r.nextIs [.flowEntry] then .error r.unexpected
      else
        let r := if first then r else r.skip
        if r.nextIs [.flowMappingEnd] then .ok ([], r.skip)
        else
          let stops := [.flowEntry, .flowMappingEnd]
          let keyed := r.nextIs [.key]
          let (key, r) ←
            if keyed then readAfter .key (.value :: stops) handles false false fuel r
            else read handles false false fuel r
          let (value, r) ←
            if keyed then readAfter .value stops handles false false fuel r else .ok (.empty, r)
          let (entries, r) ← flowEntries handles false fuel r
          .ok ((key, value) :: entries, r)

end

/-! ## Documents -/

/-- The handles that the directives in front of a document define, and the tokens after them. -/
def directives (versioned : Bool) (handles : Handles) :
    List Token → Except YamlFault (Handles × List Token)
  | .versionDirective major _ :: rest =>
      if versioned then refuse "a version is given twice"
      else if major ≠ 1 then refuse "the version is not supported"
      else directives true handles rest
  | .tagDirective handle lead :: rest =>
      if handles.any (·.1 = handle) then refuse "a tag handle is defined twice"
      else directives versioned (handles ++ [(handle, lead)]) rest
  | .otherDirective :: rest => directives versioned handles rest
  | rest => .ok (handles ++ standardHandles, rest)

/-- Whether a token begins a document explicitly, or there is none. -/
def startsExplicitly : Token → Bool
  | .versionDirective .. | .tagDirective .. | .otherDirective | .documentStart | .streamEnd => true
  | _ => false

/-- Whether the content of an explicit document is missing before a token. -/
def endsContent : Token → Bool
  | .documentEnd => true
  | token => startsExplicitly token

/-- The node of a document, which may be missing. -/
def documentNode (fuel : Nat) (tokens : List Token) : Except YamlFault (Node × List Token) := do
  if tokens.head?.any startsExplicitly then
    let (handles, tokens) ← directives false [] tokens
    let r : Reading := ⟨tokens, [], []⟩
    if !r.nextIs [.documentStart] then .error r.unexpected
    else if r.skip.tokens.head?.any endsContent then .ok (.empty, r.skip.tokens)
    else
      let (found, r) ← read handles true false fuel r.skip
      .ok (found, r.tokens)
  else
    let (found, r) ← read standardHandles true false fuel ⟨tokens, [], []⟩
    .ok (found, r.tokens)

/-- The node of a stream; a stream without a document has none. -/
def ofTokens (tokens : List Token) : Except YamlFault (Option Node) := do
  if tokens.head? = some .streamEnd then .ok none
  else
    let (found, rest) ← documentNode (6 * tokens.length + 6) tokens
    match rest.dropWhile (· = .documentEnd) with
    | [.streamEnd] => .ok (some found)
    | .broken fault :: _ => .error fault
    | _ => refuse "more than one document"

end Node

end ClientGen.Yaml

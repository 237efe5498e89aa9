import ClientGen.Template.Traversal

/-!
# Members and items

What a point or brackets after a value mean: a member of the value, an item of it, or a part of a
sequence. What is not there is a datum of its own.
-/

namespace ClientGen.Template

namespace Datum

/-! ## Names of members -/

/-- The operations of texts. -/
def textMethods : List String :=
  ["capitalize", "casefold", "center", "count", "encode", "endswith", "expandtabs", "find",
    "format", "format_map", "index", "isalnum", "isalpha", "isascii", "isdecimal", "isdigit",
    "isidentifier", "islower", "isnumeric", "isprintable", "isspace", "istitle", "isupper", "join",
    "ljust", "lower", "lstrip", "maketrans", "partition", "removeprefix", "removesuffix",
    "replace", "rfind", "rindex", "rjust", "rpartition", "rsplit", "rstrip", "split", "splitlines",
    "startswith", "strip", "swapcase", "title", "translate", "upper", "zfill"]

/-- The further operations of marked texts. -/
def markupMethods : List String := ["escape", "format", "striptags", "unescape"]

/-- The operations of octets. -/
def octetMethods : List String :=
  ["capitalize", "center", "count", "decode", "endswith", "expandtabs", "find", "hex", "index",
    "isalnum", "isalpha", "isascii", "isdigit", "islower", "isspace", "istitle", "isupper", "join",
    "ljust", "lower", "lstrip", "partition", "removeprefix", "removesuffix", "replace", "rfind",
    "rindex", "rjust", "rpartition", "rsplit", "rstrip", "split", "splitlines", "startswith",
    "strip", "swapcase", "title", "upper", "zfill"]

/-- The operations of lists. -/
def listMethods : List String :=
  ["append", "clear", "copy", "count", "extend", "index", "insert", "pop", "remove", "reverse",
    "sort"]

/-- The operations of mappings. -/
def mapMethods : List String :=
  ["clear", "copy", "fromkeys", "get", "items", "keys", "pop", "popitem", "setdefault", "update",
    "values"]

/-- The operations of sets. -/
def setMethods : List String :=
  ["add", "clear", "copy", "difference", "difference_update", "discard", "intersection",
    "intersection_update", "isdisjoint", "issubset", "issuperset", "pop", "remove",
    "symmetric_difference", "symmetric_difference_update", "union", "update"]

/-- The operations of integers. -/
def intMethods : List String :=
  ["as_integer_ratio", "bit_count", "bit_length", "conjugate", "to_bytes"]

/-- The operations of floating-point numbers. -/
def floatMethods : List String := ["as_integer_ratio", "conjugate", "hex", "is_integer"]

/-- The operations of days, which moments have, too. -/
def dayMethods : List String :=
  ["ctime", "isocalendar", "isoformat", "isoweekday", "replace", "strftime", "timetuple",
    "toordinal", "weekday"]

/-- The further operations of moments. -/
def momentMethods : List String :=
  ["astimezone", "date", "dst", "time", "timestamp", "timetz", "tzname", "utcoffset",
    "utctimetuple"]

/-- The operations of type nodes. -/
def nodeMethods : List String :=
  ["copy", "dict", "json", "model_copy", "model_dump", "model_dump_json"]

/-- The operations that data of several kinds have under names with underscores. -/
def sharedMethods : List String :=
  ["__contains__", "__eq__", "__getitem__", "__iter__", "__len__", "__repr__", "__str__"]

/-- The names of views with the kinds of values that they show. -/
def viewType : View → String := viewName

end Datum

namespace Run

open Datum hiding none

/-! ## Classes -/

/-- The name of a datum's class. -/
def typeName (datum : Datum) : Run String := do
  match datum with
  | .undefined _ => pure "Undefined"
  | .none => pure "NoneType"
  | .bool _ => pure "bool"
  | .int _ => pure "int"
  | .float _ => pure "float"
  | .complex _ => pure "complex"
  | .text _ => pure "str"
  | .markup _ => pure "Markup"
  | .scalarKind _ => pure "PrimitiveKind"
  | .bytes _ => pure "bytes"
  | .day _ => pure "date"
  | .moment _ => pure "datetime"
  | .span _ => pure "timedelta"
  | .zone _ => pure "timezone"
  | .tuple _ => pure "tuple"
  | .group .. => pure "_GroupTuple"
  | .range .. => pure "range"
  | .bounds .. => pure "slice"
  | .list _ => pure "list"
  | .map _ => pure "dict"
  | .set _ => pure "set"
  | .view kind _ => pure (viewType kind)
  | .node place => do pure (← fieldsAt place).1
  | .stream _ => pure "generator"
  | .space _ => pure "Namespace"
  | .cycler _ => pure "Cycler"
  | .joiner _ => pure "Joiner"
  | .procedure _ => pure "Macro"
  | .loop _ => pure "LoopContext"
  | .loaded _ => pure "TemplateModule"
  | .current _ => pure "TemplateReference"
  | .block .. => pure "BlockReference"
  | .method .. => pure "builtin_function_or_method"
  | .function _ | .type _ => pure "type"

/-! ## Members -/

/-- One of some operations of a datum. -/
def methodOf (names : List String) (datum : Datum) (name : String) : Option Datum :=
  if names.contains name then some (.method datum name) else none

/-- A member of a day. -/
def dayMember? (d : Day) (name : String) : Option Datum :=
  match name with
  | "year" => some (.int d.year)
  | "month" => some (.int d.month)
  | "day" => some (.int d.day)
  | _ => none

/-- A member of a moment. -/
def momentMember? (m : Moment) (name : String) : Option Datum :=
  match name with
  | "hour" => some (.int m.hour)
  | "minute" => some (.int m.minute)
  | "second" => some (.int m.second)
  | "microsecond" => some (.int m.micro)
  | "fold" => some (.int 0)
  | "tzinfo" => some ((m.offset.map .zone).getD .none)
  | _ => dayMember? m.day name

/-- A member of the state of a loop. -/
def loopMember? (machine : Machine) (place : Place) (name : String) : Run (Option Datum) := do
  let state ← loopAt place
  match name with
  | "index" => pure (some (.int (state.position + 1)))
  | "index0" => pure (some (.int state.position))
  | "first" => pure (some (.bool (state.position == 0)))
  | "last" => do pure (some (.bool (← peek machine place).isNone))
  | "length" => do pure (some (.int (← loopLength machine place)))
  | "revindex" => do pure (some (.int ((← loopLength machine place) - state.position)))
  | "revindex0" => do pure (some (.int ((← loopLength machine place) - state.position - 1)))
  | "depth" => pure (some (.int (state.depth + 1)))
  | "depth0" => pure (some (.int state.depth))
  | "previtem" =>
      pure (some (if state.position == 0 then .undefined "the item before"
        else state.before.getD (.undefined "the item before")))
  | "nextitem" => do pure (some ((← peek machine place).getD (.undefined "the item after")))
  | "cycle" | "changed" => pure (some (.method (.loop place) name))
  | _ => pure none

/-- A member of a procedure. -/
def routineMember? (routine : Routine Instruction) (name : String) : Option Datum :=
  match name with
  | "name" => some (.ofOptional routine.name)
  | "arguments" => some (.tuple (routine.receivers.map fun receiver => .text receiver.name))
  | "catch_kwargs" => some (.bool routine.further.isSome)
  | "catch_varargs" => some (.bool routine.rest.isSome)
  | "caller" => some (.bool routine.caller.isSome)
  | "explicit_caller" =>
      some (.bool (routine.receivers.any fun receiver => receiver.name == "caller"))
  | _ => none

/-- A member that a datum has by its kind. -/
def ownMember? (machine : Machine) (datum : Datum) (name : String) : Run (Option Datum) := do
  match datum with
  | .text _ => pure (methodOf textMethods datum name)
  | .markup _ => pure (methodOf (textMethods ++ markupMethods) datum name)
  | .scalarKind kind =>
      match name with
      | "value" => pure (some (.text kind.name))
      | "name" => pure (some (.text (Text.upperString kind.name)))
      | _ => pure (methodOf textMethods datum name)
  | .bool _ | .int _ =>
      match name, datum.int? with
      | "real", some n | "numerator", some n => pure (some (.int n))
      | "imag", _ => pure (some (.int 0))
      | "denominator", _ => pure (some (.int 1))
      | _, _ => pure (methodOf intMethods datum name)
  | .float x =>
      match name with
      | "real" => pure (some (.float x))
      | "imag" => pure (some (.float (.zero false)))
      | _ => pure (methodOf floatMethods datum name)
  | .complex z =>
      match name with
      | "real" => pure (some (.float z.real))
      | "imag" => pure (some (.float z.imaginary))
      | _ => pure (methodOf ["conjugate"] datum name)
  | .bytes _ => pure (methodOf octetMethods datum name)
  | .day d => pure ((dayMember? d name).orElse fun _ => methodOf dayMethods datum name)
  | .moment m =>
      pure ((momentMember? m name).orElse fun _ =>
        methodOf (dayMethods ++ momentMethods) datum name)
  | .span micro =>
      match name with
      | "days" => pure (some (.int (Int.fdiv micro 86400000000)))
      | "seconds" => pure (some (.int (Int.fmod micro 86400000000 / 1000000)))
      | "microseconds" => pure (some (.int (Int.fmod micro 1000000)))
      | _ => pure (methodOf ["total_seconds"] datum name)
  | .zone _ => pure (methodOf ["tzname", "utcoffset"] datum name)
  | .tuple _ => pure (methodOf ["count", "index"] datum name)
  | .group key items =>
      match name with
      | "grouper" => pure (some key)
      | "list" => pure (some items)
      | _ => pure (methodOf ["count", "index"] datum name)
  | .range start stop step =>
      match name with
      | "start" => pure (some (.int start))
      | "stop" => pure (some (.int stop))
      | "step" => pure (some (.int step))
      | _ => pure (methodOf ["count", "index"] datum name)
  | .bounds start stop step =>
      match name with
      | "start" => pure (some start)
      | "stop" => pure (some stop)
      | "step" => pure (some step)
      | _ => pure none
  | .list _ => pure (methodOf listMethods datum name)
  | .map _ => pure (methodOf mapMethods datum name)
  | .set _ => pure (methodOf setMethods datum name)
  | .view _ place =>
      match name with
      | "mapping" => pure (some (.map place))
      | _ => pure (methodOf ["isdisjoint"] datum name)
  | .node place => do
      let (_, fields) ← fieldsAt place
      match named name fields with
      | some value => pure (some value)
      | .none => do
          if name = "__dict__" then pure (some (← newRecord fields))
          else pure (methodOf nodeMethods datum name)
  | .stream _ => pure (methodOf ["__next__", "close", "send"] datum name)
  | .space place => do
      match ← read place with
      | .space entries => lookup? (.text name) entries
      | _ => pure none
  | .cycler place => do
      match ← read place, name with
      | .cycler items _, "items" => pure (some (.tuple items))
      | .cycler _ position, "pos" => pure (some (.int position))
      | .cycler items position, "current" => pure items[position]?
      | _, _ => pure (methodOf ["__next__", "next", "reset"] datum name)
  | .joiner place => do
      match ← read place, name with
      | .joiner separator _, "sep" => pure (some separator)
      | .joiner _ isUsed, "used" => pure (some (.bool isUsed))
      | _, _ => pure none
  | .procedure place => do
      match ← read place with
      | .procedure routine _ => pure (routineMember? routine name)
      | _ => pure none
  | .loop place => loopMember? machine place name
  | .loaded place => do
      match ← read place, name with
      | .loaded template _, "__name__" => pure (some (.text template))
      | _, _ => pure none
  | .block name' _ =>
      match name with
      | "name" => pure (some (.text name'))
      | "super" => pure (some (.undefined "the part that this one replaces"))
      | _ => pure none
  | .function found | .type found | .method _ found =>
      match datum, name with
      | _, "__name__" => pure (some (.text found))
      | .function "dict", "fromkeys" | .type "dict", "fromkeys" =>
          pure (some (.method datum "fromkeys"))
      | _, _ => pure none
  | _ => pure none

/-- Whether a datum has one of the operations under names with underscores. -/
def hasShared (datum : Datum) (name : String) : Run Bool := do
  match name with
  | "__repr__" | "__str__" | "__eq__" => pure true
  | "__len__" => do pure (← knownSize? datum).isSome
  | "__getitem__" =>
      match datum with
      | .list _ | .map _ | .tuple _ | .group .. | .range .. | .bytes _ => pure true
      | _ => pure datum.isText
  | "__contains__" =>
      match datum with
      | .undefined _ => pure false
      | .view .values _ => pure false
      | _ => do pure (← knownSize? datum).isSome
  | "__iter__" =>
      match datum with
      | .stream _ | .node _ | .loop _ => pure true
      | _ => do pure (← knownSize? datum).isSome
  | _ => pure false

/-- A member of a datum, if it has it. A value that is not there has none, and must not be asked. -/
def attribute? (machine : Machine) (datum : Datum) (name : String) : Run (Option Datum) := do
  if name = "__class__" then pure (some (.type (← typeName datum)))
  else if ← hasShared datum name then pure (some (.method datum name))
  else
    match datum with
    | .undefined what => if name.startsWith "__" then pure none else missing what
    | _ => ownMember? machine datum name

/-! ## Items -/

/-- The positions of the items of a part of a sequence. -/
def partPositions (start stop : Option Int) (step : Int) (size : Nat) : List Nat :=
  let count : Int := size
  let inside (low high n : Int) : Int :=
    let n := if n < 0 then n + count else n
    if n < low then low else if high < n then high else n
  let (first, last) :=
    if 0 < step then
      ((start.map (inside 0 count)).getD 0, (stop.map (inside 0 count)).getD count)
    else
      ((start.map (inside (-1) (count - 1))).getD (count - 1),
        (stop.map (inside (-1) (count - 1))).getD (-1))
  (List.range (rangeSize first last step)).map fun (i : Nat) => (first + step * (i : Int)).toNat

/-- The items at some positions. -/
def pick {α : Type} (items : Array α) (positions : List Nat) : List α :=
  positions.filterMap fun position => items[position]?

/-- A bound of a part: an integer or nothing. -/
def boundOf (datum : Datum) : Run (Option Int) :=
  match datum, datum.int? with
  | .none, _ => pure none
  | _, some n => pure (some n)
  | _, .none => unsupported

/-- The bounds and the step of a part. -/
def boundsOf (start stop step : Datum) : Run (Option Int × Option Int × Int) := do
  let step ← boundOf step
  if step = some 0 then fault .badValue
  else
    let start ← boundOf start
    pure (start, ← boundOf stop, step.getD 1)

/-- A part of a range, which is a range again. -/
def rangePart (start stop step : Int) (bounds : Option Int × Option Int × Int) : Datum :=
  let count : Int := rangeSize start stop step
  let (first, last, pace) := bounds
  let inside (low high n : Int) : Int :=
    let n := if n < 0 then n + count else n
    if n < low then low else if high < n then high else n
  let (first, last) :=
    if 0 < pace then
      ((first.map (inside 0 count)).getD 0, (last.map (inside 0 count)).getD count)
    else
      ((first.map (inside (-1) (count - 1))).getD (count - 1),
        (last.map (inside (-1) (count - 1))).getD (-1))
  .range (start + first * step) (start + last * step) (step * pace)

/-- A part of a datum. -/
def partOf (datum start stop step : Datum) : Run Datum := do
  match datum, datum.text? with
  | .undefined what, _ => missing what
  | _, some s => do
      let (first, last, pace) ← boundsOf start stop step
      let chars := s.toList.toArray
      pure (datum.likeText (pick chars (partPositions first last pace chars.size)))
  | .list place, _ => do
      let items ← listAt place
      let (first, last, pace) ← boundsOf start stop step
      newList (pick items (partPositions first last pace items.size))
  | .tuple items, _ => do
      let (first, last, pace) ← boundsOf start stop step
      pure (.tuple (pick items.toArray (partPositions first last pace items.length)))
  | .group key items, _ => do
      let (first, last, pace) ← boundsOf start stop step
      pure (.tuple (pick #[key, items] (partPositions first last pace 2)))
  | .bytes octets, _ => do
      let (first, last, pace) ← boundsOf start stop step
      pure (.bytes (pick octets.toArray (partPositions first last pace octets.length)))
  | .range a b c, _ => do pure (rangePart a b c (← boundsOf start stop step))
  | _, _ => unsupported

/-- The item at a position; a negative one counts from the end. -/
def at? {α : Type} (items : List α) (position : Int) : Option α :=
  let place := if position < 0 then position + items.length else position
  if place < 0 then none else items[place.toNat]?

/-- The item at a position of a sequence. -/
def itemAt {α : Type} (items : List α) (key : Datum) : Run α := do
  match key.int? with
  | some n => orFault .missingPosition (at? items n)
  | .none => unsupported

/-- The item of a key; a fault says that there is none. -/
def strictItem (datum key : Datum) : Run Datum := do
  match datum, key with
  | .undefined what, _ => missing what
  | _, .bounds start stop step => partOf datum start stop step
  | .list place, _ => do
      let items ← listAt place
      match key.int? with
      | some n =>
          let place := if n < 0 then n + items.size else n
          if place < 0 then fault .missingPosition
          else orFault .missingPosition items[place.toNat]?
      | .none => unsupported
  | .tuple items, _ => itemAt items key
  | .group first second, _ => itemAt [first, second] key
  | .range start stop step, _ => do
      match key.int? with
      | some n =>
          let count := rangeSize start stop step
          let place := if n < 0 then n + count else n
          if place < 0 || (count : Int) ≤ place then fault .missingPosition
          else pure (.int (start + step * place))
      | .none => unsupported
  | .bytes octets, _ => do pure (.int (← itemAt octets key).toNat)
  | .map place, _ => do orFault .missingKey (← lookup? key (← entriesAt place))
  | .current context, .text name => do
      if (← blocksOf context).any (·.name == name) then pure (.block name context)
      else fault .missingKey
  | .current _, _ => fault .missingKey
  | _, _ =>
      match datum.text? with
      | some s => do
          let c ← itemAt s.toList key
          pure (datum.likeText [c])
      | .none => unsupported

/-- The faults that say that something is not there. -/
def saysAbsent (fault : Fault) : Bool :=
  fault == .badKind || fault == .missingMember || fault == .missingKey || fault == .missingPosition

/-- The member of a name, or else the item of that key, or else a value that is not there. -/
def memberOf (machine : Machine) (datum : Datum) (name : String) : Run Datum := do
  match ← attribute? machine datum name with
  | some found => pure found
  | .none => rescue (strictItem datum (.text name)) saysAbsent (pure (.undefined name))

/-- The item of a key, or else the member of that name, or else a value that is not there. -/
def itemOf (machine : Machine) (datum key : Datum) : Run Datum :=
  rescue (strictItem datum key) saysAbsent do
    match key.text? with
    | some name => do pure ((← attribute? machine datum name).getD (.undefined name))
    | .none => pure (.undefined "an item")

/-! ## Ways of keys -/

/-- The key that a part of a way stands for: digits stand for a position. -/
def wayKey (part : List Char) : Datum :=
  if !part.isEmpty && part.all Text.isAnyDigit then
    match Numeral.int? 10 part with
    | some n => .int n
    | .none => .text (String.ofList part)
  else .text (String.ofList part)

/-- The keys of a way: a text with points between them, or a single key. -/
def wayOf (way : Datum) : List Datum :=
  match way, way.text? with
  | .none, _ => []
  | _, some s => (Text.splitOn '.' s.toList).map wayKey
  | other, .none => [other]

/-- The value that a way leads to. A value on the way that is not there is replaced by a default,
unless that is absent. -/
def follow (machine : Machine) (default : Datum) : List Datum → Datum → Run Datum
  | [], datum => pure datum
  | key :: rest, datum => do
      let found ← itemOf machine datum key
      let replaced := if found.isUndefined then
          match default with
          | .none => found
          | other => other
        else found
      follow machine default rest replaced

/-- Text without regard to case; other data stay. -/
def ignoringCase (isCaseSensitive : Bool) (datum : Datum) : Datum :=
  match isCaseSensitive, datum.text? with
  | false, some s => .text (String.ofList (Text.lower s.toList))
  | _, _ => datum

end Run

end ClientGen.Template

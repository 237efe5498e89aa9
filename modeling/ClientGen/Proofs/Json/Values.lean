import ClientGen.Api.Encoding
import ClientGen.Proofs.Json.Lexeme
import ClientGen.Proofs.TypeScript.Expressible
import ClientGen.Proofs.Value.Entries
import ClientGen.Proofs.Value.Pointers

/-!
# Values of JSON documents

The values that JSON has: constants, numbers, texts, sequences, and mappings with texts for keys.
Whatever is read from a JSON text is such a value. It is written in JSON as itself unless there is a
number without a finite value in it.
-/

namespace ClientGen

namespace Json

/-! ## Values -/

/-- A value of a kind that JSON has. -/
def HasKind : Value → Prop
  | .null | .bool _ | .int _ | .float _ | .text _ | .list _ => True
  | .map entries => Value.IsNamed entries
  | _ => False

/-- A value that JSON has, with all its parts. -/
def IsValue (value : Value) : Prop := Throughout parts HasKind value

/-- Anything but a number without a finite value. -/
def HasSize : Value → Prop
  | .float x => x.isFinite = true
  | _ => True

instance : DecidablePred HasSize
  | .float x => inferInstanceAs (Decidable (x.isFinite = true))
  | .null | .bool _ | .int _ | .text _ | .bytes _ | .day _ | .moment _ | .pair _ _ | .list _
  | .set _ | .map _ | .recurring _ => .isTrue trivial

/-- A value without infinities and numbers that are none. -/
def IsFinite (value : Value) : Prop := Throughout parts HasSize value

variable {text rest : List Char} {items : List Value} {entries : List (Value × Value)}

theorem isValue_list (each : ∀ item ∈ items, IsValue item) : IsValue (.list items) :=
  throughout_iff.mpr ⟨trivial, each⟩

theorem isValue_map (named : Value.IsNamed entries) (each : ∀ entry ∈ entries, IsValue entry.2) :
    IsValue (.map entries) :=
  throughout_iff.mpr ⟨named, List.forall_mem_map.mpr each⟩

/-- A value without parts. -/
theorem isValue_of_parts {value : Value} (kind : HasKind value) (single : parts value = []) :
    IsValue value := by
  refine throughout_iff.mpr ⟨kind, ?_⟩
  rw [single]
  exact nofun

/-! ## Reading -/

theorem isValue_of_word {letters : List Char} {value : Value} (word : Word letters value) :
    IsValue value := by
  cases word with
  | constant known =>
      have each : ∀ constant ∈ constants, HasKind constant.2 ∧ parts constant.2 = [] := by
        simp [constants, HasKind, parts]
      exact isValue_of_parts (each _ known).1 (each _ known).2
  | integer => exact isValue_of_parts trivial rfl
  | float => exact isValue_of_parts trivial rfl

/-- A member with a text for its name. -/
def IsMember (entry : Value × Value) : Prop :=
  (∃ name, entry.1 = .text name) ∧ IsValue entry.2

/-- A computation that gives no result but of one kind. -/
abbrev Gives {α : Type} (results : α → Prop) (result : Except Fault (α × List Char)) : Prop :=
  Yields (fun found => results found.1) (fun _ => True) result

theorem gives_any {α : Type} (result : Except Fault (α × List Char)) :
    Gives (fun _ => True) result := ⟨fun _ _ => trivial, fun _ _ => trivial⟩

-- The induction is on the fuel, and goes through values, items and members at once.
mutual

theorem gives_value : ∀ fuel (text : List Char), Gives IsValue (value fuel text)
  | 0, text => by
      rw [value]
      exact yields_error trivial
  | fuel + 1, text => by
      rw [value.eq_def]
      split
      · next none => cases none
      · exact Yields.map (gives_any _) fun _ _ => isValue_of_parts trivial rfl
      · next same =>
          obtain rfl := Nat.succ.inj same
          split
          · exact yields_ok (isValue_list nofun)
          · exact Yields.map (gives_items fuel _) fun _ each => isValue_list each
      · next same =>
          obtain rfl := Nat.succ.inj same
          split
          · exact yields_ok (isValue_map Value.isNamed_nil nofun)
          · refine Yields.map (gives_members fuel _) fun _ each => ?_
            exact isValue_map (Value.isNamed_ofEntries fun entry member => (each entry member).1)
              (Value.forall_mem_ofEntries fun entry member => (each entry member).2)
      · refine ⟨fun found read => ?_, fun _ _ => trivial⟩
        obtain ⟨_, _, word⟩ := word_of_plain read
        exact isValue_of_word word

theorem gives_items : ∀ fuel (text : List Char),
    Gives (fun list => ∀ item ∈ list, IsValue item) (Json.items fuel text)
  | 0, text => by
      rw [Json.items]
      exact yields_error trivial
  | fuel + 1, text => by
      rw [Json.items]
      refine Yields.bind (gives_value fuel text) ?_
      rintro ⟨first, rest⟩ here
      dsimp only
      split
      · exact yields_ok (List.forall_mem_singleton.mpr here)
      · exact Yields.map (gives_items fuel _) fun _ there => List.forall_mem_cons.mpr ⟨here, there⟩
      · exact yields_error trivial

theorem gives_members : ∀ fuel (text : List Char),
    Gives (fun list => ∀ entry ∈ list, IsMember entry) (members fuel text)
  | 0, text => by
      rw [members]
      exact yields_error trivial
  | fuel + 1, text => by
      rw [members.eq_def]
      split
      · next none => cases none
      · next same =>
          obtain rfl := Nat.succ.inj same
          refine Yields.bind (gives_any _) ?_
          rintro ⟨name, rest⟩ _
          dsimp only
          split
          · refine Yields.bind (gives_value fuel _) ?_
            rintro ⟨first, rest⟩ here
            have member : IsMember (.text name, first) := ⟨⟨name, rfl⟩, here⟩
            dsimp only
            split
            · exact yields_ok (List.forall_mem_singleton.mpr member)
            · exact Yields.map (gives_members fuel _)
                fun _ there => List.forall_mem_cons.mpr ⟨member, there⟩
            · exact yields_error trivial
          · exact yields_error trivial
      · exact yields_error trivial

end

/-- Whatever is read from a JSON text is a value that JSON has. -/
theorem isValue_of_read {document : Value} (read : Json.read text = .ok document) :
    IsValue document := by
  rw [Json.read.eq_def] at read
  split at read
  · cases read
  · obtain ⟨⟨found, rest⟩, done, read⟩ := bind_eq_ok.mp read
    dsimp only at read
    split at read
    · obtain rfl := Except.ok.inj read
      exact (gives_value _ _).result _ done
    · cases read

/-! ## Writing -/

theorem toJsonItems_eq_self (each : ∀ item ∈ items, item.toJson = .ok item) :
    Value.toJsonItems items = .ok items := by
  induction items with
  | nil => rfl
  | cons item rest ih =>
      obtain ⟨here, there⟩ := List.forall_mem_cons.mp each
      rw [Value.toJsonItems, here, ih there]
      rfl

theorem toJsonEntries_eq_self (text : ∀ entry ∈ entries, ∃ name, entry.1 = .text name)
    (each : ∀ entry ∈ entries, entry.2.toJson = .ok entry.2) :
    Value.toJsonEntries entries = .ok entries := by
  induction entries with
  | nil => rfl
  | cons entry rest ih =>
      obtain ⟨key, value⟩ := entry
      obtain ⟨⟨name, rfl⟩, names⟩ := List.forall_mem_cons.mp text
      obtain ⟨here, there⟩ := List.forall_mem_cons.mp each
      rw [Value.toJsonEntries, here, ih names there]
      rfl

/-- A value of such a kind is its own JSON form if its parts are theirs. -/
theorem toJson_eq_of_parts {value : Value} (kind : HasKind value) (size : HasSize value)
    (inside : ∀ part ∈ parts value, part.toJson = .ok part) : value.toJson = .ok value := by
  cases value with
  | null => rfl
  | bool b => rfl
  | int n => rfl
  | text s => rfl
  | float x => rw [Value.toJson, if_pos (show x.isFinite = true from size)]
  | list items =>
      have written : Value.toJsonItems items = .ok items := toJsonItems_eq_self inside
      rw [Value.toJson, written]
      rfl
  | map entries =>
      rw [Value.toJson, toJsonEntries_eq_self kind.text (List.forall_mem_map.mp inside)]
      exact congrArg (fun list => Except.ok (Value.map list)) (Value.ofEntries_of_isNamed kind)
  | _ => exact kind.elim

/-- A value that JSON has, without infinities and numbers that are none. -/
def IsOwnForm (value : Value) : Prop :=
  Throughout parts (fun part => HasKind part ∧ HasSize part) value

theorem isOwnForm_of_read {document : Value} (read : Json.read text = .ok document)
    (finite : IsFinite document) : IsOwnForm document :=
  fun part inside => ⟨isValue_of_read read part inside, finite part inside⟩

/-- Such a value is its own JSON form. -/
theorem toJson_eq_self {value : Value} (own : IsOwnForm value) : value.toJson = .ok value :=
  toJson_eq_of_parts (throughout_iff.mp own).1.1 (throughout_iff.mp own).1.2
    fun part member => toJson_eq_self ((throughout_iff.mp own).2 part member)
termination_by sizeOf value
decreasing_by exact sizeOf_lt_of_mem_parts ‹_›

/-! ## Looking into values -/

namespace IsOwnForm

theorem item (own : IsOwnForm (.list items)) : ∀ item ∈ items, IsOwnForm item :=
  (throughout_iff.mp own).2

theorem entry (own : IsOwnForm (.map entries)) : ∀ entry ∈ entries, IsOwnForm entry.2 :=
  fun _ member => (throughout_iff.mp own).2 _ (List.mem_map_of_mem member)

variable {value field : Value} {name : String}

/-- Nothing in such a value is inside of itself. -/
theorem opened (own : IsOwnForm value) : value.opened = value := by
  cases value with
  | recurring content => exact (throughout_iff.mp own).1.1.elim
  | _ => rfl

theorem fieldOf (own : IsOwnForm (.map entries)) (found : Value.fieldOf name entries = some value) :
    IsOwnForm value := own.entry _ (Value.mem_of_fieldOf found)

theorem field? (own : IsOwnForm value) (found : value.field? name = some field) :
    IsOwnForm field := by
  cases value with
  | map entries =>
      obtain ⟨held, inside, rfl⟩ := Option.map_eq_some_iff.mp found
      have part := own.fieldOf inside
      rwa [part.opened]
  | _ => cases found

theorem items? (own : IsOwnForm value) (found : value.items? = some items) :
    ∀ item ∈ items, IsOwnForm item := by
  cases value with
  | list held =>
      obtain rfl := Option.some.inj found
      refine List.forall_mem_map.mpr fun item member => ?_
      have part := own.item item member
      rwa [part.opened]
  | _ => cases found

theorem entries? (own : IsOwnForm value) (found : value.entries? = some entries) :
    ∀ entry ∈ entries, IsOwnForm entry.2 := by
  cases value with
  | map held =>
      obtain rfl := Option.some.inj found
      refine List.forall_mem_map.mpr fun entry member => ?_
      have part := own.entry entry member
      show IsOwnForm entry.2.opened
      rwa [part.opened]
  | _ => cases found

end IsOwnForm

end Json

end ClientGen

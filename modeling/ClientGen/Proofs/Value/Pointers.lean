import ClientGen.Proofs.Text
import ClientGen.Schema.Mapping
import ClientGen.Value.Basic

/-!
# Pointers of a document

The texts that stand at reference keys anywhere in a value. What is read off a value by its fields,
entries and items has no other pointers. A pointer to a definition leads back to its name, whatever
characters the name has.
-/

namespace ClientGen.Value

/-- The pointer of an entry, when it holds one. -/
def pointerAt (key value : Value) : List String :=
  if key = .text "$ref" then value.opened.text?.toList else []

mutual

/-- All pointers in a value, at any depth. -/
def pointers : Value → List String
  | .map entries => pointersOfEntries entries
  | .list items => pointersOfItems items
  | .pair first second => pointers first ++ pointers second
  | .recurring content => pointers content
  | _ => []

/-- All pointers in the items of a sequence. -/
def pointersOfItems : List Value → List String
  | [] => []
  | item :: rest => pointers item ++ pointersOfItems rest

/-- All pointers in the entries of a mapping. -/
def pointersOfEntries : List (Value × Value) → List String
  | [] => []
  | (key, value) :: rest => pointerAt key value ++ (pointers value ++ pointersOfEntries rest)

end

@[simp] theorem pointers_opened (value : Value) : value.opened.pointers = value.pointers := by
  cases value <;> simp only [opened, pointers]

/-! ## Parts of a value -/

theorem pointers_subset_of_mem_items {items : List Value} {item : Value} (member : item ∈ items) :
    item.pointers ⊆ pointersOfItems items := by
  induction items with
  | nil => cases member
  | cons first rest ih =>
      rw [pointersOfItems]
      rcases List.mem_cons.mp member with rfl | later
      · exact List.subset_append_left _ _
      · exact List.subset_append_of_subset_right _ (ih later)

theorem pointers_subset_of_mem_entries {entries : List (Value × Value)} {entry : Value × Value}
    (member : entry ∈ entries) : entry.2.pointers ⊆ pointersOfEntries entries := by
  induction entries with
  | nil => cases member
  | cons first rest ih =>
      rw [pointersOfEntries]
      refine List.subset_append_of_subset_right _ ?_
      rcases List.mem_cons.mp member with rfl | later
      · exact List.subset_append_left _ _
      · exact List.subset_append_of_subset_right _ (ih later)

theorem mem_of_fieldOf {name : String} {entries : List (Value × Value)} {value : Value}
    (found : fieldOf name entries = some value) : (.text name, value) ∈ entries := by
  induction entries with
  | nil => cases found
  | cons first rest ih =>
      obtain ⟨key, other⟩ := first
      cases key with
      | text key =>
          rw [fieldOf_cons_text] at found
          split at found
          · next same =>
              rw [same, Option.some.inj found]
              exact List.mem_cons_self
          · exact List.mem_cons_of_mem _ (ih found)
      | _ => exact List.mem_cons_of_mem _ (ih found)

theorem mem_of_lookup {key : Value} {entries : List (Value × Value)} {value : Value}
    (found : lookup key entries = some value) : ∃ other, (other, value) ∈ entries := by
  induction entries with
  | nil => cases found
  | cons first rest ih =>
      obtain ⟨other, first⟩ := first
      rw [lookup] at found
      split at found
      · rw [Option.some.inj found]
        exact ⟨other, List.mem_cons_self⟩
      · obtain ⟨later, member⟩ := ih found
        exact ⟨later, List.mem_cons_of_mem _ member⟩

/-! ## Fields, entries and items -/

theorem pointers_subset_of_field? {name : String} {value field : Value}
    (found : value.field? name = some field) : field.pointers ⊆ value.pointers := by
  cases value with
  | map entries =>
      obtain ⟨inner, inside, rfl⟩ := Option.map_eq_some_iff.mp found
      rw [pointers_opened, pointers]
      exact pointers_subset_of_mem_entries (mem_of_fieldOf inside)
  | _ => cases found

theorem given?_eq_some {value : Option Value} {found : Value} (given : given? value = some found) :
    value = some found := by
  cases value with
  | none => cases given
  | some value => cases value <;> first | exact given | cases given

theorem pointers_subset_of_givenField? {name : String} {value field : Value}
    (found : value.givenField? name = some field) : field.pointers ⊆ value.pointers :=
  pointers_subset_of_field? (given?_eq_some found)

theorem pointers_subset_of_entries? {value : Value} {entries : List (Value × Value)}
    (found : value.entries? = some entries) {entry : Value × Value} (member : entry ∈ entries) :
    entry.2.pointers ⊆ value.pointers := by
  cases value with
  | map inner =>
      rw [← Option.some.inj found] at member
      obtain ⟨original, inside, rfl⟩ := List.mem_map.mp member
      rw [pointers_opened, pointers]
      exact pointers_subset_of_mem_entries inside
  | _ => cases found

theorem pointers_subset_of_items? {value : Value} {items : List Value}
    (found : value.items? = some items) {item : Value} (member : item ∈ items) :
    item.pointers ⊆ value.pointers := by
  cases value with
  | list inner =>
      rw [← Option.some.inj found] at member
      obtain ⟨original, inside, rfl⟩ := List.mem_map.mp member
      rw [pointers_opened, pointers]
      exact pointers_subset_of_mem_items inside
  | _ => cases found

/-- The text at the reference key of a mapping is one of its pointers. -/
theorem mem_pointers_of_field? {value : Value} {pointer : String}
    (found : (value.field? "$ref").bind text? = some pointer) : pointer ∈ value.pointers := by
  obtain ⟨field, at_key, text⟩ := Option.bind_eq_some_iff.mp found
  cases value with
  | map entries =>
      obtain ⟨inner, inside, rfl⟩ := Option.map_eq_some_iff.mp at_key
      have held : ∀ {entries : List (Value × Value)}, (.text "$ref", inner) ∈ entries →
          pointer ∈ pointersOfEntries entries := by
        intro entries member
        induction entries with
        | nil => cases member
        | cons first rest ih =>
            rw [pointersOfEntries, List.mem_append]
            rcases List.mem_cons.mp member with rfl | later
            · left
              rw [pointerAt, if_pos rfl, text]
              exact List.mem_singleton.mpr rfl
            · exact Or.inr (List.mem_append_right _ (ih later))
      rw [pointers]
      exact held (mem_of_fieldOf inside)
  | _ => cases at_key

end ClientGen.Value

/-!
## Names in pointers

A pointer to a definition leads back to its name, whatever characters the name has. A tilde in an
escaped name is always the start of an escape, so that undoing the escapes of slashes first leaves
those of tildes alone.
-/

namespace ClientGen

namespace Pointer

open Text

/-- The escape of a single character. -/
def escapeChar (c : Char) : List Char :=
  if c = '~' then ['~', '0'] else if c = '/' then ['~', '1'] else [c]

theorem escape_cons (c : Char) (rest : List Char) :
    escape (c :: rest) = escapeChar c ++ escape rest := by
  rw [escape, replaceChar_cons, replaceChar_append, escapeChar]
  split
  · rfl
  · rw [replaceChar_cons]
    split <;> rfl

/-- Without the escapes of slashes, those of tildes are left. -/
theorem replacePair_escape (name : List Char) :
    replacePair '~' '1' '/' (escape name) = replaceChar '~' ['~', '0'] name := by
  induction name with
  | nil => rfl
  | cons c rest ih =>
      rw [escape_cons, escapeChar, replaceChar_cons]
      by_cases tilde : c = '~'
      · rw [if_pos tilde, if_pos tilde, List.cons_append, List.cons_append, List.nil_append,
          replacePair_cons_cons_of_ne (by decide), replacePair_cons_of_ne (by decide), ih]
        rfl
      · rw [if_neg tilde, if_neg tilde]
        by_cases slash : c = '/'
        · rw [if_pos slash, List.cons_append, List.cons_append, List.nil_append, replacePair_pair,
            ih, slash]
          rfl
        · rw [if_neg slash, List.singleton_append, replacePair_cons_of_ne tilde, ih]
          rfl

theorem replacePair_replaceChar (name : List Char) :
    replacePair '~' '0' '~' (replaceChar '~' ['~', '0'] name) = name := by
  induction name with
  | nil => rfl
  | cons c rest ih =>
      rw [replaceChar_cons]
      by_cases tilde : c = '~'
      · rw [if_pos tilde, List.cons_append, List.cons_append, List.nil_append, replacePair_pair, ih,
          tilde]
      · rw [if_neg tilde, List.singleton_append, replacePair_cons_of_ne tilde, ih]

theorem unescape_escape (name : List Char) : unescape (escape name) = name := by
  rw [unescape, replacePair_escape, replacePair_replaceChar]

/-- The pointer to a definition leads to its name. -/
theorem name_toDefinition (name : String) : Pointer.name (toDefinition name) = name := by
  rw [Pointer.name, toDefinition, String.toList_ofList, nameChars, dropLeading?_append,
    Option.getD_some, unescape_escape, String.ofList_toList]

end Pointer

end ClientGen

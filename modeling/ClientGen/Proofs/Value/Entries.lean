import ClientGen.Value.Basic
import Mathlib.Data.List.Induction
import Mathlib.Data.List.Nodup

/-!
# Entries of mappings

A value is put at a key of a mapping and found there. Entries of which each has a text of its own as
its key are those of a mapping as they stand.
-/

namespace ClientGen.Value

/-! ## Looking up keys -/

theorem sameKey_text_iff {name : String} {key : Value} :
    sameKey key (.text name) = true ↔ key = .text name := by
  cases key <;> simp [sameKey]

theorem text_sameKey_iff {name : String} {key : Value} :
    sameKey (.text name) key = true ↔ key = .text name := by
  cases key with
  | text other =>
      simp only [sameKey, beq_iff_eq, Value.text.injEq]
      exact eq_comm
  | _ => simp [sameKey]

/-- A text is looked up like any other key. -/
theorem fieldOf_eq_lookup (name : String) (entries : List (Value × Value)) :
    fieldOf name entries = lookup (.text name) entries := by
  induction entries with
  | nil => rfl
  | cons entry rest ih =>
      obtain ⟨key, value⟩ := entry
      cases key with
      | text key => simp [fieldOf_cons_text, lookup, sameKey_text_iff, ih]
      | _ => exact ih

/-- A value that is put at a text is found there. -/
theorem lookup_put_self (name : String) (value : Value) (entries : List (Value × Value)) :
    lookup (.text name) (put (.text name) value entries) = some value := by
  induction entries with
  | nil => simp [put, lookup, sameKey_text_iff]
  | cons entry rest ih =>
      obtain ⟨key, old⟩ := entry
      rw [put]
      split
      · next same => rw [lookup, if_pos same]
      · next different => rw [lookup, if_neg different, ih]

/-- A value that is put at a text is not found at other keys. -/
theorem lookup_put_of_ne {name : String} {key : Value} (different : key ≠ .text name)
    (value : Value) (entries : List (Value × Value)) :
    lookup key (put (.text name) value entries) = lookup key entries := by
  induction entries with
  | nil => simp [put, lookup, text_sameKey_iff, different]
  | cons entry rest ih =>
      obtain ⟨other, old⟩ := entry
      rw [put]
      split
      · next same =>
          have renamed := sameKey_text_iff.mp same
          subst renamed
          simp [lookup, text_sameKey_iff, different]
      · rw [lookup, lookup, ih]

/-- Entries whose keys are texts, each text at one entry only. -/
structure IsNamed (entries : List (Value × Value)) : Prop where
  /-- The keys are texts. -/
  text : ∀ entry ∈ entries, ∃ name, entry.1 = .text name
  /-- No two of them are the same. -/
  distinct : (entries.map Prod.fst).Nodup

variable {entries : List (Value × Value)} {name : String} {value : Value}

theorem isNamed_nil : IsNamed [] := ⟨nofun, List.nodup_nil⟩

theorem put_eq_append (absent : .text name ∉ entries.map Prod.fst) (value : Value) :
    put (.text name) value entries = entries ++ [(.text name, value)] := by
  induction entries with
  | nil => rfl
  | cons entry rest ih =>
      rw [List.map_cons, List.mem_cons, not_or] at absent
      have different : ¬ sameKey entry.1 (.text name) = true := fun same =>
        absent.1 (sameKey_text_iff.mp same).symm
      rw [put, if_neg different, ih absent.2, List.cons_append]

theorem map_fst_put_of_mem (known : .text name ∈ entries.map Prod.fst) (value : Value) :
    (put (.text name) value entries).map Prod.fst = entries.map Prod.fst := by
  induction entries with
  | nil => cases known
  | cons entry rest ih =>
      rw [put]
      split
      · rfl
      · next different =>
          have other : .text name ≠ entry.1 := fun same =>
            different (sameKey_text_iff.mpr same.symm)
          rw [List.map_cons, List.map_cons, ih ((List.mem_cons.mp known).resolve_left other)]

theorem mem_put {key : Value} {entry : Value × Value} (member : entry ∈ put key value entries) :
    entry ∈ entries ∨ entry.2 = value := by
  induction entries with
  | nil => exact Or.inr (congrArg Prod.snd (List.mem_singleton.mp member))
  | cons first rest ih =>
      rw [put] at member
      split at member
      · rcases List.mem_cons.mp member with rfl | later
        · exact Or.inr rfl
        · exact Or.inl (List.mem_cons_of_mem _ later)
      · rcases List.mem_cons.mp member with rfl | later
        · exact Or.inl List.mem_cons_self
        · exact (ih later).imp (List.mem_cons_of_mem _) id

/-- Putting a value at a text keeps the keys apart. -/
theorem IsNamed.put (named : IsNamed entries) (name : String) (value : Value) :
    IsNamed (put (.text name) value entries) := by
  by_cases known : .text name ∈ entries.map Prod.fst
  · have keys := map_fst_put_of_mem known value
    refine ⟨fun entry member => ?_, keys ▸ named.distinct⟩
    have listed := List.mem_map_of_mem (f := Prod.fst) member
    rw [keys] at listed
    obtain ⟨old, inside, same⟩ := List.mem_map.mp listed
    exact same ▸ named.text old inside
  · rw [put_eq_append known]
    refine ⟨List.forall_mem_append.mpr ⟨named.text, ?_⟩, ?_⟩
    · exact List.forall_mem_singleton.mpr ⟨name, rfl⟩
    · rw [List.map_append, List.map_singleton, List.nodup_append]
      refine ⟨named.distinct, List.nodup_singleton _, fun key member other last => ?_⟩
      rw [List.mem_singleton.mp last]
      rintro rfl
      exact known member

theorem ofEntries_concat (entries : List (Value × Value)) (entry : Value × Value) :
    ofEntries (entries ++ [entry]) = put entry.1 entry.2 (ofEntries entries) := by
  rw [ofEntries, List.foldl_append]
  rfl

/-- Entries with keys of their own are in order already. -/
theorem ofEntries_of_isNamed (named : IsNamed entries) : ofEntries entries = entries := by
  induction entries using List.reverseRecOn with
  | nil => rfl
  | append_singleton front last ih =>
      obtain ⟨name, key⟩ := named.text last (List.mem_append_right front List.mem_cons_self)
      have distinct := named.distinct
      rw [List.map_append, List.map_singleton, key, List.nodup_append] at distinct
      obtain ⟨others, _, apart⟩ := distinct
      have before : IsNamed front :=
        ⟨fun entry member => named.text entry (List.mem_append_left _ member), others⟩
      have absent : .text name ∉ front.map Prod.fst := fun member =>
        apart _ member _ List.mem_cons_self rfl
      rw [ofEntries_concat, ih before, key, put_eq_append absent, ← key]

/-- The keys of a mapping that is made of texts are texts, each at one place. -/
theorem isNamed_ofEntries (text : ∀ entry ∈ entries, ∃ name, entry.1 = .text name) :
    IsNamed (ofEntries entries) := by
  induction entries using List.reverseRecOn with
  | nil => exact isNamed_nil
  | append_singleton front last ih =>
      obtain ⟨before, here⟩ := List.forall_mem_append.mp text
      obtain ⟨name, key⟩ := here last List.mem_cons_self
      rw [ofEntries_concat, key]
      exact (ih before).put name last.2

/-- A mapping has no other values than its entries. -/
theorem forall_mem_ofEntries {holds : Value → Prop} (each : ∀ entry ∈ entries, holds entry.2) :
    ∀ entry ∈ ofEntries entries, holds entry.2 := by
  induction entries using List.reverseRecOn with
  | nil => exact nofun
  | append_singleton front last ih =>
      obtain ⟨before, here⟩ := List.forall_mem_append.mp each
      intro entry member
      rw [ofEntries_concat] at member
      rcases mem_put member with old | new
      · exact ih before entry old
      · rw [new]
        exact here last List.mem_cons_self

end ClientGen.Value

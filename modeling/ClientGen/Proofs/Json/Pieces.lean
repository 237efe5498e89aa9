import ClientGen.Json.Writer
import ClientGen.Proofs.Result

/-!
# Pieces of JSON texts

A JSON text on one line is put together from words, numbers and what stands between items, all of
them bare characters, from quoted texts, and from brackets in pairs. What holds of the pieces and is
kept when they are put together holds of the JSON text of every value.
-/

namespace ClientGen.Json

/-! ## Numerals -/

theorem exists_digitChar_of_mem_toDigits {base : Nat} (large : 1 < base) {n : Nat} {c : Char}
    (member : c ∈ Nat.toDigits base n) : ∃ digit, c = Nat.digitChar digit := by
  induction n using Nat.strongRecOn with
  | ind n ih =>
      rw [Nat.toDigits_eq_if large] at member
      split at member
      · exact ⟨n, List.mem_singleton.mp member⟩
      · next several =>
          have positive : 0 < n := by omega
          rcases List.mem_append.mp member with front | last
          · exact ih (n / base) (Nat.div_lt_self positive large) front
          · exact ⟨n % base, List.mem_singleton.mp last⟩

/-- The characters of digits; the last one stands for all digits beyond fifteen. -/
def digitChars : List Char := "0123456789abcdef*".toList

theorem contains_digitChar (digit : Nat) : digitChars.contains (Nat.digitChar digit) = true := by
  match digit with
  | 0 | 1 | 2 | 3 | 4 | 5 | 6 | 7 | 8 | 9 | 10 | 11 | 12 | 13 | 14 | 15 => rfl
  | _ + 16 => rfl

/-! ## Bare characters -/

/-- The characters that no word has, of digits, of numbers and between items. -/
def bareMarks : List Char := "*+-., :".toList

/-- A character outside of quotes that is no bracket. -/
def isBareChar (c : Char) : Bool := Text.isAlphanumeric c || bareMarks.contains c

/-- A text of bare characters. -/
def Bare (text : List Char) : Prop := ∀ c ∈ text, isBareChar c = true

/-- A text that is seen to have bare characters only. -/
theorem bare_of_all {text : List Char} (all : text.all isBareChar = true) : Bare text :=
  List.all_eq_true.mp all

theorem isBareChar_digitChar (digit : Nat) : isBareChar (Nat.digitChar digit) = true :=
  bare_of_all (by decide) _ (List.contains_iff_mem.mp (contains_digitChar digit))

theorem bare_decimal (n : Nat) : Bare (Text.decimal n) := by
  intro c member
  obtain ⟨digit, rfl⟩ := exists_digitChar_of_mem_toDigits (by decide) member
  exact isBareChar_digitChar digit

theorem bare_zeros (count : Nat) : Bare (List.replicate count '0') := by
  intro c member
  rw [List.eq_of_mem_replicate member]
  rfl

theorem bare_natText (n : Nat) : Bare n.repr.toList := by
  rw [Nat.repr_eq_ofList_toDigits, String.toList_ofList]
  exact bare_decimal n

theorem bare_intText {n : Int} {text : String} (written : intText n = .ok text) :
    Bare text.toList := by
  have shown : text = n.repr := by
    rw [intText, Numeral.text?] at written
    split at written
    · next found =>
        split at found
        · obtain rfl := Option.some.inj found
          exact (Except.ok.inj written).symm
        · cases found
    · cases written
  subst shown
  cases n with
  | ofNat size => exact bare_natText size
  | negSucc size =>
      rw [Int.repr, String.toList_append]
      exact List.forall_mem_append.mpr ⟨bare_of_all (by decide), bare_natText (size + 1)⟩

variable {digits : List Char}

theorem bare_positional (bare : Bare digits) (point : Int) :
    Bare (Double.positional digits point) := by
  rw [Double.positional]
  split
  · exact List.forall_mem_cons.mpr ⟨rfl, List.forall_mem_cons.mpr ⟨rfl,
      List.forall_mem_append.mpr ⟨bare_zeros _, bare⟩⟩⟩
  · have shown : Bare (digits ++ List.replicate (point.toNat - digits.length) '0') :=
      List.forall_mem_append.mpr ⟨bare, bare_zeros _⟩
    refine List.forall_mem_append.mpr ⟨fun c member => shown c (List.mem_of_mem_take member), ?_⟩
    refine List.forall_mem_cons.mpr ⟨rfl, ?_⟩
    split
    · exact List.forall_mem_singleton.mpr rfl
    · exact fun c member => shown c (List.mem_of_mem_drop member)

theorem bare_scientific (bare : Bare digits) (layout : Double.Layout) (point : Int) :
    Bare (Double.scientific layout digits point) := by
  unfold Double.scientific
  refine List.forall_mem_append.mpr ⟨?_, List.forall_mem_cons.mpr ⟨rfl,
    List.forall_mem_cons.mpr ⟨?_, List.forall_mem_append.mpr ⟨bare_zeros _, bare_decimal _⟩⟩⟩⟩
  · split
    · exact List.forall_mem_nil _
    · exact bare
    · exact List.forall_mem_cons.mpr ⟨bare _ List.mem_cons_self, List.forall_mem_cons.mpr
        ⟨rfl, fun c member => bare c (List.mem_cons_of_mem _ member)⟩⟩
  · split <;> rfl

theorem bare_sizeText (layout : Double.Layout) (mantissa : Nat) (exponent : Int) :
    Bare (Double.sizeText layout mantissa exponent) := by
  rw [Double.sizeText]
  split
  · exact bare_of_all (by decide)
  · dsimp only
    split
    · exact bare_positional (bare_decimal _) _
    · exact bare_scientific (bare_decimal _) _ _

theorem bare_floatText (x : Double) : Bare (floatText x).toList := by
  rw [floatText]
  cases x with
  | nan => exact bare_of_all (by decide)
  | infinite negative => cases negative <;> exact bare_of_all (by decide)
  | finite negative mantissa exponent =>
      have size : Bare (String.ofList (Double.sizeText Double.jsonLayout mantissa
          exponent)).toList := by
        rw [String.toList_ofList]
        exact bare_sizeText _ _ _
      cases negative with
      | false => exact size
      | true =>
          rw [Double.render, if_pos rfl, String.toList_append]
          exact List.forall_mem_append.mpr ⟨bare_of_all (by decide), size⟩

/-! ## Texts put together -/

/-- A condition that holds of the pieces of JSON texts and is kept when they are put together. -/
structure Composable (holds : List Char → Prop) : Prop where
  /-- It holds of words, of numbers and of what stands between items. -/
  bare : ∀ {text : List Char}, Bare text → holds text
  /-- It holds of quoted texts. -/
  quoted : ∀ text : String, holds (quote text).toList
  /-- It is kept in square brackets. -/
  square : ∀ {inner : List Char}, holds inner → holds ('[' :: (inner ++ [']']))
  /-- It is kept in braces. -/
  brace : ∀ {inner : List Char}, holds inner → holds ('\x7b' :: (inner ++ ['\x7d']))
  /-- It is kept when two texts follow each other. -/
  append : ∀ {first second : List Char}, holds first → holds second → holds (first ++ second)

namespace Composable

variable {holds : List Char → Prop}

section Texts

variable (composable : Composable holds)
include composable

theorem nil : holds [] := composable.bare (List.forall_mem_nil _)

theorem text_append {first second : String} (before : holds first.toList)
    (after : holds second.toList) : holds (first ++ second).toList := by
  rw [String.toList_append]
  exact composable.append before after

theorem joinStrings {separator : String} (between : holds separator.toList) {pieces : List String}
    (each : ∀ piece ∈ pieces, holds piece.toList) :
    holds (Text.joinStrings separator pieces).toList := by
  induction pieces with
  | nil => exact composable.nil
  | cons piece rest ih =>
      obtain ⟨here, there⟩ := List.forall_mem_cons.mp each
      cases rest with
      | nil => simpa [Text.joinStrings] using here
      | cons next others =>
          rw [Text.joinStrings, String.intercalate_cons_cons]
          exact composable.text_append (composable.text_append here between) (ih there)

/-- Items in brackets that keep the condition. -/
theorem enclose {opening closing : String}
    (bracketed : ∀ {inner : String}, holds inner.toList →
      holds (opening ++ inner ++ closing).toList) (level : Nat) {items : List String}
    (each : ∀ item ∈ items, holds item.toList) :
    holds (enclose compactStyle level opening closing items).toList := by
  have inside : holds (Text.joinStrings ", " items).toList :=
    composable.joinStrings (composable.bare (bare_of_all (by decide))) each
  rw [Json.enclose]
  split
  · have whole := bracketed (show holds "".toList from composable.nil)
    rwa [String.append_empty] at whole
  · have whole := bracketed inside
    simpa [compactStyle] using whole

theorem square_text {inner : String} (inside : holds inner.toList) :
    holds ("[" ++ inner ++ "]").toList := by
  rw [String.toList_append, String.toList_append]
  exact composable.square inside

theorem brace_text {inner : String} (inside : holds inner.toList) :
    holds ("\x7b" ++ inner ++ "\x7d").toList := by
  rw [String.toList_append, String.toList_append]
  exact composable.brace inside

end Texts

mutual

/-- The condition holds of the JSON text of a value on one line. -/
theorem of_write (composable : Composable holds) (level : Nat) : (value : Value) →
    {text : String} → write compactStyle level value = .ok text → holds text.toList
  | .null, _, written => by
      cases written
      exact composable.bare (bare_of_all (by decide))
  | .bool b, _, written => by
      cases written
      cases b <;> exact composable.bare (bare_of_all (by decide))
  | .int n, _, written => composable.bare (bare_intText written)
  | .float x, _, written => by
      cases written
      exact composable.bare (bare_floatText x)
  | .text s, _, written => by
      cases written
      exact composable.quoted s
  | .list items, _, written => by
      rw [write] at written
      obtain ⟨texts, inside, made⟩ := bind_eq_ok.mp written
      cases made
      exact composable.enclose composable.square_text level
        (composable.of_writeItems (level + 1) items inside)
  | .pair key value, _, written => by
      rw [write] at written
      obtain ⟨first, here, remaining⟩ := bind_eq_ok.mp written
      obtain ⟨second, there, made⟩ := bind_eq_ok.mp remaining
      cases made
      refine composable.enclose composable.square_text level ?_
      exact List.forall_mem_cons.mpr ⟨composable.of_write (level + 1) key here,
        List.forall_mem_singleton.mpr (composable.of_write (level + 1) value there)⟩
  | .map entries, _, written => by
      rw [write] at written
      obtain ⟨texts, inside, made⟩ := bind_eq_ok.mp written
      cases made
      exact composable.enclose composable.brace_text level
        (composable.of_writeEntries (level + 1) entries inside)

/-- The condition holds of the JSON texts of items on one line. -/
theorem of_writeItems (composable : Composable holds) (level : Nat) : (items : List Value) →
    {texts : List String} → writeItems compactStyle level items = .ok texts →
    ∀ text ∈ texts, holds text.toList
  | [], _, written => by
      cases written
      exact List.forall_mem_nil _
  | item :: rest, _, written => by
      rw [writeItems] at written
      obtain ⟨first, here, remaining⟩ := bind_eq_ok.mp written
      obtain ⟨others, there, made⟩ := bind_eq_ok.mp remaining
      cases made
      exact List.forall_mem_cons.mpr ⟨composable.of_write level item here,
        composable.of_writeItems level rest there⟩

/-- The condition holds of the JSON texts of members on one line, whatever their names. -/
theorem of_writeEntries (composable : Composable holds) (level : Nat) :
    (entries : List (Value × Value)) → {texts : List String} →
    writeEntries compactStyle level entries = .ok texts → ∀ text ∈ texts, holds text.toList
  | [], _, written => by
      cases written
      exact List.forall_mem_nil _
  | (key, value) :: rest, _, written => by
      rw [writeEntries] at written
      obtain ⟨name, _, remaining⟩ := bind_eq_ok.mp written
      obtain ⟨first, here, remaining⟩ := bind_eq_ok.mp remaining
      obtain ⟨others, there, made⟩ := bind_eq_ok.mp remaining
      cases made
      have colon : holds ": ".toList := composable.bare (bare_of_all (by decide))
      have member : holds (quote name ++ ": " ++ first).toList :=
        composable.text_append (composable.text_append (composable.quoted name) colon)
          (composable.of_write level value here)
      exact List.forall_mem_cons.mpr ⟨member, composable.of_writeEntries level rest there⟩

end

end Composable

end ClientGen.Json

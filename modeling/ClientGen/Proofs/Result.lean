import ClientGen.Log
import Mathlib.Data.List.Forall2

/-!
# Computations that succeed

A chain of computations succeeds exactly if each of them does, and one computation for each item of
a list gives one result for each item.
-/

namespace ClientGen

variable {ε α β : Type}

theorem ok_bind (value : α) (next : α → Except ε β) :
    ((.ok value : Except ε α) >>= next) = next value := rfl

theorem error_bind (problem : ε) (next : α → Except ε β) :
    ((.error problem : Except ε α) >>= next) = .error problem := rfl

theorem bind_eq_ok {first : Except ε α} {next : α → Except ε β} {result : β} :
    (first >>= next) = .ok result ↔ ∃ value, first = .ok value ∧ next value = .ok result := by
  cases first with
  | error problem =>
      constructor
      · intro failed
        cases failed
      · rintro ⟨value, failed, _⟩
        cases failed
  | ok value =>
      constructor
      · intro done
        exact ⟨value, rfl, done⟩
      · rintro ⟨same, equal, done⟩
        cases equal
        exact done

theorem mapError_eq_ok {δ : Type} {result : Except ε α} {change : ε → δ} {value : α} :
    result.mapError change = .ok value ↔ result = .ok value := by
  cases result <;> simp [Except.mapError]

theorem map_eq_ok {result : Except ε α} {f : α → β} {value : β} :
    result.map f = .ok value ↔ ∃ found, result = .ok found ∧ f found = value := by
  cases result <;> simp [Except.map]

/-- Each item has its result. -/
theorem mapM_eq_ok {f : α → Except ε β} {items : List α} {results : List β} :
    items.mapM f = .ok results ↔ List.Forall₂ (fun item result => f item = .ok result) items results := by
  induction items generalizing results with
  | nil =>
      rw [List.mapM_nil, List.forall₂_nil_left_iff]
      constructor
      · intro done
        cases done
        rfl
      · rintro rfl
        rfl
  | cons item rest ih =>
      rw [List.mapM_cons, bind_eq_ok, List.forall₂_cons_left_iff]
      constructor
      · rintro ⟨first, found, remaining⟩
        obtain ⟨others, later, made⟩ := bind_eq_ok.mp remaining
        cases made
        exact ⟨first, others, found, ih.mp later, rfl⟩
      · rintro ⟨first, others, found, later, rfl⟩
        exact ⟨first, found, bind_eq_ok.mpr ⟨others, ih.mpr later, rfl⟩⟩

/-! ## Success -/

/-- A computation that has a result. -/
def Succeeds (result : Except ε α) : Prop := ∃ value, result = .ok value

theorem succeeds_ok (value : α) : Succeeds (.ok value : Except ε α) := ⟨value, rfl⟩

theorem not_succeeds_error (problem : ε) : ¬ Succeeds (.error problem : Except ε α) := nofun

/-- A chain succeeds if its first part does and the others do whatever its result is. -/
theorem succeeds_bind_iff {first : Except ε α} {next : α → Except ε β} {condition : Prop}
    (later : ∀ value, first = .ok value → (Succeeds (next value) ↔ condition)) :
    Succeeds (first >>= next) ↔ Succeeds first ∧ condition := by
  constructor
  · rintro ⟨result, done⟩
    obtain ⟨value, found, made⟩ := bind_eq_ok.mp done
    exact ⟨⟨value, found⟩, (later value found).mp ⟨result, made⟩⟩
  · rintro ⟨⟨value, found⟩, holds⟩
    obtain ⟨result, made⟩ := (later value found).mpr holds
    exact ⟨result, bind_eq_ok.mpr ⟨value, found, made⟩⟩

/-- A result is only changed afterwards. -/
theorem succeeds_bind_ok {first : Except ε α} {f : α → β} :
    Succeeds (first >>= fun value => .ok (f value)) ↔ Succeeds first := by
  refine (succeeds_bind_iff fun value _ => ?_).trans (and_iff_left trivial)
  exact iff_true_intro (succeeds_ok (f value))

theorem succeeds_map {result : Except ε α} {f : α → β} :
    Succeeds (result.map f) ↔ Succeeds result := by
  constructor
  · rintro ⟨_, done⟩
    obtain ⟨found, value, _⟩ := map_eq_ok.mp done
    exact ⟨found, value⟩
  · rintro ⟨found, value⟩
    exact ⟨_, map_eq_ok.mpr ⟨found, value, rfl⟩⟩

/-- All items have a result if each of them has one. -/
theorem exists_forall₂_iff {relation : α → β → Prop} {items : List α} :
    (∃ results, List.Forall₂ relation items results) ↔
      ∀ item ∈ items, ∃ result, relation item result := by
  induction items with
  | nil => exact ⟨fun _ => nofun, fun _ => ⟨[], .nil⟩⟩
  | cons item rest ih =>
      rw [List.forall_mem_cons, ← ih]
      constructor
      · rintro ⟨_, _ | ⟨first, others⟩⟩
        exact ⟨⟨_, first⟩, ⟨_, others⟩⟩
      · rintro ⟨⟨_, first⟩, ⟨_, others⟩⟩
        exact ⟨_, .cons first others⟩

theorem succeeds_mapM {f : α → Except ε β} {items : List α} :
    Succeeds (items.mapM f) ↔ ∀ item ∈ items, Succeeds (f item) := by
  simp only [Succeeds, mapM_eq_ok, exists_forall₂_iff]

/-! ## Items and their results -/

/-- Related items that agree on a value give the same list of values. -/
theorem map_eq_of_forall₂ {γ : Type} {relation : α → β → Prop} {items : List α}
    {results : List β} {f : α → γ} {g : β → γ} (related : List.Forall₂ relation items results)
    (agree : ∀ item result, relation item result → g result = f item) :
    results.map g = items.map f := by
  induction related with
  | nil => rfl
  | cons first _ ih => rw [List.map_cons, List.map_cons, agree _ _ first, ih]

/-- An item of one list has a partner in the other. -/
theorem exists_of_forall₂ {relation : α → β → Prop} {items : List α} {results : List β}
    (related : List.Forall₂ relation items results) {item : α} (member : item ∈ items) :
    ∃ result ∈ results, relation item result := by
  induction related with
  | nil => cases member
  | cons first _ ih =>
      rcases List.mem_cons.mp member with rfl | later
      · exact ⟨_, List.mem_cons_self, first⟩
      · obtain ⟨result, inside, holds⟩ := ih later
        exact ⟨result, List.mem_cons_of_mem _ inside, holds⟩

/-- Related items that agree on two conditions: one holds of all items of one list exactly if the
other does of those of the other. -/
theorem forall_mem_iff_of_forall₂ {relation : α → β → Prop} {p : α → Prop} {q : β → Prop}
    {items : List α} {results : List β} (related : List.Forall₂ relation items results)
    (agree : ∀ item result, relation item result → (q result ↔ p item)) :
    (∀ result ∈ results, q result) ↔ ∀ item ∈ items, p item := by
  induction related with
  | nil => exact iff_of_true nofun nofun
  | cons first _ ih => rw [List.forall_mem_cons, List.forall_mem_cons, agree _ _ first, ih]

theorem rightUnique_eq_ok (f : α → Except ε β) :
    Relator.RightUnique fun item result => f item = .ok result :=
  fun _ _ _ first second => Except.ok.inj (first.symm.trans second)

/-- Where items have one result each, those of fewer items are among those of more items, in the same
order. -/
theorem sublist_of_forall₂ {relation : α → β → Prop} (unique : Relator.RightUnique relation)
    {items more : List α} (fewer : items.Sublist more) :
    ∀ {results others : List β}, List.Forall₂ relation items results →
      List.Forall₂ relation more others → results.Sublist others := by
  induction fewer with
  | slnil =>
      rintro _ _ ⟨⟩ _
      exact List.nil_sublist _
  | cons item _ ih =>
      rintro results _ first (_ | ⟨_, second⟩)
      exact (ih first second).cons _
  | cons_cons item _ ih =>
      rintro _ _ (_ | ⟨here, first⟩) (_ | ⟨same, second⟩)
      rw [unique here same]
      exact (ih first second).cons_cons _

/-- An item at a position has its partner at the same position. -/
theorem getElem?_of_forall₂ {relation : α → β → Prop} {items : List α} {results : List β}
    (related : List.Forall₂ relation items results) :
    ∀ {position : Nat} {item : α}, items[position]? = some item →
      ∃ result, results[position]? = some result ∧ relation item result := by
  induction related with
  | nil => exact fun found => nomatch found
  | cons first _ ih =>
      intro position item found
      cases position with
      | zero =>
          obtain rfl := Option.some.inj found
          exact ⟨_, rfl, first⟩
      | succ position => exact ih found

/-- The last items are partners. -/
theorem getLast?_of_forall₂ {relation : α → β → Prop} {items : List α} {results : List β}
    (related : List.Forall₂ relation items results) {item : α} (last : items.getLast? = some item) :
    ∃ result, results.getLast? = some result ∧ relation item result := by
  rw [List.getLast?_eq_getElem?] at last
  obtain ⟨result, found, holds⟩ := getElem?_of_forall₂ related last
  refine ⟨result, ?_, holds⟩
  rw [List.getLast?_eq_getElem?, ← related.length_eq, found]

namespace Logged

/-- A chain of logged computations succeeds if both parts do. -/
theorem result_bind_eq_ok {first : Logged α} {next : α → Logged β} {result : β} :
    (first >>= next).result = .ok result ↔
      ∃ value, first.result = .ok value ∧ (next value).result = .ok result := by
  have step : (first >>= next) = first.bind next := rfl
  rw [step, Logged.bind]
  cases first.result with
  | error problem => simp
  | ok value => simp

theorem logs_bind_of_ok {first : Logged α} {next : α → Logged β} {value : α}
    (done : first.result = .ok value) :
    (first >>= next).logs = first.logs ++ (next value).logs := by
  have step : (first >>= next) = first.bind next := rfl
  rw [step, bind_of_ok done]

/-- The result of a chain is the chain of the results. -/
theorem result_bind (first : Logged α) (next : α → Logged β) :
    (first >>= next).result = first.result >>= fun value => (next value).result := by
  have step : (first >>= next) = first.bind next := rfl
  rw [step, Logged.bind]
  cases first.result <;> rfl

theorem result_return_eq_ok {value result : α} :
    (Pure.pure value : Logged α).result = .ok result ↔ value = result := by
  constructor
  · intro done
    exact Except.ok.inj done
  · rintro rfl
    rfl

theorem result_ofResult_eq_ok {result : Except Problem α} {value : α} :
    (ofResult result).result = .ok value ↔ result = .ok value := Iff.rfl

/-- Each item has its result. -/
theorem forEach_eq_ok {f : α → Logged β} {items : List α} {results : List β} :
    (forEach f items).result = .ok results ↔
      List.Forall₂ (fun item result => (f item).result = .ok result) items results := by
  induction items generalizing results with
  | nil =>
      rw [List.forall₂_nil_left_iff]
      exact result_return_eq_ok.trans eq_comm
  | cons first rest ih =>
      rw [List.forall₂_cons_left_iff]
      refine result_bind_eq_ok.trans ?_
      constructor
      · rintro ⟨result, found, done⟩
        obtain ⟨others, later, made⟩ := result_bind_eq_ok.mp done
        exact ⟨result, others, found, ih.mp later, (result_return_eq_ok.mp made).symm⟩
      · rintro ⟨result, others, found, later, rfl⟩
        exact ⟨result, found, result_bind_eq_ok.mpr ⟨others, ih.mpr later, rfl⟩⟩

/-- The records of a loop are those of its items. -/
theorem logs_forEach {f : α → Logged β} {items : List α} {results : List β}
    (done : (forEach f items).result = .ok results) :
    (forEach f items).logs = items.flatMap fun item => (f item).logs := by
  induction items generalizing results with
  | nil => rfl
  | cons first rest ih =>
      obtain ⟨result, found, others⟩ := result_bind_eq_ok.mp done
      obtain ⟨later, remaining, _⟩ := result_bind_eq_ok.mp others
      refine (logs_bind_of_ok found).trans ?_
      rw [List.flatMap_cons, ← ih remaining]
      exact congrArg _ ((logs_bind_of_ok remaining).trans (List.append_nil _))

theorem result_ofFaulty_eq_ok {result : Except Fault α} {value : α} :
    (ofFaulty result).result = .ok value ↔ result = .ok value := by
  cases result with
  | error fault => constructor <;> nofun
  | ok found =>
      constructor
      · intro done
        exact congrArg Except.ok (Except.ok.inj done)
      · rintro ⟨⟩
        rfl

theorem succeeds_bind_iff {first : Logged α} {next : α → Logged β} {condition : Prop}
    (later : ∀ value, first.result = .ok value → (Succeeds (next value).result ↔ condition)) :
    Succeeds (first >>= next).result ↔ Succeeds first.result ∧ condition := by
  constructor
  · rintro ⟨result, done⟩
    obtain ⟨value, found, made⟩ := result_bind_eq_ok.mp done
    exact ⟨⟨value, found⟩, (later value found).mp ⟨result, made⟩⟩
  · rintro ⟨⟨value, found⟩, holds⟩
    obtain ⟨result, made⟩ := (later value found).mpr holds
    exact ⟨result, result_bind_eq_ok.mpr ⟨value, found, made⟩⟩

theorem succeeds_bind_return {first : Logged α} {f : α → β} :
    Succeeds (first >>= fun value => Pure.pure (f value)).result ↔ Succeeds first.result := by
  refine (succeeds_bind_iff fun value _ => ?_).trans (and_iff_left trivial)
  exact iff_true_intro ⟨f value, rfl⟩

theorem succeeds_ofFaulty {result : Except Fault α} :
    Succeeds (ofFaulty result).result ↔ Succeeds result := by
  simp only [Succeeds, result_ofFaulty_eq_ok]

theorem succeeds_forEach {f : α → Logged β} {items : List α} :
    Succeeds (forEach f items).result ↔ ∀ item ∈ items, Succeeds (f item).result := by
  simp only [Succeeds, forEach_eq_ok, exists_forall₂_iff]

theorem result_ofResult (result : Except Problem α) : (ofResult result).result = result := rfl

@[simp]
theorem logs_return (value : α) : (Pure.pure value : Logged α).logs = [] := rfl

@[simp]
theorem logs_ofResult (result : Except Problem α) : (ofResult result).logs = [] := rfl

@[simp]
theorem logs_ofFaulty (result : Except Fault α) : (ofFaulty result).logs = [] := by
  cases result <;> rfl

end Logged

/-! ## Problems -/

/-- A computation that ends in no problem but those of a kind. -/
def EndsWithin (allowed : Problem → Prop) (result : Except Problem α) : Prop :=
  ∀ problem, result = .error problem → allowed problem

theorem endsWithin_ok (allowed : Problem → Prop) (value : α) : EndsWithin allowed (.ok value) :=
  nofun

theorem endsWithin_error {allowed : Problem → Prop} {problem : Problem} (holds : allowed problem) :
    EndsWithin allowed (.error problem : Except Problem α) := by
  rintro _ ⟨⟩
  exact holds

namespace EndsWithin

variable {allowed : Problem → Prop}

theorem map {result : Except Problem α} (within : EndsWithin allowed result) (f : α → β) :
    EndsWithin allowed (result.map f) := by
  cases result with
  | error problem => exact endsWithin_error (within problem rfl)
  | ok value => exact endsWithin_ok allowed (f value)

theorem bind {first : Except Problem α} {next : α → Except Problem β}
    (before : EndsWithin allowed first)
    (after : ∀ value, first = .ok value → EndsWithin allowed (next value)) :
    EndsWithin allowed (first >>= next) := by
  cases first with
  | error problem =>
      intro other failed
      rw [error_bind] at failed
      rw [← Except.error.inj failed]
      exact before problem rfl
  | ok value => exact after value rfl

theorem mapM {f : α → Except Problem β} {items : List α}
    (each : ∀ item ∈ items, EndsWithin allowed (f item)) : EndsWithin allowed (items.mapM f) := by
  induction items with
  | nil => exact endsWithin_ok allowed []
  | cons first rest ih =>
      rw [List.mapM_cons]
      refine (each first List.mem_cons_self).bind fun result _ => ?_
      refine (ih fun item member => each item (List.mem_cons_of_mem _ member)).bind
        fun results _ => ?_
      exact endsWithin_ok allowed (result :: results)

theorem logged_bind {first : Logged α} {next : α → Logged β}
    (before : EndsWithin allowed first.result)
    (after : ∀ value, first.result = .ok value → EndsWithin allowed (next value).result) :
    EndsWithin allowed (first >>= next).result := by
  have step : (first >>= next) = first.bind next := rfl
  rw [step, Logged.bind]
  cases found : first.result with
  | error problem =>
      intro other failed
      rw [← Except.error.inj failed]
      exact before problem found
  | ok value => exact after value found

theorem logged_return (value : α) : EndsWithin allowed (Pure.pure value : Logged α).result := nofun

theorem forEach {f : α → Logged β} (each : ∀ item, EndsWithin allowed (f item).result)
    (items : List α) : EndsWithin allowed (Logged.forEach f items).result := by
  induction items with
  | nil => exact endsWithin_ok allowed []
  | cons item rest ih =>
      exact logged_bind (each item) fun _ _ => logged_bind ih fun _ _ => logged_return _

theorem ofFaulty (result : Except Fault α) (all : ∀ fault, result = .error fault → allowed fault) :
    EndsWithin allowed (Logged.ofFaulty result).result := by
  cases result with
  | error fault =>
      rintro _ ⟨⟩
      exact all fault rfl
  | ok value => exact endsWithin_ok allowed value

end EndsWithin

/-! ## Records -/

/-- A computation that leaves no records but those of a kind. -/
def LeavesOnly (allowed : LogRecord → Prop) (computation : Logged α) : Prop :=
  ∀ record ∈ computation.logs, allowed record

namespace LeavesOnly

variable {allowed : LogRecord → Prop}

theorem bind {first : Logged α} {next : α → Logged β} (before : LeavesOnly allowed first)
    (after : ∀ value, LeavesOnly allowed (next value)) : LeavesOnly allowed (first >>= next) := by
  have step : (first >>= next) = first.bind next := rfl
  rw [step, Logged.bind]
  cases first.result with
  | error problem => exact before
  | ok value => exact List.forall_mem_append.mpr ⟨before, after value⟩

theorem ofFaulty (allowed : LogRecord → Prop) (result : Except Fault α) :
    LeavesOnly allowed (Logged.ofFaulty result) := by
  rw [LeavesOnly, Logged.logs_ofFaulty]
  exact List.forall_mem_nil _

end LeavesOnly

/-- A problem that is a fault. -/
def IsFault (problem : Problem) : Prop := ∃ fault : Fault, problem = .fault fault

/-- A computation that ends in a failure of a family. -/
def Refused (kind : FailureKind) (result : Except Problem α) : Prop :=
  ∃ failure : Failure, result = .error (.failure failure) ∧ failure.kind = kind

theorem refused_failure_iff {kind : FailureKind} {failure : Failure} :
    Refused kind (.error (.failure failure) : Except Problem α) ↔ failure.kind = kind := by
  constructor
  · rintro ⟨_, ⟨⟩, same⟩
    exact same
  · exact fun same => ⟨failure, rfl, same⟩

theorem not_refused_of_isFault {result : Except Problem α} (faults : EndsWithin IsFault result)
    (kind : FailureKind) : ¬ Refused kind result := by
  rintro ⟨failure, refused, _⟩
  obtain ⟨fault, same⟩ := faults _ refused
  cases same

end ClientGen

/-!
## Kinds of results and of reasons

What a computation can end in, given part by part: a result of one kind, or a reason of another.
-/

namespace ClientGen

variable {ε α β : Type} {results : α → Prop} {others : β → Prop} {reasons : ε → Prop}

/-- A computation that has a result of a kind, or none for a reason of a kind. -/
structure Yields (results : α → Prop) (reasons : ε → Prop) (computation : Except ε α) : Prop where
  /-- The kind of its result. -/
  result : ∀ value, computation = .ok value → results value
  /-- The kind of reason for which it has none. -/
  reason : ∀ problem, computation = .error problem → reasons problem

theorem yields_ok {value : α} (holds : results value) : Yields results reasons (.ok value) where
  result := by
    rintro _ ⟨⟩
    exact holds
  reason := nofun

theorem yields_error {problem : ε} (holds : reasons problem) :
    Yields results reasons (.error problem) where
  result := nofun
  reason := by
    rintro _ ⟨⟩
    exact holds

namespace Yields

variable {computation : Except ε α}

theorem mono {more : α → Prop} (yields : Yields results reasons computation)
    (weaker : ∀ value, results value → more value) : Yields more reasons computation where
  result := fun value done => weaker value (yields.result value done)
  reason := yields.reason

theorem bind {next : α → Except ε β} (first : Yields results reasons computation)
    (later : ∀ value, results value → Yields others reasons (next value)) :
    Yields others reasons (computation >>= next) := by
  cases done : computation with
  | error problem => exact yields_error (first.reason problem done)
  | ok value => exact later value (first.result value done)

theorem map {f : α → β} (yields : Yields results reasons computation)
    (holds : ∀ value, results value → others (f value)) :
    Yields others reasons (computation.map f) := by
  cases done : computation with
  | error problem => exact yields_error (yields.reason problem done)
  | ok value => exact yields_ok (holds value (yields.result value done))

end Yields

end ClientGen

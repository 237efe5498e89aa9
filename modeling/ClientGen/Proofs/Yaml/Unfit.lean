import ClientGen.Proofs.Inside
import ClientGen.Yaml.Document

/-!
# Nodes for values that do not exist

A node tree that follows the rules may still name a value that does not exist: a day that no
calendar has, a number with too many digits, a word for neither truth value, a collection that holds
itself as a key. Such a fault of the whole is the fault of one of its nodes.
-/

namespace ClientGen.Yaml

/-! ## Nodes -/

/-- The keys and values of entries. -/
def entryNodes (entries : List (Node × Node)) : List Node :=
  entries.flatMap fun (key, value) => [key, value]

/-- The nodes that a node holds. -/
def Node.parts : Node → List Node
  | .scalar .. | .within _ => []
  | .sequence _ items => items
  | .mapping _ entries => entryNodes entries
  | .recurring content => [content]

/-- A node that names a value that does not exist. -/
inductive Lacks : Node → Fault → Prop
  | scalar {tag : Tag} {text : String} {fault : Fault}
      (lacking : scalarValue tag text = .error (.impossible fault)) :
      Lacks (.scalar (some tag) text) fault
  | standIn {tag : Tag} {entries : List (Node × Node)} {text : String} {fault : Fault}
      (given : Node.defaultText? entries = some text)
      (lacking : scalarValue tag text = .error (.impossible fault)) :
      Lacks (.mapping (some tag) entries) fault
  | timestamp {entries : List (Node × Node)} {text : String}
      (given : Node.defaultText? entries = some text) :
      Lacks (.mapping (some .timestamp) entries) .badKind
  | within (name : String) : Lacks (.within name) .endless

/-- A node that names a value that does not exist or holds such a node, at any depth. -/
def Unfit (node : Node) (fault : Fault) : Prop :=
  ∃ part, Inside Node.parts part node ∧ Lacks part fault

/-- A node of a list that is unfit. -/
def SomeUnfit (nodes : List Node) (fault : Fault) : Prop := ∃ node ∈ nodes, Unfit node fault

variable {α β γ : Type} {node key value : Node} {nodes : List Node} {entries : List (Node × Node)}
  {fault : Fault}

theorem unfit_of_lacks (lacks : Lacks node fault) : Unfit node fault := ⟨node, .self, lacks⟩

theorem unfit_of_some (unfit : SomeUnfit node.parts fault) : Unfit node fault := by
  obtain ⟨next, member, part, inside, lacks⟩ := unfit
  exact ⟨part, .inner member inside, lacks⟩

theorem SomeUnfit.mono {more : List Node} (fewer : nodes ⊆ more) (unfit : SomeUnfit nodes fault) :
    SomeUnfit more fault := by
  obtain ⟨node, member, unfit⟩ := unfit
  exact ⟨node, fewer member, unfit⟩

/-! ## What values are made of -/

/-- A value that is lacking only for one of the given faults, if a fault it is. -/
def Blames (blamed : Fault → Prop) (built : Built α) : Prop :=
  ∀ depth fault, built = .error ⟨depth, .impossible fault⟩ → blamed fault

variable {blamed others : Fault → Prop}

theorem blames_ok (a : α) : Blames blamed (.ok a) := nofun

theorem blames_flawed (depth : Nat) (rule : String) : Blames blamed (flawed depth rule : Built α) :=
  nofun

theorem blames_error {depth : Nat} (holds : blamed fault) :
    Blames blamed (.error ⟨depth, .impossible fault⟩ : Built α) := by
  rintro _ _ ⟨⟩
  exact holds

namespace Blames

theorem mono {built : Built α} (blames : Blames blamed built)
    (more : ∀ fault, blamed fault → others fault) : Blames others built :=
  fun depth fault failed => more fault (blames depth fault failed)

theorem map {built : Built α} (blames : Blames blamed built) (f : α → β) :
    Blames blamed (built.map f) := by
  cases built with
  | ok a => exact blames_ok (f a)
  | error flaw =>
      rintro depth fault ⟨⟩
      exact blames depth fault rfl

theorem both {f : α → β → γ} {first : Built α} {second : Built β} (left : Blames blamed first)
    (right : Blames blamed second) : Blames blamed (Built.both f first second) := by
  cases first with
  | ok a =>
      cases second with
      | ok b => exact blames_ok (f a b)
      | error flaw =>
          rintro depth fault ⟨⟩
          exact right depth fault rfl
  | error flaw =>
      cases second with
      | ok b =>
          rintro depth fault ⟨⟩
          exact left depth fault rfl
      | error other =>
          intro depth fault failed
          rw [Built.both] at failed
          split at failed
          · exact right depth fault (congrArg Except.error (Except.error.inj failed))
          · exact left depth fault (congrArg Except.error (Except.error.inj failed))

theorem all {parts : List (Built α)} (each : ∀ built ∈ parts, Blames blamed built) :
    Blames blamed (Built.all parts) := by
  induction parts with
  | nil => exact blames_ok []
  | cons first rest ih =>
      have others := ih fun built member => each built (List.mem_cons_of_mem _ member)
      exact (each first List.mem_cons_self).both others

end Blames

/-- Entries of which keys and values are lacking only for one of the given faults. -/
def Entries.Blames (blamed : Fault → Prop) (entries : Entries) : Prop :=
  ∀ entry ∈ entries.toList, Yaml.Blames blamed entry.1 ∧ Yaml.Blames blamed entry.2

namespace Entries.Blames

theorem mono {entries : Entries} (blames : entries.Blames blamed)
    (more : ∀ fault, blamed fault → others fault) : entries.Blames others :=
  fun entry member => ⟨(blames entry member).1.mono more, (blames entry member).2.mono more⟩

theorem none : Entries.none.Blames blamed := fun _ member => (List.not_mem_nil member).elim

theorem refused (rule : String) : (Entries.refused rule).Blames blamed :=
  fun _ member => (List.not_mem_nil member).elim

theorem takeOver {entries other : Entries} (first : other.Blames blamed)
    (second : entries.Blames blamed) : (other.takeOver entries).Blames blamed := by
  intro entry member
  rw [Entries.takeOver, Entries.toList, List.append_assoc, List.mem_append] at member
  exact member.elim (first entry) (second entry)

theorem cons {entries : Entries} {entry : Built Value × Built Value}
    (first : Yaml.Blames blamed entry.1 ∧ Yaml.Blames blamed entry.2)
    (others : entries.Blames blamed) :
    ({ entries with own := entry :: entries.own } : Entries).Blames blamed := by
  intro other member
  rcases List.mem_append.mp member with taken | own
  · exact others other (List.mem_append_left _ taken)
  · rcases List.mem_cons.mp own with rfl | later
    · exact first
    · exact others other (List.mem_append_right _ later)

theorem checkedKey {depth : Nat} {key : Built Value} (blames : Yaml.Blames blamed key) :
    Yaml.Blames blamed (Entries.checkedKey depth key) := by
  cases key with
  | error flaw =>
      rintro depth fault ⟨⟩
      exact blames depth fault rfl
  | ok found =>
      rw [Entries.checkedKey, Except.bind]
      split
      · exact blames_ok found
      · exact blames_flawed depth _

theorem build {depth : Nat} {entries : Entries} (blames : entries.Blames blamed) :
    Yaml.Blames blamed (entries.build depth) := by
  rw [Entries.build]
  split
  · exact blames_flawed depth _
  · refine (Yaml.Blames.all fun built member => ?_).map _
    obtain ⟨entry, inside, rfl⟩ := List.mem_map.mp member
    obtain ⟨key, value⟩ := blames entry inside
    exact (checkedKey key).both value

end Entries.Blames

theorem blames_builtScalar (depth : Nat) (tag : Option Tag) (text : String) :
    Blames (fun fault => ∃ known, tag = some known ∧
      scalarValue known text = .error (.impossible fault)) (builtScalar depth tag text) := by
  rw [builtScalar.eq_def]
  split
  · exact blames_flawed depth _
  · next known =>
      intro _ fault failed
      cases found : scalarValue known text with
      | ok value =>
          rw [found] at failed
          cases failed
      | error reason =>
          rw [found] at failed
          cases failed
          exact ⟨known, rfl, found⟩

/-! ## Trees -/

-- The recursion is that of the builders. Each statement names the nodes that its builder was given,
-- because a fault of one of them is a fault of everything around it.
mutual

/-- A fault in the place of a value is the fault of a node inside. -/
theorem blames_build (depth : Nat) : ∀ node, Blames (Unfit node) (build depth node)
  | .scalar tag text => by
      rw [build]
      refine (blames_builtScalar depth tag text).mono ?_
      rintro fault ⟨known, rfl, lacking⟩
      exact unfit_of_lacks (.scalar lacking)
  | .recurring content => by
      rw [build]
      refine ((blames_build depth content).map _).mono fun fault unfit => ?_
      exact unfit_of_some ⟨content, List.mem_singleton_self _, unfit⟩
  | .within name => by
      rw [build]
      exact blames_error (unfit_of_lacks (.within name))
  | .sequence tag items => by
      have held : ∀ fault, SomeUnfit items fault → Unfit (.sequence tag items) fault :=
        fun fault unfit => unfit_of_some unfit
      rw [build.eq_def]
      dsimp only
      split
      · exact ((Blames.all (blames_buildAll (depth + 1) items)).mono held).map _
      · exact ((Blames.all (blames_buildPairs (depth + 1) items)).mono held).map _
      · exact ((Blames.all (blames_buildPairs (depth + 1) items)).mono held).map _
      · exact blames_flawed _ _
      · exact blames_flawed _ _
      · exact blames_flawed _ _
  | .mapping tag entries => by
      have held : ∀ fault, SomeUnfit (entryNodes entries) fault →
          Unfit (.mapping tag entries) fault := fun fault unfit => unfit_of_some unfit
      rw [build.eq_def]
      dsimp only
      split
      · exact ((blames_buildEntries (depth + 1) entries).mono held).build.map _
      · exact ((blames_buildEntries (depth + 1) entries).mono held).build.map _
      · exact blames_flawed _ _
      · exact blames_flawed _ _
      · exact blames_flawed _ _
      · split
        · exact blames_flawed _ _
        · next text given =>
            split
            · next timestamp =>
                rw [timestamp]
                exact blames_error (unfit_of_lacks (.timestamp given))
            · refine (blames_builtScalar depth tag text).mono ?_
              rintro fault ⟨known, rfl, lacking⟩
              exact unfit_of_lacks (.standIn given lacking)

theorem blames_buildAll (depth : Nat) :
    ∀ items, ∀ built ∈ buildAll depth items, Blames (SomeUnfit items) built
  | [] => by
      rw [buildAll]
      exact List.forall_mem_nil _
  | node :: rest => by
      rw [buildAll, List.forall_mem_cons]
      refine ⟨(blames_build depth node).mono fun fault unfit => ?_, fun built member => ?_⟩
      · exact ⟨node, List.mem_cons_self, unfit⟩
      · exact (blames_buildAll depth rest built member).mono fun fault unfit =>
          unfit.mono (List.subset_cons_self node rest)

theorem blames_buildPairs (depth : Nat) :
    ∀ items, ∀ built ∈ buildPairs depth items, Blames (SomeUnfit items) built
  | [] => by
      rw [buildPairs]
      exact List.forall_mem_nil _
  | node :: rest => by
      rw [buildPairs.eq_def]
      dsimp only
      rw [List.forall_mem_cons]
      refine ⟨?_, fun built member => ?_⟩
      · split
        · next tag key value =>
            have held : ∀ fault, SomeUnfit [key, value] fault →
                SomeUnfit (.mapping tag [(key, value)] :: rest) fault :=
              fun fault unfit => ⟨_, List.mem_cons_self, unfit_of_some unfit⟩
            refine (((blames_build depth key).mono fun fault unfit => ?_).both
              ((blames_build depth value).mono fun fault unfit => ?_)).mono held
            · exact ⟨key, List.mem_cons_self, unfit⟩
            · exact ⟨value, List.mem_cons_of_mem _ List.mem_cons_self, unfit⟩
        · exact blames_flawed _ _
      · exact (blames_buildPairs depth rest built member).mono fun fault unfit =>
          unfit.mono (List.subset_cons_self node rest)

theorem blames_buildEntries (depth : Nat) :
    ∀ entries, (buildEntries depth entries).Blames (SomeUnfit (entryNodes entries))
  | [] => by
      rw [buildEntries]
      exact Entries.Blames.none
  | (key, value) :: rest => by
      let nodes := entryNodes ((key, value) :: rest)
      have ofKey : ∀ fault, Unfit key fault → SomeUnfit nodes fault :=
        fun fault unfit => ⟨key, List.mem_cons_self, unfit⟩
      have ofValue : ∀ fault, Unfit value fault → SomeUnfit nodes fault :=
        fun fault unfit => ⟨value, List.mem_cons_of_mem _ List.mem_cons_self, unfit⟩
      have later : (buildEntries depth rest).Blames (SomeUnfit nodes) :=
        (blames_buildEntries depth rest).mono fun fault unfit => unfit.mono
          (List.Subset.trans (List.subset_cons_self value _) (List.subset_cons_self key _))
      rw [buildEntries.eq_def]
      dsimp only
      split
      · split
        · next tag inner =>
            exact ((blames_buildEntries depth inner).mono fun fault unfit =>
              ofValue fault (unfit_of_some unfit)).takeOver later
        · exact later
        · next tag items =>
            exact ((blames_buildMerged depth items).mono fun fault unfit =>
              ofValue fault (unfit_of_some unfit)).takeOver later
        · exact (Entries.Blames.refused _).takeOver later
      · refine Entries.Blames.cons ⟨?_, (blames_build depth value).mono ofValue⟩ later
        split
        · exact blames_ok _
        · exact (blames_build depth key).mono ofKey

theorem blames_buildMerged (depth : Nat) :
    ∀ items, (buildMerged depth items).Blames (SomeUnfit items)
  | [] => by
      rw [buildMerged]
      exact Entries.Blames.none
  | node :: rest => by
      have later : (buildMerged depth rest).Blames (SomeUnfit (node :: rest)) :=
        (blames_buildMerged depth rest).mono fun fault unfit =>
          unfit.mono (List.subset_cons_self node rest)
      rw [buildMerged.eq_def]
      dsimp only
      split
      · next tag inner =>
          have found : (buildEntries depth inner).Blames (SomeUnfit (.mapping tag inner :: rest)) :=
            (blames_buildEntries depth inner).mono fun fault unfit =>
              ⟨_, List.mem_cons_self, unfit_of_some unfit⟩
          intro entry member
          rw [Entries.toList, List.append_nil, List.mem_append] at member
          rcases member with taken | own
          · exact later entry (List.mem_append_left _ taken)
          · exact found entry own
      · exact later
      · exact Entries.Blames.refused _

end

end ClientGen.Yaml

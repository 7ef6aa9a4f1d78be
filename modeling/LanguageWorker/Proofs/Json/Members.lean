import LanguageWorker.Json
import Mathlib.Data.List.Forall2
import Mathlib.Data.List.Nodup

namespace LanguageWorker.Json

/-! Objects by what their members are, without regard to how they were written down. Members
are ordered by key, so an object is fixed by saying which members it has. -/

/-- An object with just the members that `field` tells, in the order of their keys. -/
def HasFields (item : Json) (field : String → Json → Prop) : Prop :=
  ∃ members, item = .object members ∧ Ordered members ∧
    ∀ key value, (key, value) ∈ members ↔ field key value

theorem Ordered.nodup_keys {members : List (String × Json)} (ordered : Ordered members) :
    (members.map Prod.fst).Nodup := by
  apply List.pairwise_map.2
  apply ordered.imp
  intro first second before equal
  exact String.lt_irrefl second.1 (equal ▸ before)

theorem Ordered.nodup {members : List (String × Json)} (ordered : Ordered members) :
    members.Nodup :=
  ordered.nodup_keys.of_map

theorem Ordered.eq_of_mem_iff {first second : List (String × Json)} (ordered : Ordered first)
    (otherOrdered : Ordered second) (same : ∀ member, member ∈ first ↔ member ∈ second) :
    first = second := by
  have permuted : first.Perm second :=
    (List.perm_ext_iff_of_nodup ordered.nodup otherOrdered.nodup).2 same
  refine List.Perm.eq_of_pairwise ?_ ordered otherOrdered permuted
  intro member other _ _ before after
  exact absurd after (String.lt_asymm before)

/-- The members fix the object. -/
theorem HasFields.unique {field : String → Json → Prop} {item other : Json}
    (has : item.HasFields field) (otherHas : other.HasFields field) : item = other := by
  rcases has with ⟨members, rfl, ordered, listed⟩
  rcases otherHas with ⟨others, rfl, otherOrdered, otherListed⟩
  apply congrArg Json.object
  apply ordered.eq_of_mem_iff otherOrdered
  intro member
  rw [listed, otherListed]

theorem HasFields.congr {field other : String → Json → Prop} {item : Json}
    (has : item.HasFields field) (same : ∀ key value, field key value ↔ other key value) :
    item.HasFields other := by
  rcases has with ⟨members, rfl, ordered, listed⟩
  exact ⟨members, rfl, ordered, fun key value => (listed key value).trans (same key value)⟩

theorem mem_member?_iff {name key : String} {written : Option Json} {value : Json} :
    (key, value) ∈ member? name written ↔ key = name ∧ written = some value := by
  cases written with
  | none => simp [member?]
  | some item => simp [member?, eq_comm]

/-- A value as it is described, or null in place of one that is not there. -/
inductive OrNull {α : Type} (describes : α → Json → Prop) : Option α → Json → Prop
  | absent : OrNull describes none .null
  | present {value : α} {item : Json} (described : describes value item) :
      OrNull describes (some value) item

theorem orNull_iff {α : Type} {write : α → Json} {value : Option α} {item : Json} :
    OrNull (fun held other => other = write held) value item ↔ item = orNull (value.map write) := by
  cases value with
  | none =>
      constructor
      · intro written
        cases written
        rfl
      · intro same
        subst same
        exact .absent
  | some value =>
      constructor
      · intro written
        cases written with
        | present described => exact described
      · intro same
        exact .present same

/-- A whole number that is written as it is. -/
def IsWord (word : UInt32) (item : Json) : Prop := item = .number (.integer word.toNat)

theorem orNull_isWord_iff {word : Option UInt32} {item : Json} :
    OrNull IsWord word item ↔ item = orNull (word.map ofWord) :=
  orNull_iff

/-- An array with an item for each value, in their order. -/
def ArrayOf {α : Type} (describes : α → Json → Prop) (values : List α) (item : Json) : Prop :=
  ∃ items, item = .array items ∧ List.Forall₂ describes values items

theorem ArrayOf.unique {α : Type} {describes : α → Json → Prop} {values : List α}
    {item other : Json} (each : ArrayOf describes values item)
    (otherEach : ArrayOf describes values other) (right : Relator.RightUnique describes) :
    item = other := by
  rcases each with ⟨items, rfl, each⟩
  rcases otherEach with ⟨others, rfl, otherEach⟩
  rw [List.right_unique_forall₂' right each otherEach]

theorem arrayOf_map {α : Type} {describes : α → Json → Prop} {write : α → Json}
    (described : ∀ value, describes value (write value)) (values : List α) :
    ArrayOf describes values (.array (values.map write)) := by
  refine ⟨_, rfl, List.forall₂_map_right_iff.2 (List.forall₂_same.2 ?_)⟩
  intro value _
  exact described value

/-- No object has a member of that key, at whatever depth. -/
inductive Lacks (key : String) : Json → Prop
  | null : Lacks key .null
  | boolean (value : Bool) : Lacks key (.boolean value)
  | number (value : Number) : Lacks key (.number value)
  | string (value : String) : Lacks key (.string value)
  | array {items : List Json} (each : ∀ item ∈ items, Lacks key item) : Lacks key (.array items)
  | object {members : List (String × Json)} (absent : ∀ value, (key, value) ∉ members)
      (each : ∀ name value, (name, value) ∈ members → Lacks key value) :
      Lacks key (.object members)

theorem HasFields.lacks {field : String → Json → Prop} {key : String} {item : Json}
    (has : item.HasFields field) (absent : ∀ value, ¬ field key value)
    (each : ∀ name value, field name value → Lacks key value) : Lacks key item := by
  rcases has with ⟨members, rfl, _, listed⟩
  apply Lacks.object
  · intro value member
    exact absent value ((listed key value).1 member)
  · intro name value member
    exact each name value ((listed name value).1 member)

theorem OrNull.lacks {α : Type} {describes : α → Json → Prop} {key : String} {value : Option α}
    {item : Json} (written : OrNull describes value item)
    (each : ∀ held other, describes held other → Lacks key other) : Lacks key item := by
  cases written with
  | absent => exact .null
  | present described => exact each _ _ described

theorem IsWord.lacks {key : String} {word : UInt32} {item : Json} (isWord : IsWord word item) :
    Lacks key item := by
  rw [isWord]
  exact .number _

theorem ArrayOf.lacks {α : Type} {describes : α → Json → Prop} {key : String} {values : List α}
    {item : Json} (each : ArrayOf describes values item)
    (lacks : ∀ value other, describes value other → Lacks key other) : Lacks key item := by
  rcases each with ⟨items, rfl, each⟩
  apply Lacks.array
  induction each with
  | nil => exact List.forall_mem_nil _
  | cons described _ induction =>
      exact List.forall_mem_cons.2 ⟨lacks _ _ described, induction⟩

end LanguageWorker.Json

import LanguageWorker.Json.Reader
import LanguageWorker.Proofs.Json.Objects
import LanguageWorker.Proofs.Results

namespace LanguageWorker.Json

/-! Values whose objects are in order at every depth. Every value that comes out of a text
is one of them: whatever the text says, objects are written member by member. -/

/-- The members of each object are ordered by key, at whatever depth. -/
inductive Sorted : Json → Prop
  | null : Sorted .null
  | boolean (value : Bool) : Sorted (.boolean value)
  | number (value : Number) : Sorted (.number value)
  | string (value : String) : Sorted (.string value)
  | array {items : List Json} (each : ∀ item ∈ items, Sorted item) : Sorted (.array items)
  | object {members : List (String × Json)} (ordered : Ordered members)
      (each : ∀ member ∈ members, Sorted member.2) : Sorted (.object members)

theorem Sorted.of_mem_array {items : List Json} (sorted : Sorted (.array items)) {item : Json}
    (listed : item ∈ items) : Sorted item := by
  cases sorted with
  | array each => exact each item listed

theorem Sorted.ordered {members : List (String × Json)} (sorted : Sorted (.object members)) :
    Ordered members := by
  cases sorted with
  | object ordered each => exact ordered

theorem Sorted.of_mem_object {members : List (String × Json)} (sorted : Sorted (.object members))
    {key : String} {value : Json} (listed : (key, value) ∈ members) : Sorted value := by
  cases sorted with
  | object ordered each => exact each (key, value) listed

attribute [simp] Sorted.null Sorted.boolean Sorted.number Sorted.string

@[simp] theorem sorted_array_iff {items : List Json} :
    Sorted (.array items) ↔ ∀ item ∈ items, Sorted item :=
  ⟨fun sorted _ => sorted.of_mem_array, .array⟩

@[simp] theorem sorted_object_iff {members : List (String × Json)} :
    Sorted (.object members) ↔ Ordered members ∧ ∀ member ∈ members, Sorted member.2 :=
  ⟨fun sorted => ⟨sorted.ordered, fun _ => sorted.of_mem_object⟩, fun both => .object both.1 both.2⟩

@[simp] theorem sorted_ofWord (word : UInt32) : Sorted (ofWord word) := .number _

theorem sorted_ofMembers {members : List (String × Json)}
    (each : ∀ member ∈ members, Sorted member.2) : Sorted (ofMembers members) :=
  .object (Object.ofMembers members).ordered fun member listed =>
    each member (Object.mem_of_mem_ofMembers listed)

/-! ## Values that are read from texts -/

namespace Reader

variable {α β σ : Type}

/-- Whatever the text, what the reader takes from it has the property. -/
def Yields (reader : Reader α) (property : α → Prop) : Prop :=
  ∀ text value rest, reader text = .ok (value, rest) → property value

theorem yields_true (reader : Reader α) : Yields reader fun _ => True :=
  fun _ _ _ _ => trivial

theorem yields_pure {property : α → Prop} {value : α} (holds : property value) :
    Yields (pure value) property := by
  intro text other rest read
  cases read
  exact holds

theorem yields_fail {property : α → Prop} (cause : Malformed) : Yields (fail cause) property := by
  intro text value rest read
  cases read

theorem Yields.bind {property : α → Prop} {later : β → Prop} {first : Reader α}
    {next : α → Reader β} (yields : Yields first property)
    (goesOn : ∀ value, property value → Yields (next value) later) :
    Yields (first >>= next) later := by
  intro text result rest read
  rcases Results.bind_eq_ok_iff.1 read with ⟨⟨value, between⟩, here, read⟩
  exact goesOn value (yields text value between here) between result rest read

theorem yields_of_next {later : β → Prop} {first : Reader α} {next : α → Reader β}
    (goesOn : ∀ value, Yields (next value) later) : Yields (first >>= next) later :=
  (yields_true first).bind fun value _ => goesOn value

theorem yields_items {property : α → Prop} {item : Reader α} (yields : Yields item property)
    (fuel : Nat) (first : Bool) :
    Yields (items item fuel first) fun values => ∀ value ∈ values, property value := by
  induction fuel generalizing first with
  | zero => exact yields_fail _
  | succ fuel induction =>
      unfold items
      refine yields_of_next fun more => ?_
      split
      · refine yields.bind fun value holds => (induction false).bind fun others later => ?_
        exact yields_pure (List.forall_mem_cons.2 ⟨holds, later⟩)
      · exact yields_of_next fun _ => yields_pure (List.forall_mem_nil _)

/-- What each member keeps of the state, all of them together keep. -/
theorem yields_members {invariant : σ → Prop} {member : σ → String → Reader σ}
    (keeps : ∀ state name, invariant state → Yields (member state name) invariant)
    (fuel : Nat) (first : Bool) {start : σ} (holds : invariant start) :
    Yields (members member fuel first start) invariant := by
  induction fuel generalizing first start with
  | zero => exact yields_fail _
  | succ fuel induction =>
      unfold members
      refine yields_of_next fun more => ?_
      split
      · refine yields_of_next fun name => (keeps start name holds).bind fun state holds => ?_
        exact induction false holds
      · exact yields_of_next fun _ => yields_pure holds

theorem yields_head : Yields head Sorted := by
  refine yields_of_next fun front => ?_
  split
  · exact yields_fail _
  · exact yields_pure (.array (List.forall_mem_nil _))
  · exact yields_pure (.object List.Pairwise.nil (List.forall_mem_nil _))
  · exact yields_of_next fun _ => yields_of_next fun _ => yields_pure .null
  · exact yields_of_next fun _ => yields_of_next fun _ => yields_pure (.boolean true)
  · exact yields_of_next fun _ => yields_of_next fun _ => yields_pure (.boolean false)
  · exact yields_of_next fun _ => yields_of_next fun _ => yields_pure (.string _)
  · exact yields_of_next fun _ => yields_of_next fun _ => yields_pure (.number _)
  · split
    · exact yields_of_next fun _ => yields_pure (.number _)
    · exact yields_fail _

theorem yields_value (nesting : Nat) : Yields (value nesting) Sorted := by
  induction nesting with
  | zero =>
      unfold value
      refine yields_head.bind fun front sorted => ?_
      split
      · exact yields_fail _
      · exact yields_fail _
      · exact yields_pure sorted
  | succ nesting induction =>
      unfold value
      refine yields_head.bind fun front sorted => ?_
      split
      · refine Yields.bind ?_ fun items each => yields_pure (.array each)
        exact yields_of_next fun _ => yields_of_next fun text => yields_items induction _ true
      · refine Yields.bind ?_ fun members each => yields_pure (sorted_ofMembers each)
        refine yields_of_next fun _ => yields_of_next fun text => ?_
        refine yields_members ?_ _ true (List.forall_mem_nil _)
        intro sofar name each
        refine yields_of_next fun _ => induction.bind fun item sorted => yields_pure ?_
        exact List.forall_mem_append.2 ⟨each, List.forall_mem_singleton.2 sorted⟩
      · exact yields_pure sorted

end Reader

/-- What a text holds is in order throughout. -/
theorem sorted_of_parse {text : String} {item : Json} (parsed : parse text = .ok item) :
    Sorted item := by
  rcases Results.bind_eq_ok_iff.1 parsed with ⟨⟨value, rest⟩, read, finished⟩
  have sorted : Sorted value := Reader.yields_value _ _ _ _ read
  dsimp only at finished
  split at finished
  · cases finished
    exact sorted
  · cases finished

end LanguageWorker.Json

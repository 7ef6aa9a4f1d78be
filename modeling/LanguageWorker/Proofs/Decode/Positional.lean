import LanguageWorker.Proofs.Decode.Items
import LanguageWorker.Proofs.Decode.OrderedMembers

namespace LanguageWorker.Record

/-! Objects and arrays as two forms of one record. An array holds the values of the fields in
their order, with null for a field that an object leaves out. What is shown below goes
from fields to pairs, and from there to whole records. -/

variable {α β : Type}

/-! ## The same fields in both forms -/

/-- The values of some names in an object, with null for a name that is not there. -/
def inOrder (names : List String) (members : List (String × Json)) : List Json :=
  names.map fun name => (members.lookup name).getD .null

/-- The record takes the same from the members of an object and from the front of an array
of their values. -/
def Positional (record : Record α) : Prop :=
  record.names.Nodup → ∀ {members : List (String × Json)}, Json.Ordered members →
    ∀ {items surplus : List Json} {value : α},
      record.ReadsItems (inOrder record.names members ++ items) value surplus ↔
        record.ofMembers members = .ok value ∧ surplus = items

theorem Positional.and {first : Record α} {second : Record β} (here : first.Positional)
    (later : second.Positional) : (first.and second).Positional := by
  intro distinct members ordered items surplus value
  have apart := nodup_names_of_and distinct
  have joined : inOrder (first.and second).names members ++ items =
      inOrder first.names members ++ (inOrder second.names members ++ items) := by
    rw [inOrder, names_and, List.map_append, List.append_assoc]
    rfl
  rw [joined, readsItems_and_iff, ofMembers_and_eq_ok_iff (disjoint_of_nodup_names distinct)]
  simp only [here apart.1 ordered, later apart.2 ordered, and_assoc, exists_and_left,
    exists_eq_left]

theorem Positional.map {record : Record α} (positional : record.Positional) (transform : α → β) :
    (record.map transform).Positional := by
  intro distinct members ordered items surplus value
  have same : (record.map transform).names = record.names := rfl
  rw [same] at distinct ⊢
  simp only [readsItems_map_iff, ofMembers_map_eq_ok_iff, positional distinct ordered]
  constructor
  · intro reads
    rcases reads with ⟨read, ⟨taken, rest⟩, equal⟩
    exact ⟨⟨read, taken, equal⟩, rest⟩
  · intro described
    rcases described with ⟨⟨read, taken, equal⟩, rest⟩
    exact ⟨read, ⟨taken, rest⟩, equal⟩

section Field

variable {name : String} {decoder : Decoder α} {absent : Except DecodeError α}
  {standIn : Option α}
  (null : ∀ value, decoder.ofJson .null = .ok value ↔ absent = .ok value)
include null

/-- Where null says what leaving a field out says, a field is one value in any case. -/
theorem ofMembers_field_eq_ok_iff_lookup {members : List (String × Json)}
    (ordered : Json.Ordered members) {value : α} :
    (field name decoder absent standIn).ofMembers members = .ok value ↔
      decoder.ofJson ((members.lookup name).getD .null) = .ok value := by
  rw [ofMembers_field_eq_ok_iff]
  cases found : members.lookup name with
  | none =>
      have missing : valuesOf name members = [] :=
        valuesOf_eq_nil_iff.2 (Json.lookup_eq_none_iff.1 found)
      simp [missing, null]
  | some item =>
      have given : valuesOf name members = [item] :=
        (valuesOf_eq_singleton_iff ordered).2 (Json.mem_of_lookup found)
      simp [given]

theorem positional_field : (field name decoder absent standIn).Positional := by
  intro _ members ordered items surplus value
  rw [names_field, readsItems_field_iff, ofMembers_field_eq_ok_iff_lookup null ordered]
  simp only [inOrder, List.map_cons, List.map_nil, List.cons_append, List.nil_append,
    List.cons_ne_nil, false_and, false_or, List.cons.injEq, and_assoc, exists_eq_left']
  exact and_comm.trans (and_congr_right fun _ => eq_comm)

end Field

theorem positional_required {name : String} {decoder : Decoder α}
    (refuses : ∀ value, decoder.ofJson .null ≠ .ok value) :
    (required name decoder).Positional :=
  positional_field fun value => iff_of_false (refuses value) nofun

theorem positional_nullable (name : String) (decoder : Decoder α) :
    (nullable name decoder).Positional :=
  positional_field fun _ => .rfl

theorem positional_optional (name : String) (decoder : Decoder α) :
    (optional name decoder).Positional :=
  positional_field fun _ => .rfl

theorem Positional.decoder_ofJson_iff {record : Record α} (positional : record.Positional)
    (distinct : record.names.Nodup) {members : List (String × Json)}
    (ordered : Json.Ordered members) {title : String} {value : α} :
    (record.decoder title).ofJson (.object members) = .ok value ↔
      (record.decoder title).ofJson (.array (inOrder record.names members)) = .ok value := by
  rw [decoder_ofJson_array_iff, ← List.append_nil (inOrder record.names members),
    positional distinct ordered, and_iff_left rfl]
  rfl

/-! ## What is true of all that is read -/

/-- Whatever a record is read from, it has the property. -/
structure Yields (record : Record α) (property : α → Prop) : Prop where
  ofMembers : record.names.Nodup → ∀ {members : List (String × Json)} {value : α},
    record.ofMembers members = .ok value → property value
  readsItems : ∀ {items surplus : List Json} {value : α},
    record.ReadsItems items value surplus → property value

theorem Yields.second {second : Record β} {property : β → Prop} (yields : second.Yields property)
    (first : Record α) : (first.and second).Yields fun both => property both.2 := by
  constructor
  · intro distinct members value read
    have reads := (ofMembers_and_eq_ok_iff (disjoint_of_nodup_names distinct)).1 read
    exact yields.ofMembers (nodup_names_of_and distinct).2 reads.2
  · intro items surplus value reads
    rcases readsItems_and_iff.1 reads with ⟨_, _, later⟩
    exact yields.readsItems later

theorem Yields.map {record : Record α} {transform : α → β} {property : β → Prop}
    (yields : record.Yields fun value => property (transform value)) :
    (record.map transform).Yields property := by
  constructor
  · intro distinct members value read
    rcases ofMembers_map_eq_ok_iff.1 read with ⟨inner, taken, rfl⟩
    exact yields.ofMembers distinct taken
  · intro items surplus value reads
    rcases readsItems_map_iff.1 reads with ⟨inner, taken, rfl⟩
    exact yields.readsItems taken

theorem yields_optional {name : String} {decoder : Decoder α} {property : Option α → Prop}
    (nothing : property none)
    (reads : ∀ {item value}, decoder.option.ofJson item = .ok value → property value) :
    (optional name decoder).Yields property := by
  constructor
  · intro _ members value read
    rcases ofMembers_field_eq_ok_iff.1 read with ⟨_, absent⟩ | ⟨item, _, given⟩
    · exact Except.ok.inj absent ▸ nothing
    · exact reads given
  · intro items surplus value taken
    rcases readsItems_field_iff.1 taken with ⟨_, _, standIn⟩ | ⟨item, _, given⟩
    · exact Option.some.inj standIn ▸ nothing
    · exact reads given

theorem Yields.of_decoder {record : Record α} {property : α → Prop}
    (yields : record.Yields property) (distinct : record.names.Nodup) {title : String}
    {item : Json} {value : α} (read : (record.decoder title).ofJson item = .ok value) :
    property value := by
  match item, read with
  | .array items, read => exact yields.readsItems (decoder_ofJson_array_iff.1 read)
  | .object members, read => exact yields.ofMembers distinct read

end LanguageWorker.Record

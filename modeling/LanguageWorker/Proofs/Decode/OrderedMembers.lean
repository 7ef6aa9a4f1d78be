import LanguageWorker.Proofs.Decode.Forms
import LanguageWorker.Proofs.Decode.Record
import LanguageWorker.Proofs.Json.Objects

namespace LanguageWorker.Record

/-! Records read from objects whose members are in order. A key has at most one value there,
so a field is either given or left out. An open record keeps the members that are not
among its fields. -/

variable {α : Type} {name : String} {decoder : Decoder α} {members : List (String × Json)}

theorem mem_valuesOf_iff {item : Json} : item ∈ valuesOf name members ↔ (name, item) ∈ members := by
  simp [valuesOf, List.mem_filter]

theorem valuesOf_eq_nil_iff : valuesOf name members = [] ↔ ∀ item, (name, item) ∉ members := by
  simp only [List.eq_nil_iff_forall_not_mem, mem_valuesOf_iff]

theorem nodup_valuesOf (ordered : Json.Ordered members) : (valuesOf name members).Nodup := by
  refine (ordered.nodup.filter _).map_on ?_
  intro member listed other otherListed same
  have key := eq_of_beq (List.mem_filter.1 listed).2
  have otherKey := eq_of_beq (List.mem_filter.1 otherListed).2
  exact Prod.ext (key.trans otherKey.symm) same

theorem valuesOf_eq_singleton_iff (ordered : Json.Ordered members) {item : Json} :
    valuesOf name members = [item] ↔ (name, item) ∈ members := by
  rw [← List.perm_singleton,
    List.perm_ext_iff_of_nodup (nodup_valuesOf ordered) (List.nodup_singleton item)]
  simp only [mem_valuesOf_iff, List.mem_singleton]
  constructor
  · intro single
    exact (single item).2 rfl
  · intro listed other
    refine ⟨fun otherListed => ordered.value_unique otherListed listed, ?_⟩
    intro same
    exact same ▸ listed

section Field

variable {absent : Except DecodeError α} {standIn : Option α} {value : α}

theorem makes_field_of_mem (ordered : Json.Ordered members) {item : Json}
    (listed : (name, item) ∈ members) (read : decoder.ofJson item = .ok value) :
    (field name decoder absent standIn).Makes members value :=
  fun _ => ofMembers_field_eq_ok_iff.2
    (.inr ⟨item, (valuesOf_eq_singleton_iff ordered).2 listed, read⟩)

theorem makes_field_of_absent (missing : ∀ item, (name, item) ∉ members)
    (settled : absent = .ok value) :
    (field name decoder absent standIn).Makes members value :=
  fun _ => ofMembers_field_eq_ok_iff.2 (.inl ⟨valuesOf_eq_nil_iff.2 missing, settled⟩)

end Field

theorem ofMembers_defaulted_eq_ok_iff (ordered : Json.Ordered members) {default value : α} :
    (defaulted name decoder default).ofMembers members = .ok value ↔
      ((∀ item, (name, item) ∉ members) ∧ default = value) ∨
        ∃ item, (name, item) ∈ members ∧ decoder.ofJson item = .ok value := by
  simp only [defaulted, ofMembers_field_eq_ok_iff, valuesOf_eq_nil_iff,
    valuesOf_eq_singleton_iff ordered, Except.ok.injEq]

/-! Optional fields. None of their decoders takes null for a value. -/

section Optional

variable (ordered : Json.Ordered members) (refuses : ∀ value, decoder.ofJson .null ≠ .ok value)
include ordered refuses

/-- An optional field is nothing when it is left out or null, and else it is read. -/
theorem ofMembers_optional_eq_ok_iff {value : Option α} :
    (optional name decoder).ofMembers members = .ok value ↔
      ((∀ item, (name, item) ∈ members → item = .null) ∧ value = none) ∨
        ∃ item read, (name, item) ∈ members ∧ decoder.ofJson item = .ok read ∧
          value = some read := by
  rw [optional, ofMembers_defaulted_eq_ok_iff ordered]
  constructor
  · intro read
    rcases read with ⟨absent, rfl⟩ | ⟨item, listed, read⟩
    · exact .inl ⟨fun item listed => absurd listed (absent item), rfl⟩
    · rcases (Decoder.option_ofJson_iff refuses).1 read with ⟨rfl, rfl⟩ | ⟨inner, reads, rfl⟩
      · exact .inl ⟨fun item other => ordered.value_unique other listed, rfl⟩
      · exact .inr ⟨item, inner, listed, reads, rfl⟩
  · intro described
    rcases described with ⟨absent, rfl⟩ | ⟨item, inner, listed, reads, rfl⟩
    · by_cases given : (name, .null) ∈ members
      · exact .inr ⟨.null, given, rfl⟩
      · refine .inl ⟨fun item listed => given ?_, rfl⟩
        exact absent item listed ▸ listed
    · exact .inr ⟨item, listed, (Decoder.option_ofJson_iff refuses).2 (.inr ⟨inner, reads, rfl⟩)⟩

theorem eq_some_iff_of_ofMembers_optional {value : Option α}
    (read : (optional name decoder).ofMembers members = .ok value) {inner : α} :
    value = some inner ↔ ∃ item, (name, item) ∈ members ∧ decoder.ofJson item = .ok inner := by
  rcases (ofMembers_optional_eq_ok_iff ordered refuses).1 read with
    ⟨absent, rfl⟩ | ⟨item, other, listed, reads, rfl⟩
  · refine iff_of_false nofun ?_
    intro described
    rcases described with ⟨item, listed, reads⟩
    exact refuses inner (absent item listed ▸ reads)
  · constructor
    · intro same
      exact ⟨item, listed, Option.some.inj same ▸ reads⟩
    · intro described
      rcases described with ⟨item', listed', reads'⟩
      rw [ordered.value_unique listed' listed, reads] at reads'
      exact congrArg some (Except.ok.inj reads')

theorem ofMembers_optional_of_mem {item : Json} (listed : (name, item) ∈ members)
    {value : Option α} :
    (optional name decoder).ofMembers members = .ok value ↔
      (item = .null ∧ value = none) ∨
        ∃ read, decoder.ofJson item = .ok read ∧ some read = value := by
  rw [optional, ofMembers_defaulted_eq_ok_iff ordered, ← Decoder.option_ofJson_iff refuses]
  constructor
  · intro read
    rcases read with ⟨absent, _⟩ | ⟨other, otherListed, read⟩
    · exact absurd listed (absent item)
    · exact ordered.value_unique otherListed listed ▸ read
  · intro read
    exact .inr ⟨item, listed, read⟩

/-- Where reading can be undone, what is written of an optional field is what was given. -/
theorem map_eq_some_iff_of_ofMembers_optional {value : Option α} {write : α → Json}
    (read : (optional name decoder).ofMembers members = .ok value)
    (undone : ∀ item inner, (name, item) ∈ members → decoder.ofJson item = .ok inner →
      write inner = item) {item : Json} :
    value.map write = some item ↔ (name, item) ∈ members ∧ item ≠ .null := by
  constructor
  · intro written
    rcases Option.map_eq_some_iff.1 written with ⟨inner, present, rfl⟩
    rcases (eq_some_iff_of_ofMembers_optional ordered refuses read).1 present with
      ⟨item, listed, reads⟩
    rw [undone item inner listed reads]
    exact ⟨listed, fun null => refuses inner (null ▸ reads)⟩
  · intro given
    rcases ((ofMembers_optional_of_mem ordered refuses given.1).1 read).resolve_left
      (fun null => given.2 null.1) with ⟨inner, reads, rfl⟩
    exact congrArg some (undone item inner given.1 reads)

/-- An optional field that has been written is read as it was. -/
theorem ofMembers_optional_of_written {write : α → Json} {value : Option α}
    (listed : ∀ item, (name, item) ∈ members ↔ value.map write = some item)
    (reads : ∀ inner, decoder.ofJson (write inner) = .ok inner) :
    (optional name decoder).ofMembers members = .ok value := by
  apply (ofMembers_optional_eq_ok_iff ordered refuses).2
  cases value with
  | none => exact .inl ⟨fun item present => absurd ((listed item).1 present) nofun, rfl⟩
  | some inner => exact .inr ⟨write inner, inner, (listed _).2 rfl, reads inner, rfl⟩

end Optional

/-! ## Open records -/

/-- The members that are none of the record's fields. -/
def surplus (record : Record α) (members : List (String × Json)) : List (String × Json) :=
  members.filter fun member => member.1 ∉ record.names

theorem ordered_surplus (record : Record α) (ordered : Json.Ordered members) :
    Json.Ordered (record.surplus members) :=
  ordered.filter _

theorem keepMember_of_known {record : Record α} {draft : record.Draft × List (String × Json)}
    {member : String × Json} (known : member.1 ∈ record.names) :
    record.keepMember draft member =
      (record.takeMember draft.1 member).map fun taken => (taken, draft.2) := by
  unfold keepMember
  split
  · next missing => exact absurd known (field?_eq_none_iff.1 missing)
  · rfl

theorem keepMember_of_unknown {record : Record α} {draft : record.Draft × List (String × Json)}
    {member : String × Json} (unknown : member.1 ∉ record.names) :
    record.keepMember draft member = .ok (draft.1, draft.2 ++ [member]) := by
  rw [keepMember, field?_eq_none_iff.2 unknown]

/-- The fields take what they would take alone, and the rest is kept in its order. -/
theorem foldlM_keepMember_eq_ok_iff {record : Record α}
    {draft filled : record.Draft × List (String × Json)} :
    members.foldlM record.keepMember draft = .ok filled ↔
      members.foldlM record.takeMember draft.1 = .ok filled.1 ∧
        draft.2 ++ record.surplus members = filled.2 := by
  induction members generalizing draft with
  | nil =>
      rw [surplus, List.filter_nil, List.append_nil]
      exact ⟨fun same => by cases same; exact ⟨rfl, rfl⟩,
        fun same => congrArg Except.ok (Prod.ext (Except.ok.inj same.1) same.2)⟩
  | cons member rest induction =>
      rw [List.foldlM_cons, List.foldlM_cons]
      -- A known member goes into the draft, and an unknown one behind those kept so far.
      by_cases known : member.1 ∈ record.names
      · have passed : record.surplus (member :: rest) = record.surplus rest := by
          simp [surplus, known]
        rw [passed, keepMember_of_known known]
        cases record.takeMember draft.1 member with
        | error cause => exact iff_of_false nofun fun described => nomatch described.1
        | ok taken => exact induction
      · have kept : record.surplus (member :: rest) = member :: record.surplus rest := by
          simp [surplus, known]
        rw [kept, keepMember_of_unknown known, takeMember_of_unknown known]
        have later := @induction (draft.1, draft.2 ++ [member])
        simp only [List.append_assoc, List.singleton_append] at later
        exact later

theorem openDecoder_ofJson_iff {record : Record α} {title : String} {item : Json} {value : α}
    {other : Json.Object} :
    (record.openDecoder title).ofJson item = .ok (value, other) ↔
      ∃ members, item = .object members ∧ record.ofMembers members = .ok value ∧
        Json.Object.ofMembers (record.surplus members) = other := by
  constructor
  · intro read
    match item, read with
    | .object members, read =>
        rcases Results.bind_eq_ok_iff.1 read with ⟨draft, kept, finished⟩
        rcases Results.map_eq_ok_iff.1 finished with ⟨value, ended, equal⟩
        rcases foldlM_keepMember_eq_ok_iff.1 kept with ⟨taken, rest⟩
        cases equal
        rw [List.nil_append] at rest
        exact ⟨members, rfl, Results.bind_eq_ok_iff.2 ⟨_, taken, ended⟩, rest ▸ rfl⟩
  · intro described
    rcases described with ⟨members, rfl, reads, rfl⟩
    rcases Results.bind_eq_ok_iff.1 reads with ⟨draft, taken, finished⟩
    refine Results.bind_eq_ok_iff.2 ⟨(draft, record.surplus members), ?_, ?_⟩
    · exact foldlM_keepMember_eq_ok_iff.2 ⟨taken, rfl⟩
    · exact Results.map_eq_ok_iff.2 ⟨value, finished, rfl⟩

end LanguageWorker.Record

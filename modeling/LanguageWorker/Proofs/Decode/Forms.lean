import LanguageWorker.Decode.Decoder
import LanguageWorker.Proofs.Results

namespace LanguageWorker.Decoder

/-! The JSON values that each decoder accepts, and what it makes of them. -/

variable {α : Type}

theorem string_ofJson_iff {item : Json} {value : String} :
    string.ofJson item = .ok value ↔ item = .string value := by
  constructor
  · intro read
    cases item <;> cases read
    rfl
  · intro same
    subst same
    rfl

theorem boolean_ofJson_iff {item : Json} {value : Bool} :
    boolean.ofJson item = .ok value ↔ item = .boolean value := by
  constructor
  · intro read
    cases item <;> cases read
    rfl
  · intro same
    subst same
    rfl

theorem word_ofJson_ofWord (value : UInt32) : word.ofJson (.ofWord value) = .ok value := by
  have allowed : (decide (0 ≤ (value.toNat : Int)) &&
      decide ((value.toNat : Int) < UInt32.size)) = true := by
    rw [Bool.and_eq_true, decide_eq_true_eq, decide_eq_true_eq]
    exact ⟨Int.natCast_nonneg _, Int.ofNat_lt.2 value.toNat_lt⟩
  simp only [word, ofScalar, Json.ofWord, Json.ofNat]
  rw [if_pos allowed, Int.toNat_natCast, UInt32.ofNat_toNat]

/-- A word is a whole number that 32 bits hold. -/
theorem word_ofJson_iff {item : Json} {value : UInt32} :
    word.ofJson item = .ok value ↔ item = .ofWord value := by
  refine ⟨?_, fun equal => equal ▸ word_ofJson_ofWord value⟩
  intro read
  match item, read with
  | .number (.integer number), read =>
      simp only [word, ofScalar] at read
      split at read
      · next allowed =>
          simp only [Bool.and_eq_true, decide_eq_true_eq] at allowed
          cases read
          have small : number.toNat < UInt32.size := by omega
          rw [Json.ofWord, Json.ofNat, UInt32.toNat_ofNat_of_lt' small,
            Int.toNat_of_nonneg allowed.1]
      · cases read

theorem json_ofJson_iff {item value : Json} : json.ofJson item = .ok value ↔ item = value :=
  ⟨fun read => Except.ok.inj read, fun equal => congrArg Except.ok equal⟩

theorem map_ofJson_iff {β : Type} {decoder : Decoder α} {transform : α → β} {item : Json}
    {value : β} :
    (decoder.map transform).ofJson item = .ok value ↔
      ∃ read, decoder.ofJson item = .ok read ∧ transform read = value :=
  Results.map_eq_ok_iff

/-- Where null is no value, it is nothing. -/
theorem option_ofJson_iff {decoder : Decoder α}
    (refuses : ∀ value, decoder.ofJson .null ≠ .ok value) {item : Json} {value : Option α} :
    decoder.option.ofJson item = .ok value ↔
      (item = .null ∧ value = none) ∨
        ∃ read, decoder.ofJson item = .ok read ∧ some read = value := by
  by_cases null : item = .null
  · subst null
    have nothing : decoder.option.ofJson .null = .ok none := rfl
    simp [nothing, refuses, eq_comm]
  · have something : decoder.option.ofJson item = (decoder.ofJson item).map some := by
      cases item <;> first | rfl | exact absurd rfl null
    rw [something, Results.map_eq_ok_iff, or_iff_right fun nothing => null nothing.1]

theorem list_ofJson_iff {decoder : Decoder α} {item : Json} {values : List α} :
    (list decoder).ofJson item = .ok values ↔
      ∃ items, item = .array items ∧
        List.Forall₂ (fun item value => decoder.ofJson item = .ok value) items values := by
  constructor
  · intro read
    match item, read with
    | .array items, read => exact ⟨items, rfl, Results.mapM_eq_ok_iff.1 read⟩
  · intro described
    rcases described with ⟨items, rfl, reads⟩
    exact Results.mapM_eq_ok_iff.2 reads

/-- What is true of every value that is read is true throughout a list of them. -/
theorem forall_mem_of_list_ofJson {decoder : Decoder α} {property : α → Prop}
    (reads : ∀ item value, decoder.ofJson item = .ok value → property value) {item : Json}
    {values : List α} (read : (list decoder).ofJson item = .ok values) :
    ∀ value ∈ values, property value := by
  rcases list_ofJson_iff.1 read with ⟨items, _, each⟩
  exact Results.forall_mem_of_mapM reads (Results.mapM_eq_ok_iff.2 each)

/-- What describes values one by one is read as they are, apart from what `transform` does. -/
theorem list_ofJson_of_forall₂ {decoder : Decoder α} {describes : α → Json → Prop}
    {transform : α → α} {values : List α} {items : List Json}
    (each : List.Forall₂ describes values items)
    (reads : ∀ {value item}, describes value item → decoder.ofJson item = .ok (transform value)) :
    (list decoder).ofJson (.array items) = .ok (values.map transform) := by
  apply list_ofJson_iff.2
  refine ⟨items, rfl, List.forall₂_map_right_iff.2 ?_⟩
  exact each.flip.imp fun _ _ described => reads described

/-- Where each value has one written form, so has a list of them. -/
theorem list_ofJson_iff_map {decoder : Decoder α} {write : α → Json}
    (reads : ∀ {item value}, decoder.ofJson item = .ok value ↔ item = write value) {item : Json}
    {values : List α} :
    (list decoder).ofJson item = .ok values ↔ item = .array (values.map write) := by
  have written {items : List Json} :
      List.Forall₂ (fun item value => item = write value) items values ↔
        items = values.map write := by
    rw [← List.forall₂_eq_eq_eq, List.forall₂_map_right_iff]
  simp only [list_ofJson_iff, reads, written, exists_eq_right]

/-- The members keep their keys and their order. -/
theorem members_ofJson_iff {decoder : Decoder α} {item : Json} {values : List (String × α)} :
    (members decoder).ofJson item = .ok values ↔
      ∃ members, item = .object members ∧
        List.Forall₂ (fun member value => member.1 = value.1 ∧
          decoder.ofJson member.2 = .ok value.2) members values := by
  have step (member : String × Json) (value : String × α) :
      (do return (member.1, ← decoder.ofJson member.2) : Except DecodeError (String × α)) =
          .ok value ↔ member.1 = value.1 ∧ decoder.ofJson member.2 = .ok value.2 := by
    rw [Results.bind_eq_ok_iff]
    constructor
    · intro succeeds
      rcases succeeds with ⟨_, read, equal⟩
      cases equal
      exact ⟨rfl, read⟩
    · intro described
      rcases described with ⟨same, read⟩
      exact ⟨value.2, read, congrArg Except.ok (Prod.ext same rfl)⟩
  constructor
  · intro read
    match item, read with
    | .object members, read =>
        exact ⟨members, rfl, (Results.mapM_eq_ok_iff.1 read).imp fun _ _ => (step _ _).1⟩
  · intro described
    rcases described with ⟨members, rfl, reads⟩
    exact Results.mapM_eq_ok_iff.2 (reads.imp fun _ _ => (step _ _).2)

theorem object_ofJson_iff {item : Json} {value : Json.Object} :
    object.ofJson item = .ok value ↔
      ∃ members, item = .object members ∧ Json.Object.ofMembers members = value := by
  have kept {members read : List (String × Json)} :
      List.Forall₂ (fun member value => member.1 = value.1 ∧ json.ofJson member.2 = .ok value.2)
        members read ↔ members = read := by
    rw [← List.forall₂_eq_eq_eq]
    refine ⟨fun reads => reads.imp ?_, fun equal => equal.imp ?_⟩
    · exact fun _ _ same => Prod.ext same.1 (json_ofJson_iff.1 same.2)
    · exact fun _ _ same => same ▸ ⟨rfl, rfl⟩
  simp only [object, map_ofJson_iff, members_ofJson_iff, kept]
  constructor
  · intro succeeds
    rcases succeeds with ⟨_, ⟨members, same, rfl⟩, equal⟩
    exact ⟨members, same, equal⟩
  · intro described
    rcases described with ⟨members, same, equal⟩
    exact ⟨members, ⟨members, same, rfl⟩, equal⟩

end LanguageWorker.Decoder

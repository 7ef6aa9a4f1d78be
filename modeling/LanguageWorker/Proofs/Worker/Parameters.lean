import LanguageWorker.Payload
import LanguageWorker.Proofs.Payload.ExtraLibs
import LanguageWorker.Worker.Parameters

namespace LanguageWorker

/-! The types of parameters, the JSON values of each type, and the arrays that a list of
types describes. -/

inductive ParameterType where
  | text
  | word
  | flag
  | texts
  | words
  | extraLibs
  | preferences
  /-- Any JSON value. -/
  | anything
  deriving DecidableEq, Repr

namespace ParameterType

/-- What a parameter is read as. -/
@[reducible] def Value : ParameterType → Type
  | text => String
  | word => UInt32
  | flag => Bool
  | texts => List String
  | words => List UInt32
  | extraLibs => ExtraLibs
  | preferences => Preferences
  | anything => Json

/-- A JSON value is read as a value of the type. -/
def Reads : (type : ParameterType) → Json → type.Value → Prop
  | text, item, value => item = .string value
  | word, item, value => item = .ofWord value
  | flag, item, value => item = .boolean value
  | texts, item, values => item = .array (values.map Json.string)
  | words, item, values => item = .array (values.map Json.ofWord)
  | extraLibs, item, libs => ExtraLibs.Form item libs
  | preferences, item, value =>
      ∃ members, item = .object members ∧
        ∀ key held, (key, held) ∈ value.members ↔ OrderedMap.LastEntry members key held
  | anything, item, value => item = value

def decoder : (type : ParameterType) → Decoder type.Value
  | text => .string
  | word => .word
  | flag => .boolean
  | texts => .list .string
  | words => .list .word
  | extraLibs => ExtraLibs.decoder
  | preferences => .object
  | anything => .json

theorem ofJson_decoder_iff {type : ParameterType} {item : Json} {value : type.Value} :
    type.decoder.ofJson item = .ok value ↔ type.Reads item value := by
  cases type with
  | text => exact Decoder.string_ofJson_iff
  | word => exact Decoder.word_ofJson_iff
  | flag => exact Decoder.boolean_ofJson_iff
  | texts => exact Decoder.list_ofJson_iff_map Decoder.string_ofJson_iff
  | words => exact Decoder.list_ofJson_iff_map Decoder.word_ofJson_iff
  | extraLibs => exact ExtraLibs.ofJson_eq_ok_iff
  | preferences =>
      simp only [decoder, Reads, Decoder.object_ofJson_iff, Json.Object.ofMembers_eq_iff]
  | anything => exact Decoder.json_ofJson_iff

/-- The values of parameters that stand one after the other. -/
@[reducible] def Values : List ParameterType → Type
  | [] => Unit
  | type :: types => type.Value × Values types

/-- The items are as many as the types, and each is read at its own place. -/
def ReadsAll : (types : List ParameterType) → List Json → Values types → Prop
  | [], [], _ => True
  | type :: types, item :: items, (value, values) =>
      type.Reads item value ∧ ReadsAll types items values
  | _, _, _ => False

/-- An array of parameters of these types. -/
def Fits (types : List ParameterType) (given : Json) : Prop :=
  ∃ items values, given = .array items ∧ ReadsAll types items values

theorem readsAll_nil_iff {items : List Json} {values : Values []} :
    ReadsAll [] items values ↔ items = [] := by
  cases items with
  | nil => simp [ReadsAll]
  | cons item items => simp [ReadsAll]

theorem readsAll_cons_iff {type : ParameterType} {types : List ParameterType} {items : List Json}
    {values : Values (type :: types)} :
    ReadsAll (type :: types) items values ↔
      ∃ item rest, items = item :: rest ∧ type.Reads item values.1 ∧
        ReadsAll types rest values.2 := by
  cases items with
  | nil => simp [ReadsAll]
  | cons item items => simp [ReadsAll]

end ParameterType

namespace Parameters

open ParameterType

variable {α β : Type}

/-- The parameters take the items that the types describe from the front of a list, and
make of their values what `build` does. -/
def Takes (parameters : Parameters α) (types : List ParameterType) (build : Values types → α) :
    Prop :=
  ∀ items value rest, parameters.take items = .ok (value, rest) ↔
    ∃ front values, items = front ++ rest ∧ ReadsAll types front values ∧ build values = value

theorem take_one_eq_ok_iff {decoder : Decoder α} {items rest : List Json} {value : α} :
    (one decoder).take items = .ok (value, rest) ↔
      ∃ item, items = item :: rest ∧ decoder.ofJson item = .ok value := by
  cases items with
  | nil => simp [one]
  | cons item items =>
      cases read : decoder.ofJson item with
      | error cause => simp [one, read]
      | ok found => simp [one, read, and_comm]

theorem take_and_eq_ok_iff {first : Parameters α} {second : Parameters β} {items rest : List Json}
    {value : α × β} :
    (first.and second).take items = .ok (value, rest) ↔
      ∃ between, first.take items = .ok (value.1, between) ∧
        second.take between = .ok (value.2, rest) := by
  simp only [Parameters.and, Results.bind_eq_ok_iff]
  constructor
  · intro succeeds
    rcases succeeds with ⟨⟨value, between⟩, taken, ⟨value', rest⟩, taken', equal⟩
    cases equal
    exact ⟨between, taken, taken'⟩
  · intro described
    rcases described with ⟨between, taken, taken'⟩
    exact ⟨(value.1, between), taken, (value.2, rest), taken', rfl⟩

theorem take_map_eq_ok_iff {transform : α → β} {parameters : Parameters α}
    {items rest : List Json} {value : β} :
    (parameters.map transform).take items = .ok (value, rest) ↔
      ∃ read, parameters.take items = .ok (read, rest) ∧ transform read = value := by
  simp only [Parameters.map, Results.bind_eq_ok_iff]
  constructor
  · intro succeeds
    rcases succeeds with ⟨⟨read, rest⟩, taken, equal⟩
    cases equal
    exact ⟨read, taken, rfl⟩
  · intro described
    rcases described with ⟨read, taken, rfl⟩
    exact ⟨(read, rest), taken, rfl⟩

theorem takes_one (type : ParameterType) :
    (one type.decoder).Takes [type] fun values => values.1 := by
  intro items value rest
  simp only [take_one_eq_ok_iff, ofJson_decoder_iff, readsAll_cons_iff, readsAll_nil_iff]
  constructor
  · intro succeeds
    rcases succeeds with ⟨item, rfl, read⟩
    exact ⟨[item], (value, ()), rfl, ⟨item, [], rfl, read, rfl⟩, rfl⟩
  · intro described
    rcases described with ⟨_, values, rfl, ⟨item, _, rfl, read, rfl⟩, rfl⟩
    exact ⟨item, rfl, read⟩

theorem Takes.cons (type : ParameterType) {parameters : Parameters α}
    {types : List ParameterType} {build : Values types → α}
    (takes : parameters.Takes types build) :
    ((one type.decoder).and parameters).Takes (type :: types)
      fun values => (values.1, build values.2) := by
  intro items value rest
  simp only [take_and_eq_ok_iff, take_one_eq_ok_iff, ofJson_decoder_iff, readsAll_cons_iff,
    takes _ _ _]
  constructor
  · intro succeeds
    rcases succeeds with ⟨_, ⟨item, rfl, read⟩, front, values, rfl, reads, equal⟩
    exact ⟨item :: front, (value.1, values), rfl, ⟨item, front, rfl, read, reads⟩,
      Prod.ext rfl equal⟩
  · intro described
    rcases described with ⟨_, values, rfl, ⟨item, front, rfl, read, reads⟩, rfl⟩
    exact ⟨front ++ rest, ⟨item, rfl, read⟩, front, values.2, rfl, reads, rfl⟩

theorem Takes.map (transform : α → β) {parameters : Parameters α}
    {types : List ParameterType} {build : Values types → α}
    (takes : parameters.Takes types build) :
    (parameters.map transform).Takes types fun values => transform (build values) := by
  intro items value rest
  simp only [take_map_eq_ok_iff, takes _ _ _]
  constructor
  · intro succeeds
    rcases succeeds with ⟨_, ⟨front, values, rfl, reads, rfl⟩, rfl⟩
    exact ⟨front, values, rfl, reads, rfl⟩
  · intro described
    rcases described with ⟨front, values, rfl, reads, rfl⟩
    exact ⟨_, ⟨front, values, rfl, reads, rfl⟩, rfl⟩

theorem decode_eq_ok_iff {parameters : Parameters α} {given : Json} {value : α} :
    parameters.decode given = .ok value ↔
      ∃ items, given = .array items ∧ parameters.take items = .ok (value, []) := by
  constructor
  · intro decoded
    match given, decoded with
    | .array items, decoded =>
        refine ⟨items, rfl, ?_⟩
        simp only [decode] at decoded
        split at decoded
        · next taken => rw [taken, Except.ok.inj decoded]
        · cases decoded
        · cases decoded
        · cases decoded
  · intro described
    rcases described with ⟨items, rfl, taken⟩
    simp only [decode, taken]

/-- Nothing may be left over. -/
theorem Takes.decode_eq_ok_iff {parameters : Parameters α} {types : List ParameterType}
    {build : Values types → α} (takes : parameters.Takes types build) {given : Json} {value : α} :
    parameters.decode given = .ok value ↔
      ∃ items values, given = .array items ∧ ReadsAll types items values ∧
        build values = value := by
  simp only [Parameters.decode_eq_ok_iff, takes _ _ _, List.append_nil]
  constructor
  · intro succeeds
    rcases succeeds with ⟨items, rfl, _, values, rfl, reads, equal⟩
    exact ⟨items, values, rfl, reads, equal⟩
  · intro described
    rcases described with ⟨items, values, rfl, reads, equal⟩
    exact ⟨items, rfl, items, values, rfl, reads, equal⟩

example : ((one .string).and (one .word)).decode (.array [.string "a", .ofWord 3]) =
    .ok ("a", 3) := rfl

example : ((one .string).and (one .word)).decode (.array [.string "a", .ofWord 3, .null]) =
    .error (.invalidLength 3 "fewer elements in array") := rfl

end Parameters

end LanguageWorker

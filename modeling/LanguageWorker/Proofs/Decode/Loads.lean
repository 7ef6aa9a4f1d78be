import LanguageWorker.Proofs.Decode.Record
import LanguageWorker.Proofs.Json.Sorted

namespace LanguageWorker

/-! What is true of every value that a decoder reads from a text or from a TOML value. Each
way to make decoders of others hands such a property on, so a property of all payloads is
a matter of the few places where it arises. -/

namespace Json.Reader

variable {α β σ : Type} {property : α → Prop}

theorem yields_throw (cause : DecodeError) : Yields (throw cause) property := by
  intro text value rest read
  cases read

theorem yields_lift {result : Except DecodeError α}
    (holds : ∀ value, result = .ok value → property value) :
    Yields (Decoder.lift result) property := by
  intro text value rest read
  rcases Results.map_eq_ok_iff.1 read with ⟨other, succeeds, same⟩
  cases same
  exact holds value succeeds

theorem Yields.map {transform : β → α} {reader : Reader β}
    (yields : Yields reader fun value => property (transform value)) :
    Yields (transform <$> reader) property := by
  intro text value rest read
  rcases Results.bind_eq_ok_iff.1 read with ⟨⟨other, between⟩, here, same⟩
  cases same
  exact yields text other rest here

theorem yields_object {invariant : σ → Prop} {member : σ → String → Reader σ}
    (keeps : ∀ state name, invariant state → Yields (member state name) invariant)
    {start : σ} (holds : invariant start) : Yields (object member start) invariant :=
  yields_of_next fun _ => yields_of_next fun _ => yields_members keeps _ true holds

theorem yields_opened {nesting : Nat} {inside : Nat → Reader α}
    (yields : ∀ nesting, Yields (inside nesting) property) :
    Yields (Decoder.opened nesting inside) property := by
  cases nesting with
  | zero => exact yields_fail _
  | succ nesting => exact yields nesting

end Json.Reader

open Json.Reader (yields_pure yields_of_next yields_throw yields_lift yields_object yields_opened)

/-! ## Values -/

namespace Toml

mutual

theorem sorted_toJson {item : Toml} {json : Json} (read : item.toJson = .ok json) :
    json.Sorted := by
  match item, read with
  | .string value, read =>
      cases read
      exact .string value
  | .integer value, read =>
      unfold toJson at read
      split at read
      · cases read
        exact .number _
      · cases read
  | .float none, read =>
      cases read
      exact .null
  | .float (some value), read =>
      cases read
      exact .number _
  | .boolean value, read =>
      cases read
      exact .boolean value
  | .array items, read =>
      unfold toJson at read
      rcases Results.bind_eq_ok_iff.1 read with ⟨values, each, same⟩
      cases same
      exact .array (sorted_itemsToJson each)
  | .table members, read =>
      unfold toJson at read
      rcases Results.bind_eq_ok_iff.1 read with ⟨values, each, same⟩
      cases same
      exact Json.sorted_ofMembers (sorted_membersToJson each)

theorem sorted_itemsToJson {items : List Toml} {values : List Json}
    (read : itemsToJson items = .ok values) : ∀ value ∈ values, value.Sorted := by
  match items, read with
  | [], read =>
      cases read
      exact List.forall_mem_nil _
  | item :: rest, read =>
      unfold itemsToJson at read
      rcases Results.bind_eq_ok_iff.1 read with ⟨value, here, read⟩
      rcases Results.bind_eq_ok_iff.1 read with ⟨others, later, same⟩
      cases same
      exact List.forall_mem_cons.2 ⟨sorted_toJson here, sorted_itemsToJson later⟩

theorem sorted_membersToJson {members : List (String × Toml)} {values : List (String × Json)}
    (read : membersToJson members = .ok values) : ∀ member ∈ values, member.2.Sorted := by
  match members, read with
  | [], read =>
      cases read
      exact List.forall_mem_nil _
  | (key, item) :: rest, read =>
      unfold membersToJson at read
      rcases Results.bind_eq_ok_iff.1 read with ⟨value, here, read⟩
      rcases Results.bind_eq_ok_iff.1 read with ⟨others, later, same⟩
      cases same
      exact List.forall_mem_cons.2 ⟨sorted_toJson here, sorted_membersToJson later⟩

end

end Toml

/-- Every value that the decoder reads from a text or a TOML value has the property. -/
structure Decoder.Loads {α : Type} (decoder : Decoder α) (property : α → Prop) : Prop where
  ofText (nesting : Nat) : Json.Reader.Yields (decoder.ofText nesting) property
  ofToml (item : Toml) (value : α) (read : decoder.ofToml item = .ok value) : property value

namespace Decoder

variable {α β : Type} {property : α → Prop}

theorem loads_true (decoder : Decoder α) : decoder.Loads fun _ => True :=
  ⟨fun _ => Json.Reader.yields_true _, fun _ _ _ => trivial⟩

theorem Loads.imp {decoder : Decoder α} {weaker : α → Prop} (loads : decoder.Loads property)
    (implies : ∀ value, property value → weaker value) : decoder.Loads weaker where
  ofText nesting text value rest read := implies value (loads.ofText nesting text value rest read)
  ofToml item value read := implies value (loads.ofToml item value read)

theorem Loads.map {transform : β → α} {decoder : Decoder β}
    (loads : decoder.Loads fun value => property (transform value)) :
    (decoder.map transform).Loads property where
  ofText nesting := (loads.ofText nesting).map
  ofToml item value read := by
    rcases Results.map_eq_ok_iff.1 read with ⟨other, here, rfl⟩
    exact loads.ofToml item other here

theorem Loads.option {decoder : Decoder α} (loads : decoder.Loads property) :
    decoder.option.Loads fun value? => ∀ value ∈ value?, property value := by
  have something (value : α) (holds : property value) :
      ∀ other ∈ some value, property other := by
    intro other same
    cases same
    exact holds
  constructor
  · intro nesting
    refine yields_of_next fun front => ?_
    split
    · exact yields_of_next fun _ => yields_of_next fun _ => yields_pure nofun
    · intro text value? rest read
      rcases Results.bind_eq_ok_iff.1 read with ⟨⟨value, between⟩, here, same⟩
      cases same
      exact something value (loads.ofText nesting text value rest here)
  · intro item value? read
    rcases Results.map_eq_ok_iff.1 read with ⟨value, here, rfl⟩
    exact something value (loads.ofToml item value here)

theorem loads_json : json.Loads Json.Sorted where
  ofText nesting := by
    refine (Json.Reader.yields_value nesting).bind fun value sorted => yields_lift ?_
    intro other same
    cases same
    exact sorted
  ofToml item value read := by
    rcases Results.bind_eq_ok_iff.1 read with ⟨other, here, same⟩
    cases same
    exact Toml.sorted_toJson here

theorem tomlMismatch_ne_ok (item : Toml) (expected : String) (value : α) :
    tomlMismatch item expected ≠ .ok value := by
  intro read
  rcases Results.bind_eq_ok_iff.1 read with ⟨found, _, same⟩
  cases same

theorem loads_members {decoder : Decoder α} (loads : decoder.Loads property) :
    (members decoder).Loads fun entries => ∀ entry ∈ entries, property entry.2 := by
  constructor
  · intro nesting
    refine yields_of_next fun front => ?_
    split
    · refine yields_opened fun nesting => yields_object ?_ (List.forall_mem_nil _)
      intro sofar key each
      refine yields_of_next fun _ => (loads.ofText nesting).bind fun value holds => ?_
      exact yields_pure (List.forall_mem_append.2 ⟨each, List.forall_mem_singleton.2 holds⟩)
    · exact yields_lift nofun
  · intro item entries read
    unfold members at read
    dsimp only at read
    split at read
    · refine Results.forall_mem_of_mapM ?_ read
      intro member entry read
      rcases Results.bind_eq_ok_iff.1 read with ⟨value, here, same⟩
      cases same
      exact loads.ofToml member.2 value here
    · exact absurd read (tomlMismatch_ne_ok _ _ _)

theorem loads_object : object.Loads fun value => value.toJson.Sorted := by
  apply Loads.map
  exact (loads_members loads_json).imp fun _ each => Json.sorted_ofMembers each

end Decoder

/-! ## Records -/

/-- Filling the field never breaks an invariant of drafts. -/
structure Field.Keeps {Draft : Type} (field : Field Draft) (invariant : Draft → Prop) : Prop where
  decoder : field.decoder.Loads fun fill => ∀ draft, invariant draft → invariant (fill draft)
  standIn (fill : Draft → Draft) (given : field.standIn = some fill) (draft : Draft)
    (holds : invariant draft) : invariant (fill draft)

/-- The fields keep an invariant of drafts by which all that is finished has the property. -/
structure Record.KeepsFor {α : Type} (record : Record α) (invariant : record.Draft → Prop)
    (property : α → Prop) : Prop where
  blank : invariant record.blank
  fields (field : Field record.Draft) (listed : field ∈ record.fields) : field.Keeps invariant
  finish (draft : record.Draft) (value : α) (holds : invariant draft)
    (finished : record.finish draft = .ok value) : property value

/-- The record has the property by what its fields load. -/
def Record.Loads {α : Type} (record : Record α) (property : α → Prop) : Prop :=
  ∃ invariant, record.KeepsFor invariant property

namespace Record

variable {α β : Type} {property : α → Prop} {later : β → Prop}

theorem loads_true (record : Record α) : record.Loads fun _ => True := by
  refine ⟨fun _ => True, trivial, ?_, fun _ _ _ _ => trivial⟩
  intro field _
  exact ⟨field.decoder.loads_true.imp fun _ _ _ _ => trivial, fun _ _ _ _ => trivial⟩

theorem loads_field {name : String} {decoder : Decoder α} {absent : Except DecodeError α}
    {standIn : Option α} (loads : decoder.Loads property)
    (holdsAbsent : ∀ value, absent = .ok value → property value)
    (holdsStandIn : ∀ value, standIn = some value → property value) :
    (field name decoder absent standIn).Loads property := by
  refine ⟨fun draft : Option α => ∀ value, draft = some value → property value, ?_⟩
  have filled (value : α) (holds : property value) (other : α) (same : some value = some other) :
      property other := Option.some.inj same ▸ holds
  constructor
  · exact nofun
  · intro field listed
    cases List.mem_singleton.1 listed
    constructor
    · apply Decoder.Loads.map
      exact loads.imp fun value holds _ _ => filled value holds
    · intro fill given draft _
      rcases Option.map_eq_some_iff.1 given with ⟨value, same, rfl⟩
      exact filled value (holdsStandIn value same)
  · intro draft value holds finished
    cases draft with
    | none => exact holdsAbsent value finished
    | some other =>
        cases finished
        exact holds value rfl

theorem loads_defaulted {name : String} {decoder : Decoder α} {default : α}
    (loads : decoder.Loads property) (holds : property default) :
    (defaulted name decoder default).Loads property := by
  refine loads_field loads ?_ ?_
  · intro value same
    exact Except.ok.inj same ▸ holds
  · intro value same
    exact Option.some.inj same ▸ holds

theorem loads_optional {name : String} {decoder : Decoder α} (loads : decoder.Loads property) :
    (optional name decoder).Loads fun value? => ∀ value ∈ value?, property value :=
  loads_defaulted loads.option nofun

theorem Loads.imp {record : Record α} {weaker : α → Prop} (loads : record.Loads property)
    (implies : ∀ value, property value → weaker value) : record.Loads weaker := by
  rcases loads with ⟨invariant, keeps⟩
  refine ⟨invariant, keeps.blank, keeps.fields, ?_⟩
  exact fun draft value holds finished => implies value (keeps.finish draft value holds finished)

/-- Fields of a part keep what is said of the part. -/
theorem Part.keeps_lift {Inner Draft : Type} {part : Part Inner Draft} {field : Field Inner}
    {inner : Inner → Prop} {whole : Draft → Prop} (keeps : field.Keeps inner)
    (reads : ∀ draft, whole draft → inner (part.get draft))
    (writes : ∀ value draft, inner value → whole draft → whole (part.put value draft)) :
    (part.lift field).Keeps whole := by
  have widened (fill : Inner → Inner) (kept : ∀ value, inner value → inner (fill value))
      (draft : Draft) (holds : whole draft) : whole (part.widen fill draft) :=
    writes _ draft (kept _ (reads draft holds)) holds
  constructor
  · apply Decoder.Loads.map
    exact keeps.decoder.imp widened
  · intro fill given
    rcases Option.map_eq_some_iff.1 given with ⟨inside, same, rfl⟩
    exact widened inside (keeps.standIn inside same)

theorem Loads.and {first : Record α} {second : Record β} (loads : first.Loads property)
    (loadsLater : second.Loads later) :
    (first.and second).Loads fun both => property both.1 ∧ later both.2 := by
  rcases loads with ⟨invariant, keeps⟩
  rcases loadsLater with ⟨invariantLater, keepsLater⟩
  refine ⟨fun draft => invariant draft.1 ∧ invariantLater draft.2, ?_⟩
  constructor
  · exact ⟨keeps.blank, keepsLater.blank⟩
  · intro field listed
    rw [fields_and] at listed
    rcases List.mem_append.1 listed with listed | listed
    · rcases List.mem_map.1 listed with ⟨inside, first, rfl⟩
      exact Part.keeps_lift (keeps.fields inside first) (fun _ => And.left)
        fun _ _ holds both => ⟨holds, both.2⟩
    · rcases List.mem_map.1 listed with ⟨inside, second, rfl⟩
      exact Part.keeps_lift (keepsLater.fields inside second) (fun _ => And.right)
        fun _ _ holds both => ⟨both.1, holds⟩
  · intro draft value holds finished
    rcases finish_and_eq_ok_iff.1 finished with ⟨finished, finishedLater⟩
    exact ⟨keeps.finish _ _ holds.1 finished, keepsLater.finish _ _ holds.2 finishedLater⟩

theorem Loads.map {record : Record α} {transform : α → β}
    (loads : record.Loads fun value => later (transform value)) :
    (record.map transform).Loads later := by
  rcases loads with ⟨invariant, keeps⟩
  refine ⟨invariant, keeps.blank, keeps.fields, ?_⟩
  intro draft value holds finished
  rcases Results.map_eq_ok_iff.1 finished with ⟨read, made, rfl⟩
  exact keeps.finish draft read holds made

/-! ## Reading records -/

section Keeps

variable {record : Record α} {invariant : record.Draft → Prop}
  (keeps : ∀ field ∈ record.fields, field.Keeps invariant)
include keeps

theorem yields_readMember (nesting : Nat) {draft : record.Draft} (holds : invariant draft)
    (name : String) : Json.Reader.Yields (record.readMember nesting draft name) invariant := by
  unfold readMember
  split
  · exact yields_of_next fun _ => yields_of_next fun _ => yields_pure holds
  · next field found =>
      have kept := keeps field (List.mem_of_find?_eq_some found)
      split
      · exact yields_throw _
      · refine yields_of_next fun _ => (kept.decoder.ofText nesting).bind fun fill fills => ?_
        exact yields_pure (fills draft holds)

theorem holds_of_takeTomlMember {draft filled : record.Draft} {member : String × Toml}
    (holds : invariant draft) (taken : record.takeTomlMember draft member = .ok filled) :
    invariant filled := by
  unfold takeTomlMember at taken
  split at taken
  · rcases Results.bind_eq_ok_iff.1 taken with ⟨_, _, same⟩
    cases same
    exact holds
  · next field found =>
      have kept := keeps field (List.mem_of_find?_eq_some found)
      rcases Results.map_eq_ok_iff.1 taken with ⟨fill, read, rfl⟩
      exact kept.decoder.ofToml member.2 fill read draft holds

end Keeps

section Items

variable {Draft : Type} {fields : List (Field Draft)} {invariant : Draft → Prop}
  (keeps : ∀ field ∈ fields, field.Keeps invariant) (tooShort : Nat → DecodeError)
include keeps

theorem yields_readItems (nesting index : Nat) {draft : Draft} (holds : invariant draft) :
    Json.Reader.Yields (readItems nesting tooShort index fields draft) invariant := by
  induction fields generalizing index draft with
  | nil => exact yields_pure holds
  | cons field fields induction =>
      have here := keeps field List.mem_cons_self
      have later := fun other listed => keeps other (List.mem_cons_of_mem field listed)
      unfold readItems
      refine yields_of_next fun more => ?_
      split
      · refine (here.decoder.ofText nesting).bind fun fill fills => ?_
        exact induction later (index + 1) (fills draft holds)
      · split
        · next fill given =>
            exact induction later (index + 1) (here.standIn fill given draft holds)
        · exact yields_throw _

theorem holds_of_takeItems {index : Nat} {items surplus : List Toml} {draft filled : Draft}
    (holds : invariant draft)
    (taken : takeItems (fun field => field.decoder.ofToml) tooShort index fields items draft =
      .ok (filled, surplus)) : invariant filled := by
  induction fields generalizing index items draft with
  | nil =>
      cases taken
      exact holds
  | cons field fields induction =>
      have here := keeps field List.mem_cons_self
      have later := fun other listed => keeps other (List.mem_cons_of_mem field listed)
      cases items with
      | nil =>
          unfold takeItems at taken
          split at taken
          · next fill given => exact induction later (here.standIn fill given draft holds) taken
          · cases taken
      | cons item items =>
          rcases Results.bind_eq_ok_iff.1 taken with ⟨fill, read, rest⟩
          exact induction later (here.decoder.ofToml item fill read draft holds) rest

end Items

theorem Loads.decoder {record : Record α} (loads : record.Loads property) (name : String) :
    (record.decoder name).Loads property := by
  rcases loads with ⟨invariant, keeps⟩
  have finished (draft : record.Draft) (holds : invariant draft) :
      Json.Reader.Yields (Decoder.lift (record.finish draft)) property :=
    yields_lift fun value => keeps.finish draft value holds
  constructor
  · intro nesting
    refine yields_of_next fun front => ?_
    split
    · refine yields_opened fun nesting => ?_
      have object : Json.Reader.Yields
          (Json.Reader.object (record.readMember nesting) record.blank) invariant :=
        yields_object (fun _ name holds => yields_readMember keeps.fields nesting holds name)
          keeps.blank
      exact object.bind finished
    · refine yields_opened fun nesting => yields_of_next fun _ => ?_
      refine (yields_readItems keeps.fields _ nesting 0 keeps.blank).bind fun draft holds => ?_
      refine (finished draft holds).bind fun value holds => ?_
      exact yields_of_next fun _ => yields_pure holds
    · exact yields_lift nofun
  · intro item value read
    unfold Record.decoder at read
    dsimp only at read
    split at read
    · rcases Results.bind_eq_ok_iff.1 read with ⟨draft, folded, made⟩
      have holds : invariant draft :=
        Results.holds_of_foldlM
          (fun _ _ _ holds taken => holds_of_takeTomlMember keeps.fields holds taken)
          keeps.blank folded
      exact keeps.finish draft value holds made
    · rcases Results.bind_eq_ok_iff.1 read with ⟨⟨draft, surplus⟩, taken, made⟩
      exact keeps.finish draft value (holds_of_takeItems keeps.fields _ keeps.blank taken) made
    · exact absurd read (Decoder.tomlMismatch_ne_ok _ _ _)

/-! ## Open records -/

/-- The members that are left over are none of the fields, and in order. -/
def LeftOver (record : Record α) (members : List (String × Json)) : Prop :=
  ∀ member ∈ members, member.1 ∉ record.names ∧ member.2.Sorted

theorem LeftOver.append {record : Record α} {members : List (String × Json)} {key : String}
    {value : Json} (each : record.LeftOver members) (unknown : record.field? key = none)
    (sorted : value.Sorted) : record.LeftOver (members ++ [(key, value)]) :=
  List.forall_mem_append.2
    ⟨each, List.forall_mem_singleton.2 ⟨field?_eq_none_iff.1 unknown, sorted⟩⟩

/-- The fields that have been filled keep the invariant, and the rest is left over. -/
def HoldsOpen (record : Record α) (invariant : record.Draft → Prop)
    (draft : record.Draft × List (String × Json)) : Prop :=
  invariant draft.1 ∧ record.LeftOver draft.2

section Open

variable {record : Record α} {invariant : record.Draft → Prop}
  {draft : record.Draft × List (String × Json)}
  (keeps : ∀ field ∈ record.fields, field.Keeps invariant)
  (holds : record.HoldsOpen invariant draft)
include keeps holds

theorem yields_readKeptMember (nesting : Nat) (name : String) :
    Json.Reader.Yields (record.readKeptMember nesting draft name)
      (record.HoldsOpen invariant) := by
  unfold readKeptMember
  split
  · next unknown =>
      refine yields_of_next fun _ => ?_
      refine (Json.Reader.yields_value nesting).bind fun value sorted => yields_pure ?_
      exact ⟨holds.1, holds.2.append unknown sorted⟩
  · refine (yields_readMember keeps nesting holds.1 name).bind fun known kept => ?_
    exact yields_pure ⟨kept, holds.2⟩

theorem holds_of_keepTomlMember {member : String × Toml}
    {next : record.Draft × List (String × Json)}
    (taken : record.keepTomlMember draft member = .ok next) : record.HoldsOpen invariant next := by
  unfold keepTomlMember at taken
  split at taken
  · next unknown =>
      rcases Results.bind_eq_ok_iff.1 taken with ⟨value, here, same⟩
      cases same
      exact ⟨holds.1, holds.2.append unknown (Toml.sorted_toJson here)⟩
  · rcases Results.map_eq_ok_iff.1 taken with ⟨known, here, rfl⟩
    exact ⟨holds_of_takeTomlMember keeps holds.1 here, holds.2⟩

end Open

theorem Loads.openDecoder {record : Record α} (loads : record.Loads property) (name : String) :
    (record.openDecoder name).Loads fun read =>
      property read.1 ∧ record.LeftOver read.2.members := by
  rcases loads with ⟨invariant, keeps⟩
  have blank : record.HoldsOpen invariant (record.blank, []) :=
    ⟨keeps.blank, List.forall_mem_nil _⟩
  have finished (draft : record.Draft × List (String × Json)) (read : α × Json.Object)
      (holds : record.HoldsOpen invariant draft) (made : (record.finish draft.1).map
        (fun value => (value, Json.Object.ofMembers draft.2)) = .ok read) :
      property read.1 ∧ record.LeftOver read.2.members := by
    rcases Results.map_eq_ok_iff.1 made with ⟨value, finished, rfl⟩
    refine ⟨keeps.finish draft.1 value holds.1 finished, ?_⟩
    exact fun member listed => holds.2 member (Json.Object.mem_of_mem_ofMembers listed)
  constructor
  · intro nesting
    refine yields_of_next fun front => ?_
    split
    · refine yields_opened fun nesting => ?_
      have object : Json.Reader.Yields
          (Json.Reader.object (record.readKeptMember nesting) (record.blank, []))
          (record.HoldsOpen invariant) :=
        yields_object (fun _ name holds => yields_readKeptMember keeps.fields holds nesting name)
          blank
      exact object.bind fun draft holds => yields_lift fun read => finished draft read holds
    · exact yields_lift nofun
  · intro item read reads
    unfold Record.openDecoder at reads
    dsimp only at reads
    split at reads
    · rcases Results.bind_eq_ok_iff.1 reads with ⟨draft, folded, made⟩
      have holds : record.HoldsOpen invariant draft :=
        Results.holds_of_foldlM
          (fun _ _ _ holds taken => holds_of_keepTomlMember keeps.fields holds taken) blank folded
      exact finished draft read holds made
    · exact absurd reads (Decoder.tomlMismatch_ne_ok _ _ _)

end Record

end LanguageWorker

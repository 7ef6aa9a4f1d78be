import LanguageWorker.Payload.CompilerOptions
import LanguageWorker.Proofs.Decode.OrderedMembers

namespace LanguageWorker

/-! Options of the engine as they are read and written. The two known ones are taken out
of the members when options are read and put back when they are written, so as long as
none of the others has the name of a known one, nothing is lost on the way. -/

/-- A tier is given by its number or by a name that denotes it. -/
inductive ScriptTarget.Form : Json → ScriptTarget → Prop
  | ordinal (ordinal : UInt32) : Form (.ofWord ordinal) { ordinal }
  | name {name : String} {target : ScriptTarget} (denotes : ofName? name = some target) :
      Form (.string name) target

namespace ScriptTarget

/-- A number is read as any other word is. -/
theorem ofJson_number_eq_ok_iff {number : Json.Number} {target : ScriptTarget} :
    decoder.ofJson (.number number) = .ok target ↔
      Decoder.word.ofJson (.number number) = .ok target.ordinal := by
  rcases target with ⟨ordinal⟩
  cases number with
  | float value =>
      constructor
      · intro read
        cases read
      · intro read
        cases read
  | integer value =>
      simp only [decoder, Decoder.ofWhole, ofJson, Decoder.word, Decoder.ofScalar]
      split
      · simp
      · simp

theorem ofJson_eq_ok_iff {item : Json} {target : ScriptTarget} :
    decoder.ofJson item = .ok target ↔ Form item target := by
  constructor
  · intro read
    match item, read with
    | .number number, read =>
        rw [Decoder.word_ofJson_iff.1 (ofJson_number_eq_ok_iff.1 read)]
        exact .ordinal target.ordinal
    | .string name, read =>
        simp only [decoder, Decoder.ofWhole, ofJson] at read
        split at read
        · next denotes =>
            cases read
            exact .name denotes
        · cases read
  · intro form
    cases form with
    | ordinal ordinal => exact ofJson_number_eq_ok_iff.2 (Decoder.word_ofJson_ofWord ordinal)
    | name denotes => simp only [decoder, Decoder.ofWhole, ofJson, denotes]

theorem ofJson_toJson (target : ScriptTarget) : decoder.ofJson target.toJson = .ok target :=
  ofJson_eq_ok_iff.2 (.ordinal target.ordinal)

theorem ofJson_null (target : ScriptTarget) : decoder.ofJson .null ≠ .ok target := nofun

end ScriptTarget

/-- None of the other options has the name of a known one. -/
structure CompilerOptions.Apart (options : CompilerOptions) : Prop where
  target : options.other.get? "target" = none
  allowJs : options.other.get? "allowJs" = none

/-- The members that are left of some options when they are read and written again. -/
inductive CompilerOptions.ReducedField (members : List (String × Json)) : String → Json → Prop
  | target {item : Json} {target : ScriptTarget} (given : ("target", item) ∈ members)
      (form : ScriptTarget.Form item target) :
      ReducedField members "target" (.ofWord target.ordinal)
  | allowJs {item : Json} (given : ("allowJs", item) ∈ members) (there : item ≠ .null) :
      ReducedField members "allowJs" item
  | other {key : String} {item : Json} (given : (key, item) ∈ members)
      (unknown : key ≠ "target" ∧ key ≠ "allowJs") : ReducedField members key item

namespace CompilerOptions

variable {options : CompilerOptions}

theorem ofJson_eq_ok_iff {item : Json} :
    decoder.ofJson item = .ok options ↔
      ∃ members, item = .object members ∧
        (Record.optional "target" ScriptTarget.decoder).ofMembers members = .ok options.target ∧
        (Record.optional "allowJs" Decoder.boolean).ofMembers members = .ok options.allowJs ∧
        Json.Object.ofMembers (record.surplus members) = options.other := by
  have disjoint : (Record.optional "target" ScriptTarget.decoder).names.Disjoint
      (Record.optional "allowJs" Decoder.boolean).names := by
    simp [Record.optional, Record.defaulted, Record.names_field]
  rw [decoder, Decoder.map_ofJson_iff]
  constructor
  · intro succeeds
    rcases succeeds with ⟨⟨⟨target, allowJs⟩, other⟩, reads, rfl⟩
    rcases Record.openDecoder_ofJson_iff.1 reads with ⟨members, rfl, known, rest⟩
    rcases (Record.ofMembers_and_eq_ok_iff disjoint).1 known with ⟨target, allowJs⟩
    exact ⟨members, rfl, target, allowJs, rest⟩
  · intro described
    rcases described with ⟨members, rfl, target, allowJs, rest⟩
    refine ⟨((options.target, options.allowJs), options.other), ?_, rfl⟩
    apply Record.openDecoder_ofJson_iff.2
    exact ⟨members, rfl, (Record.ofMembers_and_eq_ok_iff disjoint).2 ⟨target, allowJs⟩, rest⟩

theorem mem_surplus_iff {members : List (String × Json)} {key : String} {item : Json} :
    (key, item) ∈ record.surplus members ↔
      (key, item) ∈ members ∧ key ≠ "target" ∧ key ≠ "allowJs" := by
  have names : record.names = ["target", "allowJs"] := rfl
  simp [Record.surplus, names]

theorem apart_of_ofJson {item : Json} (read : decoder.ofJson item = .ok options) :
    options.Apart := by
  rcases ofJson_eq_ok_iff.1 read with ⟨members, rfl, _, _, rest⟩
  have unknown {key : String} {value : Json} (listed : (key, value) ∈ options.other.members) :
      key ≠ "target" ∧ key ≠ "allowJs" := by
    rw [← rest] at listed
    exact (mem_surplus_iff.1 (Json.Object.mem_of_mem_ofMembers listed)).2
  constructor
  · exact Json.Object.get?_eq_none_iff.2 fun _ listed => (unknown listed).1 rfl
  · exact Json.Object.get?_eq_none_iff.2 fun _ listed => (unknown listed).2 rfl

/-! ## Written options -/

/-- The members of written options. One of the others that has the name of a known one takes its
place. -/
inductive Field (options : CompilerOptions) : String → Json → Prop
  | target {target : ScriptTarget} (given : options.target = some target)
      (free : ∀ item, ("target", item) ∉ options.other.members) :
      Field options "target" (.number (.integer target.ordinal.toNat))
  | allowJs {allowed : Bool} (given : options.allowJs = some allowed)
      (free : ∀ item, ("allowJs", item) ∉ options.other.members) :
      Field options "allowJs" (.boolean allowed)
  | other {key : String} {item : Json} (listed : (key, item) ∈ options.other.members) :
      Field options key item

theorem hasFields_toJson (options : CompilerOptions) : options.toJson.HasFields options.Field := by
  have others := options.other.ordered.nodup_keys
  have unlisted {key : String} (free : ∀ item, (key, item) ∉ options.other.members) :
      ∀ later ∈ options.other.members, later.1 ≠ key :=
    fun later listed same => free later.2 (same ▸ listed)
  apply (Json.hasFields_ofMembers _).congr
  intro key value
  rw [OrderedMap.lastEntry_append_iff, OrderedMap.lastEntry_iff_mem others,
    OrderedMap.lastEntry_append_iff, Json.lastEntry_member?_iff, Json.lastEntry_member?_iff]
  constructor
  · intro written
    rcases written with
      listed | ⟨⟨rfl, written⟩ | ⟨⟨rfl, written⟩, _⟩, free⟩
    · exact .other listed
    · rcases Option.map_eq_some_iff.1 written with ⟨allowed, given, rfl⟩
      exact .allowJs given fun item listed => free _ listed rfl
    · rcases Option.map_eq_some_iff.1 written with ⟨target, given, rfl⟩
      exact .target given fun item listed => free _ listed rfl
  · intro field
    cases field with
    | target given free =>
        refine .inr ⟨.inr ⟨⟨rfl, congrArg (Option.map ScriptTarget.toJson) given⟩, ?_⟩,
          unlisted free⟩
        intro later listed
        rw [(Json.mem_member?_iff.1 listed).1]
        decide
    | allowJs given free =>
        exact .inr ⟨.inl ⟨rfl, congrArg (Option.map Json.boolean) given⟩, unlisted free⟩
    | other listed => exact .inl listed

theorem Apart.target_not_mem (apart : options.Apart) :
    ∀ value, ("target", value) ∉ options.other.members :=
  Json.Object.get?_eq_none_iff.1 apart.target

theorem Apart.allowJs_not_mem (apart : options.Apart) :
    ∀ value, ("allowJs", value) ∉ options.other.members :=
  Json.Object.get?_eq_none_iff.1 apart.allowJs

/-- Options that are apart are all written. -/
theorem Apart.field_iff (apart : options.Apart) {key : String} {value : Json} :
    options.Field key value ↔
      (key = "target" ∧ options.target.map ScriptTarget.toJson = some value) ∨
        (key = "allowJs" ∧ options.allowJs.map Json.boolean = some value) ∨
        (key, value) ∈ options.other.members := by
  constructor
  · intro field
    cases field with
    | target given free =>
        exact .inl ⟨rfl, congrArg (Option.map ScriptTarget.toJson) given⟩
    | allowJs given free =>
        exact .inr (.inl ⟨rfl, congrArg (Option.map Json.boolean) given⟩)
    | other listed => exact .inr (.inr listed)
  · intro described
    rcases described with ⟨rfl, written⟩ | ⟨rfl, written⟩ | listed
    · rcases Option.map_eq_some_iff.1 written with ⟨target, given, rfl⟩
      exact .target given apart.target_not_mem
    · rcases Option.map_eq_some_iff.1 written with ⟨allowed, given, rfl⟩
      exact .allowJs given apart.allowJs_not_mem
    · exact .other listed

/-- Written options are read as they were. -/
theorem ofJson_toJson (apart : options.Apart) : decoder.ofJson options.toJson = .ok options := by
  rcases hasFields_toJson options with ⟨members, same, ordered, listed⟩
  rw [same]
  apply ofJson_eq_ok_iff.2
  refine ⟨members, rfl, ?_, ?_, ?_⟩
  · refine Record.ofMembers_optional_of_written ordered ScriptTarget.ofJson_null
      (fun item => ?_) ScriptTarget.ofJson_toJson
    simp [listed, apart.field_iff, apart.target_not_mem]
  · refine Record.ofMembers_optional_of_written ordered nofun
      (fun item => ?_) fun allowed => Decoder.boolean_ofJson_iff.2 rfl
    simp [listed, apart.field_iff, apart.allowJs_not_mem]
  · -- Without the members of the known options, just the others are left.
    apply Json.Object.ofMembers_of_mem_iff (record.ordered_surplus ordered)
    intro member
    rcases member with ⟨key, item⟩
    rw [mem_surplus_iff, listed, apart.field_iff]
    constructor
    · intro described
      rcases described with ⟨field, unknown⟩
      rcases field with ⟨same, _⟩ | ⟨same, _⟩ | other
      · exact absurd same unknown.1
      · exact absurd same unknown.2
      · exact other
    · intro other
      refine ⟨.inr (.inr other), ?_, ?_⟩
      · intro same
        exact apart.target_not_mem item (same ▸ other)
      · intro same
        exact apart.allowJs_not_mem item (same ▸ other)

/-! ## Options that are read and written again -/

section Reduction

variable {members : List (String × Json)} (ordered : Json.Ordered members)
  (read : decoder.ofJson (.object members) = .ok options)
include ordered read

theorem target_eq_some_iff {target : ScriptTarget} :
    options.target = some target ↔
      ∃ item, ("target", item) ∈ members ∧ ScriptTarget.Form item target := by
  rcases ofJson_eq_ok_iff.1 read with ⟨members, same, reads, _⟩
  cases same
  simp only [Record.eq_some_iff_of_ofMembers_optional ordered ScriptTarget.ofJson_null reads,
    ScriptTarget.ofJson_eq_ok_iff]

theorem allowJs_written_iff {item : Json} :
    options.allowJs.map Json.boolean = some item ↔ ("allowJs", item) ∈ members ∧ item ≠ .null := by
  rcases ofJson_eq_ok_iff.1 read with ⟨members, same, _, reads, _⟩
  cases same
  exact Record.map_eq_some_iff_of_ofMembers_optional ordered nofun reads
    fun _ _ _ accepted => (Decoder.boolean_ofJson_iff.1 accepted).symm

theorem mem_other_iff {key : String} {item : Json} :
    (key, item) ∈ options.other.members ↔
      (key, item) ∈ members ∧ key ≠ "target" ∧ key ≠ "allowJs" := by
  rcases ofJson_eq_ok_iff.1 read with ⟨members, same, _, _, rest⟩
  cases same
  have distinct : ((record.surplus members).map Prod.fst).Nodup :=
    (record.ordered_surplus ordered).nodup_keys
  rw [← rest, (Json.Object.members_ofMembers_perm distinct).mem_iff, mem_surplus_iff]

/-- Reading options and writing them again reduces them. -/
theorem hasFields_toJson_of_ofJson : options.toJson.HasFields (ReducedField members) := by
  apply (hasFields_toJson options).congr
  intro key value
  rw [(apart_of_ofJson read).field_iff]
  constructor
  · intro field
    rcases field with ⟨rfl, written⟩ | ⟨rfl, written⟩ | listed
    · rcases Option.map_eq_some_iff.1 written with ⟨target, present, rfl⟩
      rcases (target_eq_some_iff ordered read).1 present with ⟨item, given, form⟩
      exact .target given form
    · rcases (allowJs_written_iff ordered read).1 written with ⟨given, there⟩
      exact .allowJs given there
    · rcases (mem_other_iff ordered read).1 listed with ⟨given, unknown⟩
      exact .other given unknown
  · intro field
    cases field with
    | target given form =>
        have present := (target_eq_some_iff ordered read).2 ⟨_, given, form⟩
        exact .inl ⟨rfl, congrArg (Option.map ScriptTarget.toJson) present⟩
    | allowJs given there =>
        exact .inr (.inl ⟨rfl, (allowJs_written_iff ordered read).2 ⟨given, there⟩⟩)
    | other given unknown =>
        exact .inr (.inr ((mem_other_iff ordered read).2 ⟨given, unknown⟩))

end Reduction

/-! ## Options that are accepted -/

theorem exists_ofJson_iff {members : List (String × Json)} :
    (∃ options, decoder.ofJson (.object members) = .ok options) ↔
      (∃ target, (Record.optional "target" ScriptTarget.decoder).ofMembers members =
        .ok target) ∧
      ∃ allowJs, (Record.optional "allowJs" Decoder.boolean).ofMembers members = .ok allowJs := by
  constructor
  · intro accepted
    rcases accepted with ⟨options, read⟩
    rcases ofJson_eq_ok_iff.1 read with ⟨members, same, target, allowJs, _⟩
    cases same
    exact ⟨⟨_, target⟩, _, allowJs⟩
  · intro described
    rcases described with ⟨⟨target, reads⟩, allowJs, reads'⟩
    exact ⟨{ target, allowJs, other := _ }, ofJson_eq_ok_iff.2 ⟨members, rfl, reads, reads', rfl⟩⟩

/-- A target is accepted when it is null or denotes a tier, whatever the other options. -/
theorem exists_ofJson_iff_of_target {members : List (String × Json)}
    (ordered : Json.Ordered members) {item : Json} (given : ("target", item) ∈ members) :
    (∃ options, decoder.ofJson (.object members) = .ok options) ↔
      (item = .null ∨ ∃ target, ScriptTarget.Form item target) ∧
        ∃ options, decoder.ofJson (.object (members.filter (·.1 ≠ "target"))) = .ok options := by
  have orderedRest : Json.Ordered (members.filter (·.1 ≠ "target")) := ordered.filter _
  have target : (∃ target, (Record.optional "target" ScriptTarget.decoder).ofMembers members =
      .ok target) ↔ item = .null ∨ ∃ target, ScriptTarget.Form item target := by
    simp only [Record.ofMembers_optional_of_mem ordered ScriptTarget.ofJson_null given,
      ScriptTarget.ofJson_eq_ok_iff]
    constructor
    · intro accepted
      rcases accepted with ⟨_, ⟨null, _⟩ | ⟨target, form, _⟩⟩
      · exact .inl null
      · exact .inr ⟨target, form⟩
    · intro described
      rcases described with null | ⟨target, form⟩
      · exact ⟨none, .inl ⟨null, rfl⟩⟩
      · exact ⟨some target, .inr ⟨target, form, rfl⟩⟩
  have noTarget : ∃ target, (Record.optional "target" ScriptTarget.decoder).ofMembers
      (members.filter (·.1 ≠ "target")) = .ok target :=
    ⟨none, (Record.ofMembers_optional_eq_ok_iff orderedRest ScriptTarget.ofJson_null).2
      (.inl ⟨by simp, rfl⟩)⟩
  have allowJs (value : Option Bool) :
      (Record.optional "allowJs" Decoder.boolean).ofMembers (members.filter (·.1 ≠ "target")) =
        .ok value ↔ (Record.optional "allowJs" Decoder.boolean).ofMembers members = .ok value := by
    rw [Record.ofMembers_optional_eq_ok_iff orderedRest nofun,
      Record.ofMembers_optional_eq_ok_iff ordered nofun]
    simp
  simp only [exists_ofJson_iff, target, noTarget, true_and, allowJs]

end CompilerOptions

end LanguageWorker

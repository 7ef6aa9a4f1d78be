import LanguageWorker.Payload
import LanguageWorker.Proofs.Decode.Items
import LanguageWorker.Proofs.Json.Sorted
import LanguageWorker.Proofs.Payload.CompilerOptions
import LanguageWorker.Proofs.Payload.ExtraLibs

namespace LanguageWorker

/-! Payloads read from values and written again. A payload that has been read is in normal
form: it is written as the value reduced to what matters in it, and from there it is
read as the same payload. -/

/-- An extra file reduced to an object of its content and version. -/
def ExtraLib.Reduces (item reduced : Json) : Prop :=
  ∃ lib, Form item lib ∧ lib.Describes reduced

/-- Each extra file reduced in its place. -/
def ExtraLibs.Reduces (item reduced : Json) : Prop :=
  ∃ members kept, item = .object members ∧ reduced = .object kept ∧
    List.Forall₂ (fun member other => member.1 = other.1 ∧ ExtraLib.Reduces member.2 other.2)
      members kept

def CompilerOptions.Reduces (item reduced : Json) : Prop :=
  ∃ members, item = .object members ∧ reduced.HasFields (ReducedField members)

/-- A part that is reduced where it is given, and else written as an empty object. -/
def Payload.PartReduces (reduces : Json → Json → Prop) (name : String)
    (members : List (String × Json)) (reduced : Json) : Prop :=
  (∃ item, (name, item) ∈ members ∧ reduces item reduced) ∨
    (∀ item, (name, item) ∉ members) ∧ reduced = .object []

/-- The members that are left of a payload when it is read and written again. -/
inductive Payload.ReducedField (members : List (String × Json)) : String → Json → Prop
  | compilerOptions {reduced : Json}
      (part : PartReduces CompilerOptions.Reduces "compilerOptions" members reduced) :
      ReducedField members "compilerOptions" reduced
  | extraLibs {reduced : Json}
      (part : PartReduces ExtraLibs.Reduces "extraLibs" members reduced) :
      ReducedField members "extraLibs" reduced
  | customWorkerPath {item : Json} (given : ("customWorkerPath", item) ∈ members)
      (there : item ≠ .null) : ReducedField members "customWorkerPath" item
  | inlayHintsOptions {item : Json} (given : ("inlayHintsOptions", item) ∈ members)
      (there : item ≠ .null) : ReducedField members "inlayHintsOptions" item

theorem CompilerOptions.rightUnique_reduces : Relator.RightUnique Reduces := by
  intro item first second reduces other
  rcases reduces with ⟨members, rfl, has⟩
  rcases other with ⟨_, same, otherHas⟩
  cases same
  exact has.unique otherHas

theorem CompilerOptions.reduces_of_ofJson {item : Json} {options : CompilerOptions}
    (sorted : item.Sorted) (read : decoder.ofJson item = .ok options) :
    Reduces item options.toJson := by
  rcases ofJson_eq_ok_iff.1 read with ⟨members, rfl, _⟩
  exact ⟨members, rfl, hasFields_toJson_of_ofJson sorted.ordered read⟩

theorem ExtraLib.rightUnique_reduces : Relator.RightUnique Reduces := by
  intro item first second reduces other
  rcases reduces with ⟨lib, form, rfl⟩
  rcases other with ⟨otherLib, otherForm, rfl⟩
  have same := (ofJson_eq_ok_iff.2 form).symm.trans (ofJson_eq_ok_iff.2 otherForm)
  rw [Except.ok.inj same]

namespace ExtraLibs

variable {libs : ExtraLibs} {members : List (String × Json)}

theorem keys_pairwise_of_ofJson {item : Json} (sorted : item.Sorted)
    (read : decoder.ofJson item = .ok libs) : libs.keys.Pairwise (· < ·) := by
  rcases ofJson_eq_ok_iff.1 read with ⟨members, _, rfl, _, _⟩
  rw [(entries_of_form sorted.ordered (ofJson_eq_ok_iff.1 read)).1]
  exact List.pairwise_map.2 sorted.ordered

theorem reduces_of_ofJson {item : Json} (sorted : item.Sorted)
    (read : decoder.ofJson item = .ok libs) : Reduces item (toJson libs) := by
  have ascending := keys_pairwise_of_ofJson sorted read
  rcases ofJson_eq_ok_iff.1 read with ⟨members, _, rfl, _, _⟩
  refine ⟨members, _, rfl, toJson_eq libs, ?_⟩
  rw [OrderedMap.sorted_of_pairwise ascending, List.forall₂_map_right_iff]
  apply (entries_of_form sorted.ordered (ofJson_eq_ok_iff.1 read)).2.imp
  intro member entry both
  exact ⟨both.1, entry.2, both.2, rfl⟩

theorem rightUnique_reduces : Relator.RightUnique Reduces := by
  intro item first second reduces other
  rcases reduces with ⟨members, kept, rfl, rfl, each⟩
  rcases other with ⟨_, otherKept, same, rfl, otherEach⟩
  cases same
  apply congrArg Json.object
  refine Relator.RightUnique.forall₂ ?_ each otherEach
  intro member entry otherEntry both otherBoth
  exact Prod.ext (both.1.symm.trans otherBoth.1)
    (ExtraLib.rightUnique_reduces both.2 otherBoth.2)

end ExtraLibs

namespace Payload

variable {payload : Payload}

/-- What reading a payload settles: the options are told apart, and the extra files are in
the order of their names. -/
structure Normal (payload : Payload) : Prop where
  apart : payload.compilerOptions.Apart
  extraLibs : payload.extraLibs.keys.Pairwise (· < ·)

/-! ## The fields of a payload -/

def compilerOptionsField : Record CompilerOptions :=
  .defaulted "compilerOptions" CompilerOptions.decoder .empty

def extraLibsField : Record ExtraLibs := .defaulted "extraLibs" ExtraLibs.decoder .empty

def customWorkerPathField : Record (Option String) := .optional "customWorkerPath" Decoder.string

def inlayHintsOptionsField : Record (Option Preferences) :=
  .optional "inlayHintsOptions" Decoder.object

theorem names :
    compilerOptionsField.names = ["compilerOptions"] ∧ extraLibsField.names = ["extraLibs"] ∧
      customWorkerPathField.names = ["customWorkerPath"] ∧
      inlayHintsOptionsField.names = ["inlayHintsOptions"] :=
  ⟨rfl, rfl, rfl, rfl⟩

theorem record_eq :
    record = (compilerOptionsField.and <| extraLibsField.and <|
      customWorkerPathField.and inlayHintsOptionsField).map
        fun (compilerOptions, extraLibs, customWorkerPath, inlayHintsOptions) =>
          { compilerOptions, extraLibs, customWorkerPath, inlayHintsOptions } :=
  rfl

theorem ofJson_object_eq_ok_iff {members : List (String × Json)} :
    decoder.ofJson (.object members) = .ok payload ↔
      compilerOptionsField.ofMembers members = .ok payload.compilerOptions ∧
      extraLibsField.ofMembers members = .ok payload.extraLibs ∧
      customWorkerPathField.ofMembers members = .ok payload.customWorkerPath ∧
      inlayHintsOptionsField.ofMembers members = .ok payload.inlayHintsOptions := by
  have hints : customWorkerPathField.names.Disjoint inlayHintsOptionsField.names := by
    simp [names]
  have path : extraLibsField.names.Disjoint
      (customWorkerPathField.and inlayHintsOptionsField).names := by
    simp [names, Record.names_and]
  have libs : compilerOptionsField.names.Disjoint
      (extraLibsField.and (customWorkerPathField.and inlayHintsOptionsField)).names := by
    simp [names, Record.names_and]
  show record.ofMembers members = .ok payload ↔ _
  simp only [record_eq, Record.ofMembers_map_eq_ok_iff, Record.ofMembers_and_eq_ok_iff libs,
    Record.ofMembers_and_eq_ok_iff path, Record.ofMembers_and_eq_ok_iff hints]
  constructor
  · intro succeeds
    rcases succeeds with ⟨fields, reads, rfl⟩
    exact reads
  · intro reads
    exact ⟨(_, _, _, _), reads, rfl⟩

/-- Options and extra files are empty or what some value says that was read with the payload. -/
theorem parts_of_ofJson {item : Json} (sorted : item.Sorted)
    (read : decoder.ofJson item = .ok payload) :
    (.empty = payload.compilerOptions ∨
      ∃ part, CompilerOptions.decoder.ofJson part = .ok payload.compilerOptions) ∧
    (.empty = payload.extraLibs ∨
      ∃ part, part.Sorted ∧ ExtraLibs.decoder.ofJson part = .ok payload.extraLibs) := by
  match item, read with
  | .array items, read =>
      have reads := Record.decoder_ofJson_array_iff.1 read
      rw [record_eq, Record.readsItems_map_iff] at reads
      rcases reads with ⟨fields, reads, rfl⟩
      rcases Record.readsItems_and_iff.1 reads with ⟨rest, first, reads⟩
      rcases Record.readsItems_and_iff.1 reads with ⟨_, second, _⟩
      rcases first.defaulted with ⟨later, options⟩
      refine ⟨options.imp_right ?_, second.defaulted.2.imp_right ?_⟩
      · intro described
        rcases described with ⟨part, _, tells⟩
        exact ⟨part, tells⟩
      · intro described
        rcases described with ⟨part, listed, tells⟩
        exact ⟨part, sorted.of_mem_array (later listed), tells⟩
  | .object members, read =>
      rcases ofJson_object_eq_ok_iff.1 read with ⟨options, libs, _⟩
      have optionsSay := (Record.ofMembers_defaulted_eq_ok_iff sorted.ordered).1 options
      have libsSay := (Record.ofMembers_defaulted_eq_ok_iff sorted.ordered).1 libs
      refine ⟨optionsSay.imp And.right ?_, libsSay.imp And.right ?_⟩
      · intro described
        rcases described with ⟨part, _, tells⟩
        exact ⟨part, tells⟩
      · intro described
        rcases described with ⟨part, listed, tells⟩
        exact ⟨part, sorted.of_mem_object listed, tells⟩

theorem normal_of_ofJson {item : Json} (sorted : item.Sorted)
    (read : decoder.ofJson item = .ok payload) : payload.Normal := by
  rcases parts_of_ofJson sorted read with ⟨options, libs⟩
  constructor
  · rcases options with nothing | ⟨part, tells⟩
    · rw [← nothing]
      exact ⟨rfl, rfl⟩
    · exact CompilerOptions.apart_of_ofJson tells
  · rcases libs with nothing | ⟨part, sorted, tells⟩
    · rw [← nothing]
      exact List.Pairwise.nil
    · exact ExtraLibs.keys_pairwise_of_ofJson sorted tells

/-! ## Written payloads -/

def Field (payload : Payload) (key : String) (value : Json) : Prop :=
  (key = "compilerOptions" ∧ value = payload.compilerOptions.toJson) ∨
    (key = "extraLibs" ∧ value = ExtraLibs.toJson payload.extraLibs) ∨
    (key = "customWorkerPath" ∧ payload.customWorkerPath.map Json.string = some value) ∨
    (key = "inlayHintsOptions" ∧ payload.inlayHintsOptions.map Json.Object.toJson = some value)

theorem hasFields_toJson (payload : Payload) : payload.toJson.HasFields payload.Field := by
  have distinct : (([("compilerOptions", payload.compilerOptions.toJson),
      ("extraLibs", ExtraLibs.toJson payload.extraLibs)] ++
      Json.member? "customWorkerPath" (payload.customWorkerPath.map Json.string) ++
      Json.member? "inlayHintsOptions"
        (payload.inlayHintsOptions.map Json.Object.toJson)).map Prod.fst).Nodup := by
    cases payload.customWorkerPath <;> cases payload.inlayHintsOptions <;> simp [Json.member?]
  apply (Json.hasFields_ofMembers _).congr
  intro key value
  simp only [OrderedMap.lastEntry_iff_mem distinct, List.mem_append, Json.mem_member?_iff, Field,
    List.mem_cons, Prod.mk.injEq, List.not_mem_nil, or_false, or_assoc]

theorem ofJson_toJson (apart : payload.compilerOptions.Apart) :
    decoder.ofJson payload.toJson =
      .ok { payload with extraLibs := payload.extraLibs.sorted } := by
  rcases hasFields_toJson payload with ⟨members, same, ordered, listed⟩
  rw [same]
  apply ofJson_object_eq_ok_iff.2
  refine ⟨?_, ?_, ?_, ?_⟩
  · apply (Record.ofMembers_defaulted_eq_ok_iff ordered).2
    exact .inr ⟨_, (listed _ _).2 (.inl ⟨rfl, rfl⟩), CompilerOptions.ofJson_toJson apart⟩
  · apply (Record.ofMembers_defaulted_eq_ok_iff ordered).2
    exact .inr ⟨_, (listed _ _).2 (.inr (.inl ⟨rfl, rfl⟩)),
      ExtraLibs.ofJson_eq_ok_iff.2 (ExtraLibs.form_toJson payload.extraLibs)⟩
  · refine Record.ofMembers_optional_of_written ordered nofun
      (fun item => ?_) fun path => Decoder.string_ofJson_iff.2 rfl
    simp [listed, Field]
  · have reads (preferences : Preferences) :
        Decoder.object.ofJson preferences.toJson = .ok preferences :=
      Decoder.object_ofJson_iff.2 ⟨_, rfl, Json.Object.ofMembers_members preferences⟩
    refine Record.ofMembers_optional_of_written ordered nofun (fun item => ?_) reads
    simp [listed, Field]

theorem ofJson_toJson_of_normal (normal : payload.Normal) :
    decoder.ofJson payload.toJson = .ok payload := by
  rw [ofJson_toJson normal.apart, OrderedMap.sorted_of_pairwise normal.extraLibs]

/-! ## Payloads that are read and written again -/

theorem toJson_of_ofJson_object {item : Json} {preferences : Preferences} (sorted : item.Sorted)
    (read : Decoder.object.ofJson item = .ok preferences) : preferences.toJson = item := by
  rcases Decoder.object_ofJson_iff.1 read with ⟨members, rfl, rfl⟩
  exact Json.ofMembers_of_perm sorted.ordered (.refl members)

section Reduction

variable {members : List (String × Json)} (sorted : (Json.object members).Sorted)
include sorted

theorem eq_iff_partReduces {α : Type} {name : String} {decoder : Decoder α} {default value : α}
    (write : α → Json) {reduces : Json → Json → Prop}
    (read : (Record.defaulted name decoder default).ofMembers members = .ok value)
    (empty : write default = .object []) (unique : Relator.RightUnique reduces)
    (reduced : ∀ {item value}, item.Sorted → decoder.ofJson item = .ok value →
      reduces item (write value)) {written : Json} :
    written = write value ↔ PartReduces reduces name members written := by
  rcases (Record.ofMembers_defaulted_eq_ok_iff sorted.ordered).1 read with
    ⟨absent, rfl⟩ | ⟨item, given, reads⟩
  · rw [empty, PartReduces, or_iff_right, and_iff_right absent]
    intro described
    rcases described with ⟨item, given, _⟩
    exact absent item given
  · have reduces := reduced (sorted.of_mem_object given) reads
    constructor
    · intro same
      exact .inl ⟨item, given, same ▸ reduces⟩
    · intro part
      rcases part with ⟨other, otherGiven, otherReduces⟩ | ⟨absent, _⟩
      · -- A key has one value, so the part that is reduced is the one that was read.
        rw [sorted.ordered.value_unique otherGiven given] at otherReduces
        exact unique otherReduces reduces
      · exact absurd given (absent item)

theorem hasFields_toJson_of_ofJson (read : decoder.ofJson (.object members) = .ok payload) :
    payload.toJson.HasFields (ReducedField members) := by
  rcases ofJson_object_eq_ok_iff.1 read with ⟨options, libs, path, hints⟩
  have optionsPart {written : Json} : written = payload.compilerOptions.toJson ↔
      PartReduces CompilerOptions.Reduces "compilerOptions" members written :=
    eq_iff_partReduces sorted CompilerOptions.toJson options rfl
      CompilerOptions.rightUnique_reduces CompilerOptions.reduces_of_ofJson
  have libsPart {written : Json} : written = ExtraLibs.toJson payload.extraLibs ↔
      PartReduces ExtraLibs.Reduces "extraLibs" members written :=
    eq_iff_partReduces sorted ExtraLibs.toJson libs rfl
      ExtraLibs.rightUnique_reduces ExtraLibs.reduces_of_ofJson
  have pathKept {item : Json} : payload.customWorkerPath.map Json.string = some item ↔
      ("customWorkerPath", item) ∈ members ∧ item ≠ .null :=
    Record.map_eq_some_iff_of_ofMembers_optional sorted.ordered nofun path
      fun _ _ _ reads => (Decoder.string_ofJson_iff.1 reads).symm
  have hintsKept {item : Json} : payload.inlayHintsOptions.map Json.Object.toJson = some item ↔
      ("inlayHintsOptions", item) ∈ members ∧ item ≠ .null :=
    Record.map_eq_some_iff_of_ofMembers_optional sorted.ordered nofun hints
      fun _ _ given reads => toJson_of_ofJson_object (sorted.of_mem_object given) reads
  apply (hasFields_toJson payload).congr
  intro key value
  rw [Field, optionsPart, libsPart, pathKept, hintsKept]
  constructor
  · intro field
    rcases field with ⟨rfl, part⟩ | ⟨rfl, part⟩ | ⟨rfl, given, there⟩ | ⟨rfl, given, there⟩
    · exact .compilerOptions part
    · exact .extraLibs part
    · exact .customWorkerPath given there
    · exact .inlayHintsOptions given there
  · intro field
    cases field with
    | compilerOptions part => exact .inl ⟨rfl, part⟩
    | extraLibs part => exact .inr (.inl ⟨rfl, part⟩)
    | customWorkerPath given there => exact .inr (.inr (.inl ⟨rfl, given, there⟩))
    | inlayHintsOptions given there => exact .inr (.inr (.inr ⟨rfl, given, there⟩))

end Reduction

/-- Values that come out of a text are in order throughout. A payload that has been read from
such a value keeps its known options apart from the others, is read from its written form
as it was, and is written as the value that it was read from with nothing done to it but
the reduction. Every payload whose options are apart is read from its written form, with
its extra files in the order of their names. And among options a target is accepted when
it is null or denotes a tier. -/
theorem normalForm :
    (∀ (text : String) (item : Json), Json.parse text = .ok item → item.Sorted) ∧
    (∀ (item : Json) (payload : Payload), item.Sorted → decoder.ofJson item = .ok payload →
      payload.compilerOptions.Apart ∧ decoder.ofJson payload.toJson = .ok payload ∧
      ∀ members, item = .object members → payload.toJson.HasFields (ReducedField members)) ∧
    (∀ payload : Payload, payload.compilerOptions.Apart →
      decoder.ofJson payload.toJson =
        .ok { payload with extraLibs := payload.extraLibs.sorted }) ∧
    (∀ members item, Json.Ordered members → ("target", item) ∈ members →
      ((∃ options, CompilerOptions.decoder.ofJson (.object members) = .ok options) ↔
        (item = .null ∨ ∃ target, ScriptTarget.Form item target) ∧
          ∃ options, CompilerOptions.decoder.ofJson
            (.object (members.filter (·.1 ≠ "target"))) = .ok options)) := by
  refine ⟨fun _ _ => Json.sorted_of_parse, ?_, fun _ => ofJson_toJson,
    fun _ _ ordered given => CompilerOptions.exists_ofJson_iff_of_target ordered given⟩
  intro item payload sorted read
  have normal := normal_of_ofJson sorted read
  refine ⟨normal.apart, ofJson_toJson_of_normal normal, ?_⟩
  intro members same
  subst same
  exact hasFields_toJson_of_ofJson sorted read

def options2017 : List (String × Json) :=
  [("allowJs", .null), ("strict", .array [.null]), ("target", .string "ES2017")]

/-- A value with options of each kind, extra files in both forms and members that nobody
asks for. -/
def members2017 : List (String × Json) := [
  ("compilerOptions", .object options2017),
  ("customWorkerPath", .null),
  ("extraLibs", .object [
    ("a.d.ts", .array [.string "a", .ofWord 3]),
    ("z.d.ts", .object [("content", .string "z"), ("more", .null), ("version", .ofWord 1)])]),
  ("more", .boolean true)]

/-- What it is read as, with the extra files in an order of their own. -/
def ofYear2017 (extraLibs : ExtraLibs) : Payload where
  compilerOptions :=
    { target := some ⟨4⟩, allowJs := none, other := .ofMembers [("strict", .array [.null])] }
  extraLibs
  customWorkerPath := none
  inlayHintsOptions := none

theorem normalForm_2017 :
    let first := ("a.d.ts", { content := "a", version := 3 })
    let last := ("z.d.ts", { content := "z", version := 1 })
    let read := ofYear2017 (.ofList [first, last])
    let reversed := ofYear2017 (.ofList [last, first])
    let parsed := Json.array [.object [], .object []]
    (Json.parse "[\x7b\x7d,\x7b\x7d]" = .ok parsed ∧ parsed.Sorted) ∧
    ((Json.object members2017).Sorted ∧ decoder.ofJson (.object members2017) = .ok read ∧
      reversed.compilerOptions.Apart ∧ ("target", .string "ES2017") ∈ options2017) ∧
    (read.compilerOptions.Apart ∧ decoder.ofJson read.toJson = .ok read ∧
      read.toJson.HasFields (ReducedField members2017)) ∧
    decoder.ofJson reversed.toJson = .ok read ∧
    ((∃ options, CompilerOptions.decoder.ofJson (.object options2017) = .ok options) ↔
      (Json.string "ES2017" = .null ∨ ∃ target, ScriptTarget.Form (.string "ES2017") target) ∧
        ∃ options, CompilerOptions.decoder.ofJson
          (.object (options2017.filter (·.1 ≠ "target"))) = .ok options) := by
  intro first last read reversed parsed
  have parses : Json.parse "[\x7b\x7d,\x7b\x7d]" = .ok parsed := rfl
  have sorted : (Json.object members2017).Sorted := by
    simp only [members2017, options2017, Json.sorted_object_iff, Json.sorted_array_iff,
      Json.sorted_ofWord, Json.Sorted.null, Json.Sorted.boolean, Json.Sorted.string, Json.Ordered,
      List.pairwise_cons, List.forall_mem_cons, List.not_mem_nil, false_implies, implies_true]
    decide
  have apart : reversed.compilerOptions.Apart := ⟨rfl, rfl⟩
  have listed : ("target", .string "ES2017") ∈ options2017 := by simp [options2017]
  have ordered : Json.Ordered options2017 := by
    simp only [options2017, Json.Ordered, List.pairwise_cons, List.forall_mem_cons]
    decide
  have known := normalForm.2.1 (.object members2017) read sorted rfl
  refine ⟨⟨parses, normalForm.1 _ _ parses⟩, ⟨sorted, rfl, apart, listed⟩,
    ⟨known.1, known.2.1, known.2.2 members2017 rfl⟩, ?_, ?_⟩
  · have order : reversed.extraLibs.sorted = read.extraLibs :=
      OrderedMap.ext (by decide +kernel)
    have back := normalForm.2.2.1 reversed apart
    rwa [order] at back
  · exact normalForm.2.2.2 options2017 (.string "ES2017") ordered listed

end Payload

end LanguageWorker

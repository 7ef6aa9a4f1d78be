import LanguageWorker.Payload.ExtraLibs
import LanguageWorker.Proofs.Decode.Items
import LanguageWorker.Proofs.Json.Objects
import LanguageWorker.Proofs.OrderedMap.Sorted

namespace LanguageWorker

/-! The JSON values that are read as extra declaration files. -/

/-- The forms of one file: its content and version in an array, or each of them once
among the members of an object, whatever else the object holds. -/
inductive ExtraLib.Form : Json → ExtraLib → Prop where
  | array (content : String) (version : UInt32) :
      Form (.array [.string content, .ofWord version]) { content, version }
  | object {members : List (String × Json)} (content : String) (version : UInt32)
      (contents : Record.valuesOf "content" members = [.string content])
      (versions : Record.valuesOf "version" members = [.ofWord version]) :
      Form (.object members) { content, version }

namespace ExtraLib

theorem ofJson_array_eq_ok_iff {items : List Json} {lib : ExtraLib} :
    decoder.ofJson (.array items) = .ok lib ↔
      items = [.string lib.content, .ofWord lib.version] := by
  rw [decoder, Record.decoder_ofJson_array_iff, record, Record.readsItems_map_iff]
  simp only [Record.readsItems_and_iff, Record.readsItems_required_iff,
    Decoder.string_ofJson_iff, Decoder.word_ofJson_iff]
  constructor
  · intro reads
    rcases reads with ⟨fields, ⟨_, ⟨_, rfl, rfl⟩, _, rfl, rfl⟩, rfl⟩
    rfl
  · intro same
    exact ⟨(lib.content, lib.version), ⟨_, ⟨_, same, rfl⟩, _, rfl, rfl⟩, rfl⟩

theorem ofJson_object_eq_ok_iff {members : List (String × Json)} {lib : ExtraLib} :
    decoder.ofJson (.object members) = .ok lib ↔
      Record.valuesOf "content" members = [.string lib.content] ∧
        Record.valuesOf "version" members = [.ofWord lib.version] := by
  have disjoint : (Record.required "content" Decoder.string).names.Disjoint
      (Record.required "version" Decoder.word).names := by
    simp [Record.required, Record.names_field]
  show record.ofMembers members = .ok lib ↔ _
  simp only [record, Record.ofMembers_map_eq_ok_iff, Record.ofMembers_and_eq_ok_iff disjoint,
    Record.ofMembers_required_eq_ok_iff, Decoder.string_ofJson_iff, Decoder.word_ofJson_iff]
  constructor
  · intro succeeds
    rcases succeeds with ⟨read, ⟨⟨_, contents, rfl⟩, _, versions, rfl⟩, rfl⟩
    exact ⟨contents, versions⟩
  · intro described
    rcases described with ⟨contents, versions⟩
    exact ⟨(lib.content, lib.version), ⟨⟨_, contents, rfl⟩, _, versions, rfl⟩, rfl⟩

theorem ofJson_eq_ok_iff {item : Json} {lib : ExtraLib} :
    decoder.ofJson item = .ok lib ↔ Form item lib := by
  constructor
  · intro read
    match item, read with
    | .array items, read =>
        rw [ofJson_array_eq_ok_iff.1 read]
        exact .array lib.content lib.version
    | .object members, read =>
        rcases ofJson_object_eq_ok_iff.1 read with ⟨contents, versions⟩
        exact .object lib.content lib.version contents versions
  · intro form
    cases form with
    | array content version => exact ofJson_array_eq_ok_iff.2 rfl
    | object content version contents versions =>
        exact ofJson_object_eq_ok_iff.2 ⟨contents, versions⟩

example : decoder.ofJson (.object [("content", .string ""), ("version", .ofWord 1)]) =
    .ok { content := "", version := 1 } := rfl

end ExtraLib

/-- An object whose members are files. A name that is written twice keeps its place and takes
the later file. -/
def ExtraLibs.Form (item : Json) (libs : ExtraLibs) : Prop :=
  ∃ members entries, item = .object members ∧
    List.Forall₂ (fun member entry => member.1 = entry.1 ∧ ExtraLib.Form member.2 entry.2)
      members entries ∧
    libs.WrittenBy entries

theorem ExtraLibs.ofJson_eq_ok_iff {item : Json} {libs : ExtraLibs} :
    ExtraLibs.decoder.ofJson item = .ok libs ↔ ExtraLibs.Form item libs := by
  simp only [ExtraLibs.decoder, Decoder.map_ofJson_iff, Decoder.members_ofJson_iff,
    ExtraLib.ofJson_eq_ok_iff, ExtraLibs.Form, OrderedMap.ofList_eq_iff]
  constructor
  · intro succeeds
    rcases succeeds with ⟨entries, ⟨members, same, reads⟩, equal⟩
    exact ⟨members, entries, same, reads, equal⟩
  · intro described
    rcases described with ⟨members, entries, same, reads, equal⟩
    exact ⟨entries, ⟨members, same, reads⟩, equal⟩

/-- Files of an ordered object keep their order, which is that of the names. -/
theorem ExtraLibs.entries_of_form {members : List (String × Json)} {libs : ExtraLibs}
    (ordered : Json.Ordered members) (form : Form (.object members) libs) :
    libs.keys = members.map Prod.fst ∧
      List.Forall₂ (fun member entry => member.1 = entry.1 ∧ ExtraLib.Form member.2 entry.2)
        members libs.entries := by
  rcases form with ⟨_, entries, same, forms, written⟩
  cases same
  rw [← OrderedMap.ofList_eq_iff.2 written]
  have keys : entries.map Prod.fst = members.map Prod.fst := by
    rw [← List.forall₂_eq_eq_eq, List.forall₂_map_left_iff, List.forall₂_map_right_iff]
    exact forms.flip.imp fun _ _ both => both.1.symm
  have distinct : (entries.map Prod.fst).Nodup := keys ▸ ordered.nodup_keys
  rw [OrderedMap.keys, OrderedMap.entries_ofList distinct]
  exact ⟨keys, forms⟩

/-- An object is a form of extra declaration files when each of its members is one of a file. -/
theorem ExtraLibs.exists_form_iff {members : List (String × Json)} :
    (∃ libs, Form (.object members) libs) ↔
      ∀ member ∈ members, ∃ lib, ExtraLib.Form member.2 lib := by
  constructor
  · intro accepted
    rcases accepted with ⟨_, _, entries, same, forms, _⟩
    cases same
    have each : List.Forall₂ (fun member _ => (∃ lib, ExtraLib.Form member.2 lib) ∧ True)
        members entries :=
      forms.imp fun _ entry both => ⟨⟨entry.2, both.2⟩, trivial⟩
    exact ((List.forall₂_and_left members entries).1 each).1
  · intro each
    have : Nonempty ExtraLib := ⟨{ content := "", version := 0 }⟩
    choose! lib form using each
    refine ⟨_, members, members.map fun member => (member.1, lib member), rfl, ?_,
      OrderedMap.ofList_eq_iff.1 rfl⟩
    apply List.forall₂_map_right_iff.2
    apply List.forall₂_same.2
    intro member listed
    exact ⟨rfl, form member listed⟩

/-! ## Written files -/

/-- A file with its content and version. -/
def ExtraLib.Describes (lib : ExtraLib) (item : Json) : Prop :=
  item = .object [
    ("content", .string lib.content), ("version", .number (.integer lib.version.toNat))]

theorem ExtraLib.form_toJson (lib : ExtraLib) : Form lib.toJson lib :=
  .object lib.content lib.version rfl rfl

namespace ExtraLibs

theorem hasEntries_toJson (libs : ExtraLibs) : (toJson libs).HasEntries libs ExtraLib.Describes :=
  Json.hasEntries_ofMembers libs ExtraLib.toJson

/-- A written map lists its files in the order of their names. -/
theorem toJson_eq (libs : ExtraLibs) :
    toJson libs = .object (libs.sorted.entries.map fun (name, lib) => (name, lib.toJson)) := by
  apply Json.ofMembers_of_perm
  · apply List.pairwise_map.2
    exact List.pairwise_map.1 libs.keys_sorted_pairwise
  · exact libs.entries_sorted_perm.map _

/-- What has been written is read as the same files, by now in the order of their names. -/
theorem form_toJson (libs : ExtraLibs) : Form (toJson libs) libs.sorted := by
  refine ⟨_, libs.sorted.entries, toJson_eq libs, ?_,
    OrderedMap.ofList_eq_iff.1 (OrderedMap.ofList_entries _)⟩
  apply List.forall₂_map_left_iff.2
  apply List.forall₂_same.2
  intro entry _
  exact ⟨rfl, entry.2.form_toJson⟩

end ExtraLibs

end LanguageWorker

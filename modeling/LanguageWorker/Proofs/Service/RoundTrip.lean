import LanguageWorker.Proofs.Decode.Positional
import LanguageWorker.Proofs.Service.Description
import LanguageWorker.Proofs.Service.Sanitize

namespace LanguageWorker

/-! Written diagnostics read back. Writing and reading treat the fields differently: a file is
refused when it is written and passed over when it is read, some absent things are written
as null and others not at all. The main statement says that for all that nothing is lost
on the way there and back, and that the two forms of a record are read as the same. -/

/-- An object reads the same without a file, and as the array of the values that it has under
the names. -/
structure Decoder.TwoForms {α : Type} (decoder : Decoder α) (names : List String) : Prop where
  withoutFile : ∀ members,
    decoder.ofJson (.object (members.filter (·.1 ≠ "file"))) = decoder.ofJson (.object members)
  positional : ∀ members, Json.Ordered members → ∀ value,
    decoder.ofJson (.object members) = .ok value ↔
      decoder.ofJson (.array (Record.inOrder names members)) = .ok value

theorem Decoder.option_word_ofJson (word : Option UInt32) :
    Decoder.word.option.ofJson (.orNull (word.map Json.ofWord)) = .ok word := by
  cases word with
  | none => rfl
  | some value =>
      apply (Decoder.option_ofJson_iff nofun).2
      exact .inr ⟨value, Decoder.word_ofJson_ofWord value, rfl⟩

namespace Diagnostic.Category

theorem ofJson_name (category : Diagnostic.Category) :
    decoder.ofJson (.string category.name) = .ok category := by
  cases category <;> rfl

theorem ofJson_null (category : Diagnostic.Category) :
    decoder.ofJson .null ≠ .ok category :=
  nofun

end Diagnostic.Category

/-! ## Related entries -/

namespace RelatedInformation

variable {related : RelatedInformation} {item : Json}

theorem positional_record : record.Positional :=
  .map (.and (Record.positional_nullable _ _) <| .and (Record.positional_nullable _ _) <|
    .and (Record.positional_required nofun) <|
    .and (Record.positional_required Diagnostic.Category.ofJson_null) <|
    Record.positional_required nofun) _

theorem twoForms : decoder.TwoForms ["start", "length", "messageText", "category", "code"] where
  withoutFile members := Record.ofMembers_without (by decide) members
  positional _ ordered _ := positional_record.decoder_ofJson_iff (by decide) ordered

theorem file_of_ofJson (read : decoder.ofJson item = .ok related) : related.file = none := by
  have yields : record.Yields fun related => related.file = none :=
    .map ⟨fun _ _ _ _ => rfl, fun _ => rfl⟩
  exact yields.of_decoder (by decide) read

theorem exists_describes (related : RelatedInformation) : ∃ item, related.Describes item :=
  ⟨_, describes_sanitize_iff.1 (describes_of_toJson rfl)⟩

theorem ofJson_of_describes (describes : related.Describes item) :
    decoder.ofJson item = .ok related.sanitize := by
  rcases describes with ⟨members, rfl, ordered, listed⟩
  have given {key : String} {value : Json} (field : related.Field key value) :
      (key, value) ∈ members := (listed key value).2 field
  have makes : record.Makes members related.sanitize := by
    refine .map (.and ?_ <| .and ?_ <| .and ?_ <| .and ?_ ?_) _
    · exact Record.makes_field_of_mem ordered
        (given (.start (Json.orNull_isWord_iff.2 rfl))) (Decoder.option_word_ofJson _)
    · exact Record.makes_field_of_mem ordered
        (given (.length (Json.orNull_isWord_iff.2 rfl))) (Decoder.option_word_ofJson _)
    · exact Record.makes_field_of_mem ordered (given .messageText) rfl
    · exact Record.makes_field_of_mem ordered (given (.category related.category.goesBy_name))
        related.category.ofJson_name
    · exact Record.makes_field_of_mem ordered (given .code) (Decoder.word_ofJson_ofWord _)
  exact makes (by decide)

end RelatedInformation

/-! ## Diagnostics -/

namespace Diagnostic

variable {diagnostic : Diagnostic} {item : Json}

theorem positional_record : record.Positional :=
  .map (.and (Record.positional_nullable _ _) <| .and (Record.positional_nullable _ _) <|
    .and (Record.positional_required nofun) <|
    .and (Record.positional_required Category.ofJson_null) <|
    .and (Record.positional_required nofun) <| .and (Record.positional_optional _ _) <|
    Record.positional_optional _ _) _

theorem twoForms : decoder.TwoForms
    ["start", "length", "messageText", "category", "code", "source", "relatedInformation"] where
  withoutFile members := Record.ofMembers_without (by decide) members
  positional _ ordered _ := positional_record.decoder_ofJson_iff (by decide) ordered

theorem unbound_of_ofJson (read : decoder.ofJson item = .ok diagnostic) : diagnostic.Unbound := by
  have last : (Record.optional "relatedInformation"
      (Decoder.list RelatedInformation.decoder)).Yields fun related =>
        ∀ entries, related = some entries → ∀ entry ∈ entries, entry.file = none := by
    apply Record.yields_optional nofun
    intro item related read entries present
    subst present
    rcases (Decoder.option_ofJson_iff nofun).1 read with ⟨_, absent⟩ | ⟨_, reads, same⟩
    · cases absent
    · cases same
      exact Decoder.forall_mem_of_list_ofJson (fun _ _ => RelatedInformation.file_of_ofJson) reads
  have file : record.Yields fun diagnostic => diagnostic.file = none :=
    .map ⟨fun _ _ _ _ => rfl, fun _ => rfl⟩
  have related : record.Yields fun diagnostic => ∀ entries,
      diagnostic.relatedInformation = some entries → ∀ entry ∈ entries, entry.file = none :=
    .map (.second (.second (.second (.second (.second (.second last _) _) _) _) _) _)
  exact ⟨file.of_decoder (by decide) read, related.of_decoder (by decide) read⟩

theorem Field.source_ne_none {key : String} {value : Json} (field : diagnostic.Field key value)
    (same : key = "source") : diagnostic.source ≠ none := by
  cases field with
  | source present => exact present ▸ nofun
  | _ => exact absurd same (by decide)

theorem Field.related_ne_none {key : String} {value : Json} (field : diagnostic.Field key value)
    (same : key = "relatedInformation") : diagnostic.relatedInformation ≠ none := by
  cases field with
  | relatedInformation present => exact present ▸ nofun
  | _ => exact absurd same (by decide)

theorem ofJson_of_describes (describes : diagnostic.Describes item) :
    decoder.ofJson item = .ok diagnostic.sanitize := by
  rcases describes with ⟨members, rfl, ordered, listed⟩
  have given {key : String} {value : Json} (field : diagnostic.Field key value) :
      (key, value) ∈ members := (listed key value).2 field
  have makes : record.Makes members diagnostic.sanitize := by
    refine .map (.and ?_ <| .and ?_ <| .and ?_ <| .and ?_ <| .and ?_ <| .and ?_ ?_) _
    · exact Record.makes_field_of_mem ordered
        (given (.start (Json.orNull_isWord_iff.2 rfl))) (Decoder.option_word_ofJson _)
    · exact Record.makes_field_of_mem ordered
        (given (.length (Json.orNull_isWord_iff.2 rfl))) (Decoder.option_word_ofJson _)
    · exact Record.makes_field_of_mem ordered (given .messageText) rfl
    · exact Record.makes_field_of_mem ordered (given (.category diagnostic.category.goesBy_name))
        diagnostic.category.ofJson_name
    · exact Record.makes_field_of_mem ordered (given .code) (Decoder.word_ofJson_ofWord _)
    · cases present : diagnostic.source with
      | none =>
          apply Record.makes_field_of_absent _ rfl
          intro item member
          exact ((listed _ _).1 member).source_ne_none rfl present
      | some source => exact Record.makes_field_of_mem ordered (given (.source present)) rfl
    · cases present : diagnostic.relatedInformation with
      | none =>
          apply Record.makes_field_of_absent _ rfl
          intro item member
          exact ((listed _ _).1 member).related_ne_none rfl present
      | some entries =>
          -- No items are given to begin with, but there is a description of every entry.
          choose written described using RelatedInformation.exists_describes
          have each : List.Forall₂ RelatedInformation.Describes entries (entries.map written) :=
            List.forall₂_map_right_iff.2 (List.forall₂_same.2 fun entry _ => described entry)
          apply Record.makes_field_of_mem ordered (given (.relatedInformation present each))
          apply (Decoder.option_ofJson_iff nofun).2
          have reads := Decoder.list_ofJson_of_forall₂ each RelatedInformation.ofJson_of_describes
          exact .inr ⟨_, reads, rfl⟩
  exact makes (by decide)

end Diagnostic

/-! ## Lists of diagnostics -/

namespace Diagnostics

variable {diagnostics : List Diagnostic} {item : Json}

theorem ofJson_of_describe (describe : Describe diagnostics item) :
    (Decoder.list Diagnostic.decoder).ofJson item = .ok (sanitize diagnostics) := by
  rcases describe with ⟨items, rfl, each⟩
  exact Decoder.list_ofJson_of_forall₂ each Diagnostic.ofJson_of_describes

theorem exists_written (diagnostics : List Diagnostic) :
    ∃ item, toJson (sanitize diagnostics) = .ok item ∧ Describe diagnostics item ∧
      (Decoder.list Diagnostic.decoder).ofJson item = .ok (sanitize diagnostics) := by
  rcases exists_toJson_sanitize diagnostics with ⟨item, written⟩
  have describe := describe_of_toJson written
  exact ⟨item, written, describe, ofJson_of_describe describe⟩

/-- Written diagnostics are read as they were apart from their references. What is read of any
item has no references, so it can be written as it is and is read again. At both levels a
file is passed over, and it is the same to read an object or the array of its values. -/
theorem decode_encode :
    (∀ diagnostics, ∃ item, toJson (sanitize diagnostics) = .ok item ∧
      Describe diagnostics item ∧
      (Decoder.list Diagnostic.decoder).ofJson item = .ok (sanitize diagnostics)) ∧
    (∀ item diagnostics, (Decoder.list Diagnostic.decoder).ofJson item = .ok diagnostics →
      (∀ diagnostic ∈ diagnostics, diagnostic.Unbound) ∧ sanitize diagnostics = diagnostics ∧
      ∃ written, toJson diagnostics = .ok written ∧
        (Decoder.list Diagnostic.decoder).ofJson written = .ok diagnostics) ∧
    Diagnostic.decoder.TwoForms
      ["start", "length", "messageText", "category", "code", "source", "relatedInformation"] ∧
    RelatedInformation.decoder.TwoForms ["start", "length", "messageText", "category", "code"] := by
  refine ⟨exists_written, ?_, Diagnostic.twoForms, RelatedInformation.twoForms⟩
  intro item diagnostics read
  have unbound := Decoder.forall_mem_of_list_ofJson (fun _ _ => Diagnostic.unbound_of_ofJson) read
  have same := sanitize_of_unbound unbound
  rcases exists_written diagnostics with ⟨written, writes, _, reads⟩
  rw [same] at writes reads
  exact ⟨unbound, same, written, writes, reads⟩

/-- A diagnostic that comes with a file, and related to it an array in place of an object. -/
theorem decode_encode_of_file :
    ∃ diagnostics,
      (Decoder.list Diagnostic.decoder).ofJson (.array [.object [
        ("category", .string "error"), ("code", .ofNat 2304), ("file", .string "file:///a.ts"),
        ("length", .null), ("messageText", .string "Cannot find name"),
        ("relatedInformation", .array [.array [.ofNat 4, .ofNat 2, .string "Declared here",
          .string "message", .ofNat 2728]]),
        ("start", .null)]]) = .ok diagnostics ∧
      ∃ written, toJson diagnostics = .ok written ∧
        (Decoder.list Diagnostic.decoder).ofJson written = .ok diagnostics := by
  apply Exists.imp fun _ read => ⟨read, (decode_encode.2.1 _ _ read).2.2⟩
  exact ⟨[⟨none, none, none, "Cannot find name", .error, 2304, none,
    some [⟨none, some 4, some 2, "Declared here", .message, 2728⟩]⟩], rfl⟩

end Diagnostics

end LanguageWorker

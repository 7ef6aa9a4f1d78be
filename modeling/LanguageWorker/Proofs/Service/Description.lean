import LanguageWorker.Proofs.Json.Members
import LanguageWorker.Proofs.Service.Diagnostic
import LanguageWorker.Service.Edit

namespace LanguageWorker

/-! What the written answers of the engine say. A diagnostic is written with its fields and those
of its related entries, each under its own key, and no file. Changes and emitted files are
written with all their fields. -/

/-- The word that a category goes by. -/
inductive Diagnostic.Category.GoesBy : Category → String → Prop
  | warning : GoesBy .warning "warning"
  | error : GoesBy .error "error"
  | suggestion : GoesBy .suggestion "suggestion"
  | message : GoesBy .message "message"

/-- The members of a written entry. -/
inductive RelatedInformation.Field (related : RelatedInformation) : String → Json → Prop
  | start {item : Json} (offset : Json.OrNull Json.IsWord related.start item) :
      Field related "start" item
  | length {item : Json} (size : Json.OrNull Json.IsWord related.length item) :
      Field related "length" item
  | messageText : Field related "messageText" (.string related.messageText)
  | category {word : String} (goesBy : related.category.GoesBy word) :
      Field related "category" (.string word)
  | code : Field related "code" (.number (.integer related.code.toNat))

def RelatedInformation.Describes (related : RelatedInformation) (item : Json) : Prop :=
  item.HasFields related.Field

/-- The members of a written diagnostic. Source and related entries are there when the
diagnostic has them. -/
inductive Diagnostic.Field (diagnostic : Diagnostic) : String → Json → Prop
  | start {item : Json} (offset : Json.OrNull Json.IsWord diagnostic.start item) :
      Field diagnostic "start" item
  | length {item : Json} (size : Json.OrNull Json.IsWord diagnostic.length item) :
      Field diagnostic "length" item
  | messageText : Field diagnostic "messageText" (.string diagnostic.messageText)
  | category {word : String} (goesBy : diagnostic.category.GoesBy word) :
      Field diagnostic "category" (.string word)
  | code : Field diagnostic "code" (.number (.integer diagnostic.code.toNat))
  | source {source : String} (present : diagnostic.source = some source) :
      Field diagnostic "source" (.string source)
  | relatedInformation {entries : List RelatedInformation} {items : List Json}
      (present : diagnostic.relatedInformation = some entries)
      (each : List.Forall₂ RelatedInformation.Describes entries items) :
      Field diagnostic "relatedInformation" (.array items)

def Diagnostic.Describes (diagnostic : Diagnostic) (item : Json) : Prop :=
  item.HasFields diagnostic.Field

namespace Diagnostic.Category

variable {category : Diagnostic.Category} {word : String}

theorem goesBy_name (category : Diagnostic.Category) : category.GoesBy category.name := by
  cases category <;> constructor

theorem GoesBy.name_eq (goesBy : category.GoesBy word) : category.name = word := by
  cases goesBy <;> rfl

end Diagnostic.Category

/-! ## Related entries -/

namespace RelatedInformation

variable {related : RelatedInformation} {item : Json}

theorem describes_of_toJson (written : related.toJson = .ok item) : related.Describes item := by
  rcases Results.bind_eq_ok_iff.1 written with ⟨_, _, returned⟩
  cases returned
  refine ⟨_, rfl, ?_, ?_⟩
  · simp only [Json.Ordered, List.pairwise_cons, List.forall_mem_cons]
    decide
  · intro key value
    constructor
    · intro member
      simp only [List.mem_cons, Prod.mk.injEq, List.not_mem_nil, or_false] at member
      rcases member with ⟨rfl, rfl⟩ | ⟨rfl, rfl⟩ | ⟨rfl, rfl⟩ | ⟨rfl, rfl⟩ | ⟨rfl, rfl⟩
      · exact .category related.category.goesBy_name
      · exact .code
      · exact .length (Json.orNull_isWord_iff.2 rfl)
      · exact .messageText
      · exact .start (Json.orNull_isWord_iff.2 rfl)
    · intro field
      cases field with
      | start offset => simp [Json.orNull_isWord_iff.1 offset]
      | length size => simp [Json.orNull_isWord_iff.1 size]
      | messageText => simp
      | category goesBy => simp [Diagnostic.Category.toJson, goesBy.name_eq]
      | code => simp [Json.ofWord, Json.ofNat]

theorem rightUnique_describes : Relator.RightUnique Describes :=
  fun _ _ _ describes other => describes.unique other

/-- The file is not among the members. -/
theorem Field.withFile {key : String} {value : Json} (file : Option SourceFile)
    (field : related.Field key value) : { related with file }.Field key value := by
  cases field with
  | start offset => exact .start offset
  | length size => exact .length size
  | messageText => exact .messageText
  | category goesBy => exact .category goesBy
  | code => exact .code

theorem describes_sanitize_iff : related.sanitize.Describes item ↔ related.Describes item := by
  have same : related.sanitize.Field = related.Field := by
    funext key value
    exact propext ⟨fun field => field.withFile related.file, fun field => field.withFile none⟩
  rw [Describes, same, Describes]

theorem Field.key_ne_file {key : String} {value : Json} (field : related.Field key value) :
    key ≠ "file" := by
  cases field <;> decide

theorem Describes.lacks_file (describes : related.Describes item) : item.Lacks "file" := by
  apply describes.lacks
  · intro value field
    exact field.key_ne_file rfl
  · intro name value field
    cases field with
    | start offset => exact offset.lacks fun _ _ => Json.IsWord.lacks
    | length size => exact size.lacks fun _ _ => Json.IsWord.lacks
    | messageText => exact .string _
    | category goesBy => exact .string _
    | code => exact .number _

end RelatedInformation

/-! ## Diagnostics -/

namespace Diagnostic

variable {diagnostic : Diagnostic} {item : Json}

/-- Related entries that are there are written as one array, in their order, each as an
object that describes it. -/
theorem relatedToJson_eq_some_iff {related : Option (List RelatedInformation)}
    {written : Option Json} {value : Json} (writes : relatedToJson related = .ok written) :
    written = some value ↔
      ∃ entries items, related = some entries ∧ value = .array items ∧
        List.Forall₂ RelatedInformation.Describes entries items := by
  cases related with
  | none =>
      cases writes
      apply iff_of_false nofun
      intro described
      rcases described with ⟨_, _, absent, _⟩
      cases absent
  | some entries =>
      rcases Results.bind_eq_ok_iff.1 writes with ⟨items, each, returned⟩
      cases returned
      have described : List.Forall₂ RelatedInformation.Describes entries items := by
        apply (Results.mapM_eq_ok_iff.1 each).imp
        intro entry item
        exact RelatedInformation.describes_of_toJson
      constructor
      · intro shown
        cases shown
        exact ⟨entries, items, rfl, rfl, described⟩
      · intro other
        rcases other with ⟨_, others, present, rfl, otherDescribed⟩
        cases present
        rw [List.right_unique_forall₂' RelatedInformation.rightUnique_describes described
          otherDescribed]

theorem describes_of_toJson (written : diagnostic.toJson = .ok item) :
    diagnostic.Describes item := by
  rcases Results.bind_eq_ok_iff.1 written with ⟨_, _, rest⟩
  rcases Results.bind_eq_ok_iff.1 rest with ⟨related, writes, returned⟩
  cases returned
  refine ⟨_, rfl, ?_, ?_⟩
  · cases related <;> cases diagnostic.source <;>
      simp only [Json.Ordered, Json.member?, Option.map, List.append_nil, List.cons_append,
        List.nil_append, List.pairwise_cons, List.forall_mem_cons] <;>
      decide
  · intro key value
    simp only [List.mem_append, List.mem_cons, Prod.mk.injEq, List.not_mem_nil, or_false,
      Json.mem_member?_iff]
    constructor
    · intro member
      rcases member with
        (((⟨rfl, rfl⟩ | ⟨rfl, rfl⟩ | ⟨rfl, rfl⟩ | ⟨rfl, rfl⟩) | ⟨rfl, rfl⟩) | ⟨rfl, present⟩) |
          ⟨rfl, rfl⟩
      · exact .category diagnostic.category.goesBy_name
      · exact .code
      · exact .length (Json.orNull_isWord_iff.2 rfl)
      · exact .messageText
      · rcases (relatedToJson_eq_some_iff writes).1 rfl with ⟨entries, items, present, rfl, each⟩
        exact .relatedInformation present each
      · rcases Option.map_eq_some_iff.1 present with ⟨source, found, rfl⟩
        exact .source found
      · exact .start (Json.orNull_isWord_iff.2 rfl)
    · intro field
      cases field with
      | start offset => simp [Json.orNull_isWord_iff.1 offset]
      | length size => simp [Json.orNull_isWord_iff.1 size]
      | messageText => simp
      | category goesBy => simp [Category.toJson, goesBy.name_eq]
      | code => simp [Json.ofWord, Json.ofNat]
      | source present => simp [present]
      | relatedInformation present each =>
          have shown := (relatedToJson_eq_some_iff writes).2 ⟨_, _, present, rfl, each⟩
          simp [shown]

theorem describes_sanitize_iff :
    diagnostic.sanitize.Describes item ↔ diagnostic.Describes item := by
  have same : diagnostic.sanitize.Field = diagnostic.Field := by
    funext key value
    apply propext
    constructor
    · intro field
      cases field with
      | start offset => exact .start offset
      | length size => exact .length size
      | messageText => exact .messageText
      | category goesBy => exact .category goesBy
      | code => exact .code
      | source present => exact .source present
      | relatedInformation present each =>
          rcases Option.map_eq_some_iff.1 present with ⟨entries, found, rfl⟩
          apply Field.relatedInformation found
          apply (List.forall₂_map_left_iff.1 each).imp
          intro entry item
          exact RelatedInformation.describes_sanitize_iff.1
    · intro field
      cases field with
      | start offset => exact .start offset
      | length size => exact .length size
      | messageText => exact .messageText
      | category goesBy => exact .category goesBy
      | code => exact .code
      | source present => exact .source present
      | relatedInformation present each =>
          apply Field.relatedInformation (Option.map_eq_some_iff.2 ⟨_, present, rfl⟩)
          apply List.forall₂_map_left_iff.2
          apply each.imp
          intro entry item
          exact RelatedInformation.describes_sanitize_iff.2
  rw [Describes, same, Describes]

theorem Field.key_ne_file {key : String} {value : Json} (field : diagnostic.Field key value) :
    key ≠ "file" := by
  cases field <;> decide

theorem Describes.lacks_file (describes : diagnostic.Describes item) : item.Lacks "file" := by
  apply describes.lacks
  · intro value field
    exact field.key_ne_file rfl
  · intro name value field
    cases field with
    | start offset => exact offset.lacks fun _ _ => Json.IsWord.lacks
    | length size => exact size.lacks fun _ _ => Json.IsWord.lacks
    | messageText => exact .string _
    | category goesBy => exact .string _
    | code => exact .number _
    | source present => exact .string _
    | relatedInformation present each =>
        exact Json.ArrayOf.lacks ⟨_, rfl, each⟩ fun _ _ describes => describes.lacks_file

end Diagnostic

/-! ## Lists of diagnostics -/

/-- An array with one object for each diagnostic, in their order, that describes it. -/
def Diagnostics.Describe (diagnostics : List Diagnostic) (item : Json) : Prop :=
  Json.ArrayOf Diagnostic.Describes diagnostics item

namespace Diagnostics

variable {diagnostics : List Diagnostic} {item : Json}

theorem describe_of_toJson (written : toJson (sanitize diagnostics) = .ok item) :
    Describe diagnostics item := by
  rcases Results.bind_eq_ok_iff.1 written with ⟨items, each, returned⟩
  cases returned
  refine ⟨items, rfl, ?_⟩
  apply (List.forall₂_map_left_iff.1 (Results.mapM_eq_ok_iff.1 each)).imp
  intro diagnostic item written
  exact Diagnostic.describes_sanitize_iff.1 (Diagnostic.describes_of_toJson written)

theorem Describe.unique {other : Json} (describe : Describe diagnostics item)
    (otherDescribe : Describe diagnostics other) : item = other :=
  Json.ArrayOf.unique describe otherDescribe fun _ _ _ describes other => describes.unique other

theorem Describe.lacks_file (describe : Describe diagnostics item) : item.Lacks "file" :=
  Json.ArrayOf.lacks describe fun _ _ describes => describes.lacks_file

end Diagnostics

/-! ## Changes and emitted files -/

/-- A change with its new text and the span of the old one. -/
def TextChange.Describes (change : TextChange) (item : Json) : Prop :=
  item = .object [
    ("newText", .string change.newText),
    ("span", .object [
      ("length", .number (.integer change.span.length.toNat)),
      ("start", .number (.integer change.span.start.toNat))])]

def OutputFile.Describes (file : OutputFile) (item : Json) : Prop :=
  item = .object [
    ("name", .string file.name),
    ("text", .string file.text),
    ("writeByteOrderMark", .boolean file.writeByteOrderMark)]

/-- The emitted files in their order, and whether they were left out. -/
def EmitOutput.Describes (output : EmitOutput) (item : Json) : Prop :=
  ∃ files, Json.ArrayOf OutputFile.Describes output.outputFiles files ∧
    item = .object [("emitSkipped", .boolean output.emitSkipped), ("outputFiles", files)]

theorem TextChange.describes_toJson (change : TextChange) : change.Describes change.toJson := rfl

theorem OutputFile.describes_toJson (file : OutputFile) : file.Describes file.toJson := rfl

theorem EmitOutput.describes_toJson (output : EmitOutput) : output.Describes output.toJson :=
  ⟨_, Json.arrayOf_map OutputFile.describes_toJson output.outputFiles, rfl⟩

end LanguageWorker

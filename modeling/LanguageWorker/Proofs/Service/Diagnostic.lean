import LanguageWorker.Proofs.Results
import LanguageWorker.Service.Diagnostic

namespace LanguageWorker

/-! How far diagnostics can be written. They are written in the order of the document, and
the first reference to a file that turns up there is where the writing stops. -/

/-! ## References in the order of the document -/

/-- The files that a diagnostic refers to: its own before those of the entries related to it. -/
def Diagnostic.references (diagnostic : Diagnostic) : List SourceFile :=
  diagnostic.file.toList ++
    (diagnostic.relatedInformation.getD []).flatMap fun entry => entry.file.toList

def Diagnostics.references (diagnostics : List Diagnostic) : List SourceFile :=
  diagnostics.flatMap Diagnostic.references

/-- Neither the diagnostic nor an entry related to it refers to a file. -/
def Diagnostic.Unbound (diagnostic : Diagnostic) : Prop :=
  diagnostic.file = none ∧
    ∀ entries, diagnostic.relatedInformation = some entries → ∀ entry ∈ entries, entry.file = none

theorem Diagnostic.references_eq_nil_iff {diagnostic : Diagnostic} :
    diagnostic.references = [] ↔ diagnostic.Unbound := by
  rw [references, List.append_eq_nil_iff, Option.toList_eq_nil_iff, List.flatMap_eq_nil_iff]
  simp only [Option.toList_eq_nil_iff]
  apply and_congr_right
  intro _
  cases diagnostic.relatedInformation with
  | none => simp
  | some entries => simp

theorem Diagnostics.references_eq_nil_iff {diagnostics : List Diagnostic} :
    references diagnostics = [] ↔ ∀ diagnostic ∈ diagnostics, diagnostic.Unbound := by
  simp only [references, List.flatMap_eq_nil_iff, Diagnostic.references_eq_nil_iff]

/-! ## Where writing stops -/

section Writing

variable {α β : Type}

/-- Written where there are no references, and else refused at the first of them. -/
def StopsAt (written : Except BackReference α) : List SourceFile → Prop
  | [] => ∃ value, written = .ok value
  | file :: _ => written = .error ⟨file.fileName⟩

variable {written : Except BackReference α} {references : List SourceFile}

theorem StopsAt.bind {next : α → Except BackReference β} {others : List SourceFile}
    (stops : StopsAt written references)
    (goesOn : ∀ value, StopsAt (next value) others) :
    StopsAt (written >>= next) (references ++ others) := by
  cases references with
  | nil =>
      rcases stops with ⟨value, rfl⟩
      exact goesOn value
  | cons file rest =>
      have refused : written = .error ⟨file.fileName⟩ := stops
      rw [refused]
      rfl

theorem stopsAt_pure (value : α) : StopsAt (pure value) [] := ⟨value, rfl⟩

/-- What cannot stop any more leaves the place as it is. -/
theorem StopsAt.finish (stops : StopsAt written references) (make : α → β) :
    StopsAt (written >>= fun value => pure (make value)) references := by
  have ended := stops.bind fun value => stopsAt_pure (make value)
  rwa [List.append_nil] at ended

theorem StopsAt.mapM {step : α → Except BackReference β} {refers : α → List SourceFile}
    (each : ∀ item, StopsAt (step item) (refers item)) (items : List α) :
    StopsAt (items.mapM step) (items.flatMap refers) := by
  induction items with
  | nil => exact stopsAt_pure []
  | cons item rest induction =>
      rw [List.mapM_cons, List.flatMap_cons]
      apply (each item).bind
      intro value
      exact induction.finish fun values => value :: values

theorem StopsAt.exists_ok_iff (stops : StopsAt written references) :
    (∃ value, written = .ok value) ↔ references = [] := by
  cases references with
  | nil => exact iff_of_true stops rfl
  | cons file rest =>
      have refused : written = .error ⟨file.fileName⟩ := stops
      rw [refused]
      exact iff_of_false nofun nofun

theorem StopsAt.eq_error_iff (stops : StopsAt written references) {reference : BackReference} :
    written = .error reference ↔
      ∃ file, references.head? = some file ∧ reference = ⟨file.fileName⟩ := by
  cases references with
  | nil =>
      rcases stops with ⟨value, rfl⟩
      exact iff_of_false nofun nofun
  | cons file rest =>
      have refused : written = .error ⟨file.fileName⟩ := stops
      rw [refused, List.head?_cons]
      simp only [Option.some.injEq, exists_eq_left', Except.error.injEq, eq_comm]

end Writing

theorem BackReference.stopsAt_refuse (file : Option SourceFile) :
    StopsAt (refuse file) file.toList := by
  cases file with
  | none => exact ⟨(), rfl⟩
  | some file => rfl

theorem RelatedInformation.stopsAt_toJson (related : RelatedInformation) :
    StopsAt related.toJson related.file.toList :=
  (BackReference.stopsAt_refuse related.file).finish _

theorem Diagnostic.stopsAt_relatedToJson (related : Option (List RelatedInformation)) :
    StopsAt (relatedToJson related)
      ((related.getD []).flatMap fun entry => entry.file.toList) := by
  cases related with
  | none => exact ⟨none, rfl⟩
  | some entries => exact (StopsAt.mapM RelatedInformation.stopsAt_toJson entries).finish _

theorem Diagnostic.stopsAt_toJson (diagnostic : Diagnostic) :
    StopsAt diagnostic.toJson diagnostic.references := by
  apply (BackReference.stopsAt_refuse diagnostic.file).bind
  intro _
  exact (stopsAt_relatedToJson diagnostic.relatedInformation).finish _

theorem Diagnostics.stopsAt_toJson (diagnostics : List Diagnostic) :
    StopsAt (toJson diagnostics) (references diagnostics) :=
  (StopsAt.mapM Diagnostic.stopsAt_toJson diagnostics).finish _

/-! ## Without references -/

theorem Diagnostic.unbound_sanitize (diagnostic : Diagnostic) : diagnostic.sanitize.Unbound := by
  refine ⟨rfl, fun entries same entry member => ?_⟩
  rcases Option.map_eq_some_iff.1 same with ⟨entries, _, rfl⟩
  rcases List.mem_map.1 member with ⟨entry, _, rfl⟩
  rfl

theorem Diagnostics.unbound_of_mem_sanitize {diagnostics : List Diagnostic}
    {diagnostic : Diagnostic} (member : diagnostic ∈ sanitize diagnostics) :
    diagnostic.Unbound := by
  rcases List.mem_map.1 member with ⟨origin, _, rfl⟩
  exact origin.unbound_sanitize

theorem Diagnostics.exists_toJson_iff {diagnostics : List Diagnostic} :
    (∃ json, toJson diagnostics = .ok json) ↔
      ∀ diagnostic ∈ diagnostics, diagnostic.Unbound :=
  (stopsAt_toJson diagnostics).exists_ok_iff.trans references_eq_nil_iff

/-- No reference is left that could be in the way. -/
theorem Diagnostics.exists_toJson_sanitize (diagnostics : List Diagnostic) :
    ∃ json, Diagnostics.toJson (Diagnostics.sanitize diagnostics) = .ok json :=
  exists_toJson_iff.2 fun _ => unbound_of_mem_sanitize

end LanguageWorker

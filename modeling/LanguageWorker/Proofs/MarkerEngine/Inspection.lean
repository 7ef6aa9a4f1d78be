import LanguageWorker.Proofs.Script.Snapshot
import LanguageWorker.Proofs.Service.RoundTrip
import LanguageWorker.Proofs.Text.Search
import LanguageWorker.Proofs.Worker.Failure
import LanguageWorker.Service.MarkerEngine

namespace LanguageWorker

/-! Inspections of files by the engine of the marker words. It searches the text of a file for the
marker of the inspection, and no marker overlaps itself, so each place of the marker is reported
and nothing else is. What the worker passes on can be read off against the text that it shows
for the same name. -/

/-- The ways to inspect a file. -/
inductive Inspection where
  | syntactic
  | semantic
  | suggestion
  deriving DecidableEq, Repr

namespace Inspection

/-- What is looked for. -/
def marker : Inspection → String
  | syntactic => "ERR"
  | semantic => "any"
  | suggestion => "var "

/-- The name by which an editor asks for an inspection. -/
def method : Inspection → String
  | syntactic => "getSyntacticDiagnostics"
  | semantic => "getSemanticDiagnostics"
  | suggestion => "getSuggestionDiagnostics"

/-- What the engine says about a file. -/
def ask (service : LanguageService) : Inspection → String → Answer (List Diagnostic)
  | syntactic => service.syntacticDiagnostics
  | semantic => service.semanticDiagnostics
  | suggestion => service.suggestionDiagnostics

end Inspection

/-- A diagnostic that refers to no file tells of a marker at a place, and there the marker is
read in the text of that name. -/
structure Diagnostic.Marks (host : Host) (name marker : String) (place : Nat)
    (diagnostic : Diagnostic) : Prop where
  start : diagnostic.start.map UInt32.toNat = some place
  length : diagnostic.length.map UInt32.toNat = some (Text.bytesOf marker).length
  reads : (host.scriptSnapshot? name).bind
    (fun snapshot => snapshot.getText? place (place + (Text.bytesOf marker).length)) = some marker
  unbound : diagnostic.Unbound

/-- The diagnostics tell one after the other of all places of a marker in a text. -/
structure Diagnostics.MarkAll (host : Host) (name text marker : String) (places : List Nat)
    (diagnostics : List Diagnostic) : Prop where
  occurs : ∀ place, place ∈ places ↔ Text.OccursAt marker text place
  increasing : places.Pairwise (· < ·)
  disjoint : places.Pairwise fun first second =>
    first + (Text.bytesOf marker).length ≤ second
  each : List.Forall₂ (Diagnostic.Marks host name marker) places diagnostics

/-- What comes of an inspection: all places of its marker, if there is a text of that name, and
else the engine's error. What is written reads back as the diagnostics and names no file. -/
structure Inspection.Reports (inspection : Inspection) (worker : Worker) (store : Store)
    (name : String) : Prop where
  found : ∀ text, (worker.host store).scriptText? name = some text →
    (Text.bytesOf text).length < UInt32.size →
      ∃ places diagnostics item,
        (inspection.ask (worker.service store) name).map Diagnostics.sanitize = .ok diagnostics ∧
        Diagnostics.MarkAll (worker.host store) name text inspection.marker places diagnostics ∧
        worker.dispatch store inspection.method (.array [.string name]) = (worker, .ok item) ∧
        (Decoder.list Diagnostic.decoder).ofJson item = .ok diagnostics ∧ item.Lacks "file"
  missing : (worker.host store).scriptText? name = none →
    worker.dispatch store inspection.method (.array [.string name]) = (worker,
      .error (.engine (.reported ("Could not find source file: '" ++ name ++ "'."))))

/-! ## What the engine finds -/

theorem Worker.service_of_markerEngine {worker : Worker} (marking : worker.engine = markerEngine)
    (store : Store) : worker.service store = markerEngine (worker.host store).view := by
  rw [service, marking]

namespace MarkerEngine

variable {host : Host} {name text : String}

theorem source_of_text (resolves : host.scriptText? name = some text) :
    source host.view name = .ok ⟨name, text⟩ := by
  have shown : host.view.scriptSnapshot name = some ⟨text⟩ :=
    Option.map_eq_some_iff.2 ⟨text, resolves, rfl⟩
  rw [source, shown]

theorem source_of_missing (missing : host.scriptText? name = none) :
    source host.view name =
      .error (.reported ("Could not find source file: '" ++ name ++ "'.")) := by
  have shown : host.view.scriptSnapshot name = none := Option.map_eq_none_iff.2 missing
  rw [source, shown]

end MarkerEngine

namespace Inspection

open MarkerEngine

variable {host : Host} {name text : String} {place : Nat}

theorem unbordered_marker (inspection : Inspection) :
    Text.Unbordered inspection.marker.toList := by
  cases inspection <;> decide

/-- An inspection looks for its marker. The diagnostics of different inspections differ in other
ways as well. -/
theorem exists_ask_eq (inspection : Inspection) (view : HostView) (name : String) :
    ∃ (code : UInt32) (message : String) (category : Diagnostic.Category)
      (related : SourceFile → Option (List RelatedInformation)),
      inspection.ask (markerEngine view) name = source view name >>= fun file =>
        .ok (markerDiagnostics file inspection.marker code message category (related file)) := by
  cases inspection with
  | syntactic => exact ⟨1005, "';' expected.", .error, fun _ => none, rfl⟩
  | semantic =>
      exact ⟨7005, "Variable implicitly has an 'any' type.", .error,
        fun file => some [declaration file], rfl⟩
  | suggestion => exact ⟨80004, "Use 'let' instead.", .suggestion, fun _ => none, rfl⟩

/-! ## Places of a marker -/

theorem marks_of_standsAt {marker : String} (resolves : host.scriptText? name = some text)
    (small : (Text.bytesOf text).length < UInt32.size)
    (stands : Text.StandsAt marker.toList text.toList place) {diagnostic : Diagnostic}
    (start : diagnostic.start = some (UInt32.ofNat place))
    (length : diagnostic.length = some (UInt32.ofNat (Text.byteLength marker.toList))) :
    diagnostic.sanitize.Marks host name marker place := by
  have within := stands.le_byteLength
  have shown : host.scriptSnapshot? name = some ⟨text⟩ :=
    Option.map_eq_some_iff.2 ⟨text, resolves, rfl⟩
  rw [Text.length_bytesOf] at small
  refine ⟨?_, ?_, ?_, diagnostic.unbound_sanitize⟩
  · have kept : (UInt32.ofNat place).toNat = place := UInt32.toNat_ofNat_of_lt' (by omega)
    rw [Diagnostic.sanitize, start, Option.map_some, kept]
  · have kept : (UInt32.ofNat (Text.byteLength marker.toList)).toNat =
        Text.byteLength marker.toList := UInt32.toNat_ofNat_of_lt' (by omega)
    rw [Diagnostic.sanitize, length, Option.map_some, kept, Text.length_bytesOf]
  · rw [shown, Option.bind_some, Text.length_bytesOf]
    apply ((Snapshot.cutsWithin _ _ _).piece_iff marker).2
    have ordered := Nat.le_add_right place (Text.byteLength marker.toList)
    rcases stands with ⟨before, after, split, rfl⟩
    refine ⟨before, after, split, ?_, ?_⟩
    · rw [Snapshot.lower_of_le ordered]
      exact (Nat.min_eq_left (Nat.le_trans ordered within)).symm
    · rw [Snapshot.upper_of_le ordered]
      exact (Nat.min_eq_left within).symm

theorem markAll_markerDiagnostics (resolves : host.scriptText? name = some text)
    (small : (Text.bytesOf text).length < UInt32.size) {marker : String}
    (unbordered : Text.Unbordered marker.toList) (code : UInt32) (message : String)
    (category : Diagnostic.Category) (related : Option (List RelatedInformation)) :
    Diagnostics.MarkAll host name text marker (Text.occurrences marker.toList text.toList)
      (Diagnostics.sanitize
        (markerDiagnostics ⟨name, text⟩ marker code message category related)) where
  occurs place := by
    rw [Text.occursAt_iff unbordered.1, Text.mem_occurrences_iff unbordered]
  increasing := Text.pairwise_lt_occurrences unbordered text.toList
  disjoint := by
    rw [Text.length_bytesOf]
    exact Text.pairwise_occurrences unbordered text.toList
  each := by
    rw [Diagnostics.sanitize, markerDiagnostics, List.map_map]
    apply List.forall₂_map_right_iff.2
    apply List.forall₂_same.2
    intro place found
    exact marks_of_standsAt resolves small ((Text.mem_occurrences_iff unbordered).1 found) rfl rfl

/-! ## What the worker passes on -/

theorem method_mem_diagnosticCalls (inspection : Inspection) (service : LanguageService) :
    (inspection.method, inspection.ask service) ∈ Worker.diagnosticCalls service := by
  cases inspection with
  | syntactic => exact .head _
  | semantic => exact .tail _ (.head _)
  | suggestion => exact .tail _ (.tail _ (.head _))

theorem dispatch_method (inspection : Inspection) (worker : Worker) (store : Store)
    (name : String) :
    (worker.dispatch store inspection.method (.array [.string name])).1 = worker ∧
      AnswerType.diagnostics.Conveys (inspection.ask (worker.service store) name)
        (worker.dispatch store inspection.method (.array [.string name])).2 := by
  have listed := inspection.method_mem_diagnosticCalls (worker.service store)
  have understands := Worker.understands_calls worker store _
    (worker.diagnosticCall_mem_calls store worker.inlayHintsOptions _ listed)
  exact understands.answers [.string name] (name, ()) (Worker.readsAll_text_iff.2 rfl)

/-- An inspection reports every place of its marker once, and nothing else. -/
theorem reports_of_markerEngine (inspection : Inspection) {worker : Worker}
    (marking : worker.engine = markerEngine) (store : Store) (name : String) :
    inspection.Reports worker store name := by
  have service := Worker.service_of_markerEngine marking store
  rcases inspection.exists_ask_eq (worker.host store).view name with
    ⟨code, message, category, related, asked⟩
  rcases inspection.dispatch_method worker store name with ⟨unchanged, conveys⟩
  rw [← service] at asked
  rw [asked] at conveys
  constructor
  · intro text resolves small
    rw [source_of_text resolves] at asked conveys
    rcases conveys with ⟨item, describe, succeeded⟩
    exact ⟨_, _, item, congrArg (Except.map Diagnostics.sanitize) asked,
      markAll_markerDiagnostics resolves small inspection.unbordered_marker _ _ _ _,
      Prod.ext unchanged succeeded, Diagnostics.ofJson_of_describe describe, describe.lacks_file⟩
  · intro missing
    rw [source_of_missing missing] at conveys
    exact Prod.ext unchanged conveys

/-- A worker without documents. Its built-in file has markers behind a longer character. -/
def withMarkers : Worker where
  documents := Store.directory
  engine := markerEngine
  libs := .ofList [("lib.dom.d.ts", "é any, anyany")]
  settings := .empty
  extraLibs := .empty
  inlayHintsOptions := .empty

theorem reports_of_withMarkers :
    withMarkers.engine = markerEngine ∧
      withMarkers.dispatch .empty "getSemanticDiagnostics" (.array [.string "es5"]) =
        (withMarkers, .error (.engine (.reported "Could not find source file: 'es5'."))) ∧
      ∃ places diagnostics item,
        3 ∈ places ∧ 8 ∈ places ∧ 11 ∈ places ∧
        Diagnostics.MarkAll (withMarkers.host .empty) "dom" "é any, anyany" "any" places
          diagnostics ∧
        withMarkers.dispatch .empty "getSemanticDiagnostics" (.array [.string "dom"]) =
          (withMarkers, .ok item) ∧
        (Decoder.list Diagnostic.decoder).ofJson item = .ok diagnostics := by
  have marking : withMarkers.engine = markerEngine := rfl
  have reports := reports_of_markerEngine .semantic marking .empty
  have resolves : (withMarkers.host .empty).scriptText? "dom" = some "é any, anyany" := by
    decide +kernel
  rcases (reports "dom").found _ resolves (by decide +kernel) with
    ⟨places, diagnostics, item, _, marks, answered, reads, _⟩
  exact ⟨marking, (reports "es5").missing (by decide +kernel), places, diagnostics, item,
    (marks.occurs 3).2 (by decide +kernel), (marks.occurs 8).2 (by decide +kernel),
    (marks.occurs 11).2 (by decide +kernel), marks, answered, reads⟩

end Inspection

end LanguageWorker

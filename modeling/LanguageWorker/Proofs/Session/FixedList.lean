import LanguageWorker.Proofs.Host.Sources
import LanguageWorker.Proofs.Session.Run
import LanguageWorker.Service.MarkerEngine

namespace LanguageWorker

/-! Documents that are seen through a list. A store answers a look-up by itself, and a list is
searched from its beginning. The main statement says that a session cannot tell its store
from the list of what the store holds for as long as no document is opened, updated or
closed, and what the files look like behind a list that was not taken from a store. -/

theorem Store.directory_eq_ofList (store : Store) : store.directory = .ofList store.models :=
  congrArg (Directory.mk store.models) (funext store.get?_eq_firstOf)

/-! ## Files behind a list -/

namespace Directory

theorem firstOf_eq_some {before after : List Document} {document : Document}
    (first : ∀ earlier ∈ before, earlier.uri ≠ document.uri) :
    firstOf (before ++ document :: after) document.uri = some document := by
  apply List.find?_eq_some_iff_append.2
  refine ⟨beq_self_eq_true _, before, after, rfl, ?_⟩
  intro earlier member
  exact Bool.not_eq_eq_eq_not.2 (beq_eq_false_iff_ne.2 (first earlier member))

theorem firstOf_eq_none_iff {documents : List Document} {uri : String} :
    firstOf documents uri = none ↔ uri ∉ documents.map Document.uri := by
  simp [firstOf, List.find?_eq_none]

end Directory

namespace Host

/-- The files behind a list of documents. The listing repeats what the list repeats, and text
and version both come from the first document of a URI. -/
structure ShowsList (host : Host) (documents : List Document) : Prop where
  fileNames : host.scriptFileNames = documents.map Document.uri ++ host.extraLibs.keys
  repeated : ∀ uri, host.scriptFileNames.count uri =
    (documents.map Document.uri).count uri + if uri ∈ host.extraLibs.keys then 1 else 0
  first : ∀ before document after, documents = before ++ document :: after →
    (∀ earlier ∈ before, earlier.uri ≠ document.uri) →
    host.scriptText? document.uri = some document.text ∧
      host.scriptVersion document.uri = toString document.version.toInt
  unlisted : ∀ uri, uri ∉ documents.map Document.uri → ¬ host.IsOpen uri

theorem showsList_ofList (host : Host) (documents : List Document) :
    ShowsList { host with directory := .ofList documents } documents where
  fileNames := rfl
  repeated uri := by
    have once : host.extraLibs.keys.Nodup := host.extraLibs.distinct
    rw [← once.count]
    exact List.count_append
  first before document after split first := by
    have found : (Directory.ofList documents).model? document.uri = some document :=
      split ▸ Directory.firstOf_eq_some first
    exact ⟨scriptText?_of_open found, scriptVersion_of_open found⟩
  unlisted uri absent := not_isOpen_iff.2 (Directory.firstOf_eq_none_iff.2 absent)

end Host

/-! ## Other directories that show the same -/

namespace Worker

/-- The worker with another view of the editor's store. -/
def withDocuments (worker : Worker) (documents : Store → Directory) : Worker :=
  { worker with documents }

variable {worker : Worker} {store : Store} {documents : Store → Directory}
  (same : documents store = worker.documents store)
include same

theorem host_withDocuments : (worker.withDocuments documents).host store = worker.host store :=
  congrArg (fun directory => { worker.host store with directory }) same

theorem query_withDocuments (request : Request) :
    (worker.withDocuments documents).query store request = worker.query store request := by
  have service : (worker.withDocuments documents).service store = worker.service store :=
    congrArg (fun host : Host => worker.engine host.view) (host_withDocuments same)
  simp only [query, host_withDocuments same, service]
  rfl

theorem dispatch_withDocuments (method : String) (given : Json) :
    (worker.withDocuments documents).dispatch store method given =
      ((worker.dispatch store method given).1.withDocuments documents,
        (worker.dispatch store method given).2) := by
  by_cases named : method ∈ Method.all.map Method.name
  · rcases List.mem_map.1 named with ⟨known, _, rfl⟩
    cases decoded : Request.decode known given with
    | error cause => simp only [dispatch_of_refused decoded]
    | ok request =>
        simp only [dispatch_of_decoded known decoded, query_withDocuments same]
        cases request <;> rfl
  · simp only [dispatch_of_unknown named]

end Worker

namespace Session

def withDocuments (session : Session) (documents : Store → Directory) : Session :=
  { session with worker := session.worker.withDocuments documents }

/-- At this moment the documents would be the same. -/
def Shows (session : Session) (documents : Store → Directory) : Prop :=
  documents session.store = session.worker.documents session.store

variable {session : Session} {documents : Store → Directory}

namespace Shows

theorem host_withDocuments (alike : session.Shows documents) :
    (session.withDocuments documents).host = session.host :=
  Worker.host_withDocuments alike

/-- No step but an operation on documents can tell the two views apart. -/
theorem stepWith (alike : session.Shows documents) (engine : Engine) {step : Step}
    (quiet : step.operation? = none) :
    (session.stepWith engine step).1.Shows documents ∧
      (session.withDocuments documents).stepWith engine step =
        ((session.stepWith engine step).1.withDocuments documents,
          (session.stepWith engine step).2) := by
  constructor
  · rw [Shows, (stepWith_sameSetup session engine step).documents,
      stepWith_store_of_none session engine quiet]
    exact alike
  · cases step with
    | openDocument uri text version => cases quiet
    | updateDocument uri text => cases quiet
    | closeDocument uri => cases quiet
    | updateExtraLibs libs => rfl
    | call method given =>
        have answered := @Worker.dispatch_withDocuments { session.worker with engine }
          session.store documents alike method given
        exact congrArg (fun outcome : Worker × Except WorkerError Json =>
          (({ session with worker := outcome.1 } : Session), Reply.answer outcome.2)) answered

theorem runWith (alike : session.Shows documents) {steps : List (Engine × Step)}
    (quiet : ∀ taken ∈ steps, taken.2.operation? = none) :
    (session.runWith steps).1.Shows documents ∧
      (session.withDocuments documents).runWith steps =
        ((session.runWith steps).1.withDocuments documents, (session.runWith steps).2) := by
  induction steps generalizing session with
  | nil => exact ⟨alike, rfl⟩
  | cons taken rest induction =>
      rcases List.forall_mem_cons.1 quiet with ⟨now, later⟩
      rcases alike.stepWith taken.1 now with ⟨still, answered⟩
      rcases induction still later with ⟨last, run⟩
      refine ⟨last, ?_⟩
      rw [Session.runWith, answered]
      simp only [run]
      rfl

end Shows

/-- A session that sees the editor's store might as well see the list of what the store holds.
Every look-up finds the same document, and until one is opened, updated or closed all files
are the same and every call is answered alike, whatever the engines are. A list that may
also repeat itself is listed as it is and searched for the first document of a URI. -/
theorem runWith_fixedList (session : Session)
    (sees : session.worker.documents = Store.directory) :
    let fixed := session.withDocuments fun _ => .ofList session.store.models
    (∀ uri, session.store.get? uri = Directory.firstOf session.store.models uri) ∧
    (∀ steps : List (Engine × Step), (∀ taken ∈ steps, taken.2.operation? = none) →
      (fixed.runWith steps).2 = (session.runWith steps).2 ∧
      (fixed.runWith steps).1.host = (session.runWith steps).1.host) ∧
    ∀ (host : Host) (documents : List Document),
      Host.ShowsList { host with directory := .ofList documents } documents := by
  intro fixed
  have alike : session.Shows fun _ => .ofList session.store.models := by
    rw [Shows, sees, Store.directory_eq_ofList]
  refine ⟨session.store.get?_eq_firstOf, ?_, Host.showsList_ofList⟩
  intro steps quiet
  rcases alike.runWith quiet with ⟨last, run⟩
  rw [run]
  exact ⟨rfl, last.host_withDocuments⟩

/-- Two documents, of which the one that was opened first has been opened anew. -/
def reopened : Session where
  store := ((Store.empty.openDocument "b" "one" 1).openDocument "a" "two" 4).openDocument
    "b" "three" 2
  worker := {
    documents := Store.directory
    engine := markerEngine
    libs := .empty
    settings := .empty
    extraLibs := .ofList [("g.d.ts", { content := "declare const g: 1;", version := 1 })]
    inlayHintsOptions := .empty }

def askingSteps : List Step :=
  [.call "getScriptText" (.array [.string "b"]),
    .call "updateExtraLibs" (.array [.object [("b", .array [.string "hidden", .ofWord 2])]]),
    .call "getScriptFileNames" (.array [])]

theorem runWith_fixedList_reopened :
    let all := askingSteps.map fun step => (markerEngine, step)
    let fixed := reopened.withDocuments fun _ =>
      .ofList [⟨"b", 2, "three"⟩, ⟨"a", 4, "two"⟩]
    reopened.worker.documents = Store.directory ∧
      (∀ taken ∈ all, taken.2.operation? = none) ∧
      (fixed.runWith all).1.host.scriptFileNames = ["b", "a", "b"] ∧
      (fixed.runWith all).2 = (reopened.runWith all).2 := by
  intro all fixed
  have quiet : ∀ taken ∈ all, taken.2.operation? = none := by
    decide
  exact ⟨rfl, quiet, by decide +kernel, ((runWith_fixedList reopened rfl).2.1 all quiet).1⟩

end Session

end LanguageWorker

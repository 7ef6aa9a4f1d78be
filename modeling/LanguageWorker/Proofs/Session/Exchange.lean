import LanguageWorker.Proofs.Checked.Host
import LanguageWorker.Proofs.Documents.Exchange
import LanguageWorker.Proofs.Session.Removal

namespace LanguageWorker

/-! Steps that an editor may take in either order. Operations on two documents do not get in each
other's way, and none of them in that of a replacement of the extra declaration files, which does
not look at the documents. The order can be told from one thing only: documents that are opened
anew are listed in the order of their opening. -/

/-- A step that is to put other extra declaration files in place, if it is not refused. -/
inductive Step.ForExtraLibs : Step → Prop
  | direct (libs : ExtraLibs) : ForExtraLibs (.updateExtraLibs libs)
  | call (given : Json) : ForExtraLibs (.call "updateExtraLibs" given)

/-- Steps on two documents, or on a document and on the extra declaration files. -/
inductive Step.Independent : Step → Step → Prop
  | documents {first second : Step} {operation other : Store.Operation}
      (performs : first.operation? = some operation) (performsToo : second.operation? = some other)
      (apart : operation.uri ≠ other.uri) : Independent first second
  | document_extraLibs {first second : Step} {operation : Store.Operation}
      (performs : first.operation? = some operation) (replaces : second.ForExtraLibs) :
      Independent first second
  | extraLibs_document {first second : Step} {operation : Store.Operation}
      (replaces : first.ForExtraLibs) (performs : second.operation? = some operation) :
      Independent first second

namespace Session

/-- A step opens a document that is not open. -/
inductive Adds (session : Session) : Step → String → Prop
  | openDocument {uri : String} (closed : ¬ session.host.IsOpen uri) (text : String)
      (version : Int32) : Adds session (.openDocument uri text version) uri

/-- Two steps come to the same in either order. -/
structure Commutes (session : Session) (first second : Engine × Step) : Prop where
  replies : (session.runWith [second, first]).2 = (session.runWith [first, second]).2.reverse
  /-- Unless both add a document, the same files are there and are listed in the same order. -/
  host : (∀ uri other, session.Adds first.2 uri → ¬ session.Adds second.2 other) →
    (session.runWith [second, first]).1.host = (session.runWith [first, second]).1.host
  answers : ∀ question : Host.Question, question ≠ .scriptFileNames →
    (session.runWith [second, first]).1.host.answer question =
      (session.runWith [first, second]).1.host.answer question
  /-- Where both do, the two names are the other way round. -/
  listings : ∀ uri other, session.Adds first.2 uri → session.Adds second.2 other → uri ≠ other ∧
    (session.runWith [first, second]).1.host.scriptFileNames =
      session.host.directory.models.map Document.uri ++ [uri, other] ++
        session.host.extraLibs.keys ∧
    (session.runWith [second, first]).1.host.scriptFileNames =
      session.host.directory.models.map Document.uri ++ [other, uri] ++
        session.host.extraLibs.keys

end Session

namespace Host

/-- All questions but that for the listing are answered from documents looked up one by one. -/
theorem answer_of_model? (host : Host) {directory other : Directory}
    (same : ∀ name, directory.model? name = other.model? name) {question : Question}
    (unlisted : question ≠ .scriptFileNames) :
    ({ host with directory } : Host).answer question =
      { host with directory := other }.answer question := by
  have alike (name : String) :
      Alike { host with directory } { host with directory := other } name :=
    @alike_of_model? { host with directory := other } name directory (same name)
  cases question with
  | scriptFileNames => exact absurd rfl unlisted
  | scriptText name => exact (alike name).text
  | scriptVersion name => exact (alike name).version
  | scriptSnapshot name => exact (alike name).snapshot
  | fileText name => exact (alike name).fileText
  | fileExists name => exact (alike name).fileExists
  | piece name start stop =>
      exact congrArg (Option.map fun snapshot => snapshot.getText? start stop) (alike name).snapshot
  | _ => rfl

end Host

/-! ## Replacing the extra files -/

namespace Worker

/-- What comes back for a replacement does not depend on the worker. -/
theorem dispatch_updateExtraLibs_snd (worker other : Worker) (store otherStore : Store)
    (given : Json) :
    (other.dispatch otherStore "updateExtraLibs" given).2 =
      (worker.dispatch store "updateExtraLibs" given).2 := by
  cases decoded : Request.decode .updateExtraLibs given with
  | error cause =>
      have refused (worker : Worker) (store : Store) :
          worker.dispatch store "updateExtraLibs" given =
            (worker, .error (.invalidParameters "updateExtraLibs" cause)) :=
        dispatch_of_refused decoded
      rw [refused, refused]
  | ok request =>
      have takes := (Parameters.takes_one .extraLibs).map Request.updateExtraLibs
      rcases takes.decode_eq_ok_iff.1 decoded with ⟨_, ⟨libs, _⟩, _, _, rfl⟩
      have replaced (worker : Worker) (store : Store) :
          worker.dispatch store "updateExtraLibs" given =
            (worker.updateExtraLibs libs, .ok .null) :=
        dispatch_of_decoded .updateExtraLibs decoded
      rw [replaced, replaced]

end Worker

theorem Step.ForExtraLibs.operation? {step : Step} (replaces : step.ForExtraLibs) :
    step.operation? = none := by
  cases replaces with
  | direct libs => rfl
  | call given => rfl

namespace Session

variable {session last : Session} {first second : Engine × Step} {step : Step} {uri : String}
  {operation other : Store.Operation}

theorem stepWith_snd_of_forExtraLibs (replaces : step.ForExtraLibs) (session other : Session)
    (engine otherEngine : Engine) :
    (other.stepWith otherEngine step).2 = (session.stepWith engine step).2 := by
  cases replaces with
  | direct libs => rfl
  | call given => exact congrArg Reply.answer (Worker.dispatch_updateExtraLibs_snd _ _ _ _ given)

/-! ## Two steps -/

theorem runWith_pair (session : Session) (first second : Engine × Step) :
    session.runWith [first, second] =
      (((session.stepWith first.1 first.2).1.stepWith second.1 second.2).1,
        [(first.2, (session.stepWith first.1 first.2).2),
          (second.2, ((session.stepWith first.1 first.2).1.stepWith second.1 second.2).2)]) :=
  rfl

theorem replies_comm
    (firstReply : ((session.stepWith second.1 second.2).1.stepWith first.1 first.2).2 =
      (session.stepWith first.1 first.2).2)
    (secondReply : ((session.stepWith first.1 first.2).1.stepWith second.1 second.2).2 =
      (session.stepWith second.1 second.2).2) :
    (session.runWith [second, first]).2 = (session.runWith [first, second]).2.reverse := by
  rw [runWith_pair, runWith_pair, firstReply, secondReply]
  rfl

/-- Documents and extra files are all that two ends of a session can differ by. -/
theorem host_of_sameSetup (same : last.SameSetup session)
    (sees : session.worker.documents = Store.directory)
    (extraLibs : last.worker.extraLibs = session.worker.extraLibs) :
    last.host = { session.host with directory := last.store.directory } := by
  simp only [host, Worker.host, same.documents, same.libs, same.settings, sees, extraLibs]

theorem adds_iff (sees : session.worker.documents = Store.directory) :
    session.Adds step uri ↔
      ∃ operation, step.operation? = some operation ∧ session.store.Adds operation ∧
        operation.uri = uri := by
  have closed_iff (uri : String) :
      ¬ session.host.IsOpen uri ↔ uri ∉ session.store.listing.keys := by
    rw [Host.not_isOpen_iff, ← Store.isSome_get?_iff, Option.not_isSome_iff_eq_none,
      ← Worker.model?_of_directory sees]
    rfl
  constructor
  · intro adds
    cases adds with
    | openDocument closed text version => exact ⟨_, rfl, (closed_iff uri).1 closed, rfl⟩
  · intro described
    rcases described with ⟨operation, performs, adds, rfl⟩
    cases step with
    | openDocument uri text version =>
        cases performs
        exact .openDocument ((closed_iff uri).2 adds) text version
    | updateDocument uri text =>
        cases performs
        cases adds
    | closeDocument uri =>
        cases performs
        cases adds
    | updateExtraLibs libs => cases performs
    | call method given => cases performs

theorem Commutes.symm (commutes : session.Commutes first second) :
    session.Commutes second first where
  replies := by rw [commutes.replies, List.reverse_reverse]
  host quiet := (commutes.host fun uri other adds adds' => quiet other uri adds' adds).symm
  answers question unlisted := (commutes.answers question unlisted).symm
  listings uri other adds adds' := by
    rcases commutes.listings other uri adds' adds with ⟨apart, names, swapped⟩
    exact ⟨apart.symm, swapped, names⟩

/-- What two operations leave behind. -/
theorem host_runWith_pair (sees : session.worker.documents = Store.directory)
    (performs : first.2.operation? = some operation)
    (performsToo : second.2.operation? = some other) :
    (session.runWith [first, second]).1.host =
      { session.host with
        directory := ((session.store.perform operation).1.perform other).1.directory } := by
  have setup := (traced_runWith session [first, second]).toSameSetup
  have kept : (session.runWith [first, second]).1.worker.extraLibs = session.worker.extraLibs := by
    rw [runWith_pair, stepWith_extraLibs_of_operation? _ _ performsToo,
      stepWith_extraLibs_of_operation? _ _ performs]
  have store : (session.runWith [first, second]).1.store =
      ((session.store.perform operation).1.perform other).1 := by
    rw [runWith_pair, stepWith_store_of_operation? _ _ performsToo,
      stepWith_store_of_operation? _ _ performs]
  rw [host_of_sameSetup setup sees kept, store]

theorem fileNames_of_adds (sees : session.worker.documents = Store.directory)
    (performs : first.2.operation? = some operation)
    (performsToo : second.2.operation? = some other) (apart : operation.uri ≠ other.uri)
    (adds : session.store.Adds operation) (addsToo : session.store.Adds other) :
    (session.runWith [first, second]).1.host.scriptFileNames =
      session.host.directory.models.map Document.uri ++ [operation.uri, other.uri] ++
        session.host.extraLibs.keys := by
  have before : session.host.directory.models.map Document.uri = session.store.listing.keys := by
    rw [host, Worker.host, sees]
    exact session.store.map_uri_models
  rw [host_runWith_pair sees performs performsToo, before,
    ← Store.keys_perform_of_adds apart adds addsToo, ← Store.map_uri_models]
  rfl

theorem stepWith_snd_of_documents (performs : first.2.operation? = some operation)
    (performsToo : second.2.operation? = some other) (apart : operation.uri ≠ other.uri) :
    ((session.stepWith second.1 second.2).1.stepWith first.1 first.2).2 =
      (session.stepWith first.1 first.2).2 := by
  rw [stepWith_snd_of_operation? _ _ performs, stepWith_snd_of_operation? _ _ performs,
    stepWith_store_of_operation? _ _ performsToo, Store.perform_snd_of_ne _ apart]

theorem commutes_of_documents (sees : session.worker.documents = Store.directory)
    (performs : first.2.operation? = some operation)
    (performsToo : second.2.operation? = some other) (apart : operation.uri ≠ other.uri) :
    session.Commutes first second where
  replies := replies_comm (stepWith_snd_of_documents performs performsToo apart)
    (stepWith_snd_of_documents performsToo performs apart.symm)
  host quiet := by
    have once : ¬ (session.store.Adds operation ∧ session.store.Adds other) := fun both =>
      quiet _ _ ((adds_iff sees).2 ⟨_, performs, both.1, rfl⟩)
        ((adds_iff sees).2 ⟨_, performsToo, both.2, rfl⟩)
    rw [host_runWith_pair sees performs performsToo, host_runWith_pair sees performsToo performs,
      Store.directory_perform_comm apart once]
  answers question unlisted := by
    rw [host_runWith_pair sees performs performsToo, host_runWith_pair sees performsToo performs]
    exact Host.answer_of_model? _ (session.store.get?_perform_comm apart.symm) unlisted
  listings uri other adds addsToo := by
    rcases (adds_iff sees).1 adds with ⟨_, same, added, rfl⟩
    rcases (adds_iff sees).1 addsToo with ⟨_, sameToo, addedToo, rfl⟩
    cases performs.symm.trans same
    cases performsToo.symm.trans sameToo
    exact ⟨apart, fileNames_of_adds sees performs performsToo apart added addedToo,
      fileNames_of_adds sees performsToo performs apart.symm addedToo added⟩

theorem Same.host_eq (same : last.Same session) : last.host = session.host := by
  simp only [host, Worker.host, same.documents, same.libs, same.settings, same.store,
    same.extraLibs]

/-- A replacement and an operation leave the same behind in either order. -/
theorem same_of_forExtraLibs (performs : first.2.operation? = some operation)
    (replaces : second.2.ForExtraLibs) :
    (session.runWith [second, first]).1.Same (session.runWith [first, second]).1 := by
  have performsNothing := replaces.operation?
  have setup := (traced_runWith session [first, second]).toSameSetup
  have setupToo := (traced_runWith session [second, first]).toSameSetup
  refine ⟨setupToo.trans setup.symm, ?_, ?_⟩
  · rw [runWith_pair, runWith_pair, stepWith_store_of_operation? _ _ performs,
      stepWith_store_of_none _ _ performsNothing, stepWith_store_of_none _ _ performsNothing,
      stepWith_store_of_operation? _ _ performs]
  · have kept := stepWith_extraLibs_of_operation? session first.1 performs
    rw [runWith_pair, runWith_pair, stepWith_extraLibs_of_operation? _ _ performs]
    exact (stepWith_extraLibs_congr kept second.1 second.1 second.2).symm

theorem commutes_of_forExtraLibs (performs : first.2.operation? = some operation)
    (replaces : second.2.ForExtraLibs) : session.Commutes first second where
  replies := by
    apply replies_comm
    · rw [stepWith_snd_of_operation? _ _ performs, stepWith_snd_of_operation? _ _ performs,
        stepWith_store_of_none _ _ replaces.operation?]
    · exact stepWith_snd_of_forExtraLibs replaces _ _ _ _
  host _ := (same_of_forExtraLibs performs replaces).host_eq
  answers question _ := by rw [(same_of_forExtraLibs performs replaces).host_eq]
  listings uri other _ adds := by
    generalize second.2 = step at replaces adds
    cases adds
    cases replaces

/-- In every state that a session may reach, independent steps may be taken in either order. -/
theorem runWith_commutes (session : Session) (sees : session.worker.documents = Store.directory)
    (steps : List (Engine × Step)) {first second : Engine × Step}
    (independent : first.2.Independent second.2) :
    (session.runWith steps).1.Commutes first second := by
  have seesStill : (session.runWith steps).1.worker.documents = Store.directory :=
    (traced_runWith session steps).documents.trans sees
  cases independent with
  | documents performs performsToo apart =>
      exact commutes_of_documents seesStill performs performsToo apart
  | document_extraLibs performs replaces => exact commutes_of_forExtraLibs performs replaces
  | extraLibs_document replaces performs => exact (commutes_of_forExtraLibs performs replaces).symm

/-- Two documents are added, one of them under the name of an extra file. -/
theorem runWith_commutes_of_added :
    let session := (besideExtraLib.runWith [(markerEngine, .updateDocument "b" "two")]).1
    let first : Engine × Step := (markerEngine, .openDocument "g.d.ts" "hidden" 7)
    let second : Engine × Step := (markerEngine, .openDocument "c" "three" 3)
    besideExtraLib.worker.documents = Store.directory ∧ first.2.Independent second.2 ∧
      (session.runWith [first, second]).1.host.scriptFileNames = ["b", "g.d.ts", "c", "g.d.ts"] ∧
      (session.runWith [second, first]).1.host.scriptFileNames = ["b", "c", "g.d.ts", "g.d.ts"] ∧
      session.Commutes first second := by
  intro session first second
  have independent : first.2.Independent second.2 := .documents rfl rfl (by decide)
  exact ⟨rfl, independent, by decide +kernel, by decide +kernel,
    runWith_commutes besideExtraLib rfl _ independent⟩

end Session

end LanguageWorker

import LanguageWorker.Proofs.Documents.Removal
import LanguageWorker.Proofs.Host.Footprint
import LanguageWorker.Proofs.Session.Run

namespace LanguageWorker

/-! Documents that come and go. A run in which a document is opened and closed again is set
against the run without the operations on it, in which the engines may be others and may
answer differently. Between the two sessions there is that document and nothing else, and
when it is closed they show the same files. -/

/-- The URI of the document that a step is about. -/
def Step.uri? (step : Step) : Option String := step.operation?.map Store.Operation.uri

/-- What is sent back for an operation that came to an outcome. -/
def Reply.ofOutcome : Store.Outcome → Reply
  | .opened => .done
  | .updated outcome => .updated outcome
  | .closed wasOpen => .closed wasOpen

namespace Session

/-- What came back for the operations on the documents of other URIs. -/
def repliesElsewhere (uri : String) (trace : List (Step × Reply)) : List (Step × Reply) :=
  trace.filter fun entry => entry.1.uri?.any (· != uri)

/-- The second session is the first but for the document of one URI. -/
structure Without (uri : String) (first second : Session) : Prop extends
    SameSetup second first where
  stores : Store.Without uri first.store second.store
  extraLibs : second.worker.extraLibs = first.worker.extraLibs

variable {first second : Session} {uri : String} {step : Step}

/-! ## One step of two sessions -/

theorem stepWith_store_of_operation? (session : Session) (engine : Engine)
    {operation : Store.Operation} (performs : step.operation? = some operation) :
    (session.stepWith engine step).1.store = (session.store.perform operation).1 := by
  rw [stepWith_store, performs]
  rfl

theorem stepWith_snd_of_operation? (session : Session) (engine : Engine)
    {operation : Store.Operation} (performs : step.operation? = some operation) :
    (session.stepWith engine step).2 = .ofOutcome (session.store.perform operation).2 := by
  cases step with
  | openDocument uri text version => cases performs; rfl
  | updateDocument uri text => cases performs; rfl
  | closeDocument uri => cases performs; rfl
  | updateExtraLibs libs => cases performs
  | call method given => cases performs

theorem stepWith_extraLibs_of_operation? (session : Session) (engine : Engine)
    {operation : Store.Operation} (performs : step.operation? = some operation) :
    (session.stepWith engine step).1.worker.extraLibs = session.worker.extraLibs := by
  cases step with
  | openDocument uri text version => rfl
  | updateDocument uri text => rfl
  | closeDocument uri => rfl
  | updateExtraLibs libs => cases performs
  | call method given => cases performs

theorem stepWith_extraLibs_of_form (session : Session) (engine : Engine) {item : Json}
    {libs : ExtraLibs} (form : ExtraLibs.Form item libs) :
    (session.stepWith engine (.call "updateExtraLibs" (.array [item]))).1.worker.extraLibs =
      libs := by
  rw [stepWith_updateExtraLibs_of_form session engine form]
  rfl

/-- The extra declaration files behind a step hang on those before it, and neither on the
documents nor on what an engine answers. -/
theorem stepWith_extraLibs_congr (same : second.worker.extraLibs = first.worker.extraLibs)
    (engine other : Engine) (step : Step) :
    (second.stepWith other step).1.worker.extraLibs =
      (first.stepWith engine step).1.worker.extraLibs := by
  cases step with
  | openDocument uri text version => exact same
  | updateDocument uri text => exact same
  | closeDocument uri => exact same
  | updateExtraLibs libs => rfl
  | call method given =>
      by_cases named : method = "updateExtraLibs"
      · subst named
        rcases stepWith_updateExtraLibs second other given with
          ⟨_, _, kept⟩ | ⟨item, libs, rfl, form, _, _⟩
        · rcases stepWith_updateExtraLibs first engine given with
            ⟨_, _, keptToo⟩ | ⟨item, libs, rfl, form, _, _⟩
          · rw [kept.extraLibs, keptToo.extraLibs, same]
          · rw [stepWith_extraLibs_of_form first engine form,
              stepWith_extraLibs_of_form second other form]
        · rw [stepWith_extraLibs_of_form first engine form,
            stepWith_extraLibs_of_form second other form]
      · rw [(stepWith_call_of_ne second other given named).extraLibs,
          (stepWith_call_of_ne first engine given named).extraLibs, same]

namespace Without

theorem stepWith_left (without : Without uri first second) (engine : Engine)
    (about : step.uri? = some uri) : Without uri (first.stepWith engine step).1 second := by
  rcases Option.map_eq_some_iff.1 about with ⟨operation, performs, same⟩
  have setup := without.toSameSetup.trans (stepWith_sameSetup first engine step).symm
  refine ⟨setup, ?_, ?_⟩
  · rw [stepWith_store_of_operation? first engine performs]
    exact without.stores.perform_left same
  · rw [stepWith_extraLibs_of_operation? first engine performs]
    exact without.extraLibs

theorem stepWith_both (without : Without uri first second) (engine other : Engine)
    (elsewhere : step.uri? ≠ some uri) :
    Without uri (first.stepWith engine step).1 (second.stepWith other step).1 := by
  have setup := ((stepWith_sameSetup second other step).trans without.toSameSetup).trans
    (stepWith_sameSetup first engine step).symm
  refine ⟨setup, ?_, stepWith_extraLibs_congr without.extraLibs engine other step⟩
  cases performs : step.operation? with
  | none =>
      rw [stepWith_store_of_none first engine performs,
        stepWith_store_of_none second other performs]
      exact without.stores
  | some operation =>
      have different : operation.uri ≠ uri := fun same =>
        elsewhere (Option.map_eq_some_iff.2 ⟨operation, performs, same⟩)
      rw [stepWith_store_of_operation? first engine performs,
        stepWith_store_of_operation? second other performs]
      exact without.stores.perform_both different

/-- Of a step that is not about the document, the same is kept of what came back. -/
theorem repliesElsewhere_cons (without : Without uri first second) (engine other : Engine)
    (elsewhere : step.uri? ≠ some uri) {trace trace' : List (Step × Reply)}
    (later : repliesElsewhere uri trace' = repliesElsewhere uri trace) :
    repliesElsewhere uri ((step, (second.stepWith other step).2) :: trace') =
      repliesElsewhere uri ((step, (first.stepWith engine step).2) :: trace) := by
  cases performs : step.operation? with
  | none =>
      have nowhere : step.uri? = none := by rw [Step.uri?, performs, Option.map_none]
      simp only [repliesElsewhere, List.filter_cons, nowhere] at later ⊢
      exact later
  | some operation =>
      have different : operation.uri ≠ uri := fun same =>
        elsewhere (Option.map_eq_some_iff.2 ⟨operation, performs, same⟩)
      have answered : (second.stepWith other step).2 = (first.stepWith engine step).2 := by
        rw [stepWith_snd_of_operation? second other performs,
          stepWith_snd_of_operation? first engine performs, without.stores.perform_snd different]
      simp only [repliesElsewhere, List.filter_cons, answered] at later ⊢
      rw [later]

/-! ## Two runs -/

theorem runWith (without : Without uri first second) {steps others : List (Engine × Step)}
    (removed : others.map Prod.snd =
      (steps.map Prod.snd).filter fun step => step.uri? != some uri) :
    Without uri (first.runWith steps).1 (second.runWith others).1 ∧
      repliesElsewhere uri (second.runWith others).2 =
        repliesElsewhere uri (first.runWith steps).2 := by
  induction steps generalizing first second others with
  | nil =>
      cases List.map_eq_nil_iff.1 removed
      exact ⟨without, rfl⟩
  | cons taken rest induction =>
      rcases taken with ⟨engine, step⟩
      by_cases about : step.uri? = some uri
      · have removedLater : others.map Prod.snd =
            (rest.map Prod.snd).filter fun step => step.uri? != some uri := by
          simpa [about] using removed
        rcases induction (without.stepWith_left engine about) removedLater with ⟨last, replies⟩
        refine ⟨last, replies.trans ?_⟩
        simp [repliesElsewhere, Session.runWith, about]
      · have kept : others.map Prod.snd =
            step :: (rest.map Prod.snd).filter fun step => step.uri? != some uri := by
          simpa [about] using removed
        rcases List.map_eq_cons_iff.1 kept with
          ⟨⟨other, _⟩, tail, rfl, rfl, removedLater⟩
        rcases induction (without.stepWith_both engine other about) removedLater with
          ⟨last, replies⟩
        exact ⟨last, without.repliesElsewhere_cons engine other about replies⟩

/-- Nothing but the document stands between the files of the two. -/
theorem host_eq (without : Without uri first second)
    (sees : first.worker.documents = Store.directory) (closed : ¬ first.host.IsOpen uri) :
    second.host = first.host := by
  have absent : first.store.get? uri = none := by
    rw [Host.not_isOpen_iff] at closed
    rwa [← Worker.model?_of_directory sees]
  have directory : second.worker.documents second.store =
      first.worker.documents first.store := by
    rw [without.documents, sees]
    exact without.stores.directory_eq absent
  simp only [Session.host, Worker.host, directory, without.libs, without.settings,
    without.extraLibs]

end Without

/-- All that can be asked about the files is answered alike behind two runs, and so was every
operation on the documents of other URIs. -/
structure NoTrace (uri : String) (first second : Session × List (Step × Reply)) : Prop where
  fileNames : second.1.host.scriptFileNames = first.1.host.scriptFileNames
  files : ∀ name, second.1.host.Alike first.1.host name
  defaultLib : ∀ options,
    second.1.host.defaultLibFileName options = first.1.host.defaultLibFileName options
  replies : repliesElsewhere uri second.2 = repliesElsewhere uri first.2

/-- A document that is closed at the beginning and at the end of a run leaves no trace of
what was done with it in between. -/
theorem noTrace_runWith (session : Session) (uri : String) (steps others : List (Engine × Step))
    (sees : session.worker.documents = Store.directory)
    (closed : ¬ session.host.IsOpen uri)
    (closedAgain : ¬ (session.runWith steps).1.host.IsOpen uri)
    (removed : others.map Prod.snd =
      (steps.map Prod.snd).filter fun step => step.uri? != some uri) :
    NoTrace uri (session.runWith steps) (session.runWith others) := by
  have absent : session.store.get? uri = none := by
    rw [Host.not_isOpen_iff] at closed
    rwa [← Worker.model?_of_directory sees]
  have start : Without uri session session :=
    ⟨⟨rfl, rfl, rfl, rfl⟩, Store.without_self absent, rfl⟩
  rcases start.runWith removed with ⟨last, replies⟩
  have seesStill : (session.runWith steps).1.worker.documents = Store.directory :=
    (traced_runWith session steps).documents.trans sees
  have same := last.host_eq seesStill closedAgain
  constructor
  · rw [same]
  · intro name
    rw [same]
    exact ⟨rfl, rfl, rfl, rfl, rfl⟩
  · intro options
    rw [same]
  · exact replies

/-- An open document beside an extra declaration file. -/
def besideExtraLib : Session where
  store := Store.empty.openDocument "b" "one" 1
  worker := {
    documents := Store.directory
    engine := markerEngine
    libs := .empty
    settings := .empty
    extraLibs := .ofList [("g.d.ts", { content := "old", version := 1 })]
    inlayHintsOptions := .empty }

/-- The extra file is hidden by a document, replaced, and to be seen again; around that, two
other documents change their places. -/
def hidingSteps : List Step :=
  [.openDocument "g.d.ts" "hidden" 7, .updateDocument "b" "two",
    .call "updateExtraLibs" (.array [.object [("g.d.ts", .array [.string "new", .ofWord 2])]]),
    .openDocument "c" "three" 3, .updateDocument "g.d.ts" "hidden again", .closeDocument "b",
    .openDocument "g.d.ts" "anew" 1, .openDocument "b" "four" 4, .closeDocument "g.d.ts"]

def otherSteps : List Step :=
  [.updateDocument "b" "two",
    .call "updateExtraLibs" (.array [.object [("g.d.ts", .array [.string "new", .ofWord 2])]]),
    .openDocument "c" "three" 3, .closeDocument "b", .openDocument "b" "four" 4]

theorem noTrace_hidingSteps :
    let all := hidingSteps.map fun step => (markerEngine, step)
    let others := otherSteps.map fun step => (markerEngine, step)
    ¬ besideExtraLib.host.IsOpen "g.d.ts" ∧
      ¬ (besideExtraLib.runWith all).1.host.IsOpen "g.d.ts" ∧
      (besideExtraLib.runWith all).1.host.scriptFileNames = ["c", "b", "g.d.ts"] ∧
      (besideExtraLib.runWith all).1.host.scriptText? "g.d.ts" = some "new" ∧
      NoTrace "g.d.ts" (besideExtraLib.runWith all) (besideExtraLib.runWith others) := by
  intro all others
  have closed : ¬ besideExtraLib.host.IsOpen "g.d.ts" := by decide
  have closedAgain : ¬ (besideExtraLib.runWith all).1.host.IsOpen "g.d.ts" := by decide +kernel
  exact ⟨closed, closedAgain, by decide +kernel, by decide +kernel,
    noTrace_runWith besideExtraLib "g.d.ts" all others rfl closed closedAgain rfl⟩

end Session

end LanguageWorker
